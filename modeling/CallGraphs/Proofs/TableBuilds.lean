import CallGraphs.Proofs.TableHistories
import CallGraphs.Session
/-!
# Building graphs from a table

What the calls of a table accept and what a pass needs are different things. A call looks at the
call site and at the target, which become keys of the table, but not at the context of the target,
which becomes a key only in a graph; and it takes the absent value for a procedure, which no graph
has as a node. Main statement: how a pass over a table ends, whatever calls have made the table. It
hands out graphs or reports a fault of the table, unless there is an absent procedure, or a context
that cannot be a key or a text that cannot be formed comes in front of the first fault.
-/

namespace CallGraphs

/-- An entry as the calls of a table make it: the call site has a caller, the call site and the
targets can be keys, and no target is absent. The contexts of the targets may be anything. -/
structure Listed (entry : Value × Value) : Prop where
  site : entry.1.hashable = true
  caller : ∃ source, TransitionTable.caller entry.1 = .ok source
  targets : ∃ items, entry.2.items? = some items ∧ ∀ x ∈ items, x.1.hashable = true ∧ x.1 ≠ .null

theorem Listed.prepared {entry : Value × Value} (h : Listed entry) : Prepared entry := by
  obtain ⟨site, targets⟩ := entry
  obtain ⟨items, hitems, htargets⟩ := h.targets
  obtain ⟨source, hcaller⟩ := h.caller
  have hitems' : ∀ {items' : List (Value × Value)}, targets.items? = some items' →
      ∀ t ∈ items', t.1.hashable = true ∧ t.1 ≠ .null := by
    intro items' heq
    obtain rfl := Option.some.inj (hitems.symm.trans heq)
    exact htargets
  cases site with
  | site ctx node =>
      obtain ⟨hctx, hnode⟩ :=
        Bool.and_eq_true_iff.mp ((Value.hashable_site ctx node).symm.trans h.site)
      refine ⟨fun heq => (by cases heq), fun heq => (by cases heq), fun heq => ?_,
        fun heq hmethod => ?_, fun heq => ?_, hitems'⟩
      · cases heq
        exact hctx
      · cases heq
        exact TransitionTable.hashable_of_getMethod hctx hmethod
      · cases heq
        exact hnode
  | halfSite ctx =>
      have hctx : ctx.hashable = true :=
        (Value.hashable_iff.mp h.site).2.2 ctx (by simp [Value.parts])
      refine ⟨fun heq => (by cases heq), fun heq => ?_, fun heq => ?_, fun heq hmethod => ?_,
        fun heq => (by cases heq), hitems'⟩
      · cases heq
        rfl
      · cases heq
        exact hctx
      · cases heq
        exact TransitionTable.hashable_of_getMethod hctx hmethod
  | _ => cases hcaller

/-- The calling context of a listed entry does not fail to tell its procedure. -/
theorem Listed.getMethod_eq_ok {entry : Value × Value} (h : Listed entry) {ctx node : Value}
    (hsite : Decomposes entry.1 ctx node) : ∃ method, ctx.getMethod = .ok method := by
  obtain ⟨source, hcaller⟩ := h.caller
  rw [hsite.eq_site] at hcaller
  exact ⟨source, hcaller⟩

/-- The absent value is no node, and the first that comes in ends the pass before any entry. -/
theorem InsensitiveGraph.addProcedures_of_null {g : InsensitiveGraph} (hg : g.frozen = false)
    (hnone : .null ∉ g.procedures) {ps : List Value} (hps : ∀ p ∈ ps, p.hashable = true)
    (hnull : .null ∈ ps) : (g.addProcedures ps).answer = .error .nullNode := by
  induction ps generalizing g with
  | nil => cases hnull
  | cons p ps ih =>
      obtain ⟨hp, hrest⟩ := List.forall_mem_cons.mp hps
      by_cases hpnull : p = .null
      · rw [addProcedures]
        apply Outcome.andThen_eq_error
        rw [hpnull, addProcedure, hg, Multigraph.addNode_null hnone]
        rfl
      · obtain ⟨graph, hgraph⟩ := Multigraph.addNode_of_hashable g.graph hp hpnull
        have hadd : g.addProcedure p = .done { g with graph := graph } () := by
          simp [addProcedure, hg, hgraph]
        have hkept : .null ∉ graph.nodes := by
          have hnodes := Multigraph.null_not_mem_addNode hnone p
          rw [hgraph] at hnodes
          exact hnodes
        rw [addProcedures, hadd, Outcome.done_andThen]
        refine ih (g := { g with graph := graph }) hg hkept hrest ?_
        exact (List.mem_cons.mp hnull).resolve_left (Ne.symm hpnull)

theorem transform_of_null (classifier : Classifier) {source : Source}
    (hmethods : ∀ m ∈ source.methods, m.hashable = true) (hnull : .null ∈ source.methods) :
    (transform classifier source).1 = .error .nullNode := by
  have hindex : GraphIndex.empty.setProcedures source.methods = .done _ () :=
    GraphIndex.addProcedures_of_hashable .empty hmethods
  have hgraph : (InsensitiveGraph.empty.addProcedures source.methods).answer = .error .nullNode :=
    InsensitiveGraph.addProcedures_of_null rfl List.not_mem_nil hmethods hnull
  unfold transform
  simp only [hindex, hgraph, Outcome.done_answer]

namespace TransitionTable

/-- A call makes procedures known that can be keys, and no others. -/
theorem make_methods_hashable (call : Call) (t : TransitionTable)
    (ht : ∀ m ∈ t.methods, m.hashable = true) :
    ∀ m ∈ (call.make t).state.methods, m.hashable = true := by
  have hgrown : ∀ added : List Value, (∀ m ∈ added, m.hashable = true) →
      ∀ m ∈ Distinct.extend t.methods added, m.hashable = true := by
    intro added hadded m hm
    rcases Distinct.mem_extend hm with hold | hnew
    · exact ht m hold
    · exact hadded m hnew
  cases call with
  | addMethod method =>
      rw [Call.make]
      rcases t.addMethod_cases method with ⟨hmethod, hdone⟩ | ⟨f, hfail⟩
      · rw [hdone]
        exact hgrown [method] (by simpa using hmethod)
      · rw [hfail]
        exact ht
  | addTransition site target ctx =>
      rw [Call.make]
      rcases t.addTransition_outcome site target ctx with ⟨hsite, htarget, hcaller, hdone⟩ |
        ⟨f, added, _, hadded, hfail⟩
      · have hrecord : Recordable ⟨site, target, ctx⟩ := ⟨hsite, htarget, hcaller⟩
        rw [hdone]
        apply hgrown (callerOf site ++ [target])
        exact List.forall_mem_append.mpr ⟨hrecord.hashable_callerOf, by simpa using htarget⟩
      · rw [hfail]
        exact hgrown added hadded

/-- The entries of a table without an absent procedure are listed. -/
theorem listed_of_follows {t : TransitionTable} {rs : List CallRecord} (h : Follows t rs)
    (hsites : DistinctSites t) (hmethods : ∀ m ∈ t.methods, m.hashable = true)
    (hnull : .null ∉ t.methods) : ∀ entry ∈ t.toSource.transitions, Listed entry := by
  intro entry hentry
  obtain ⟨e, he, rfl⟩ := List.mem_map.mp hentry
  have hsite : e.1 ∈ t.transitions.keys := List.mem_map_of_mem he
  obtain ⟨source, hcaller, _⟩ := h.caller_known hsite
  refine ⟨hsites.hashable e.1 hsite, ⟨source, hcaller⟩, e.2.entries, rfl, ?_⟩
  intro x hx
  obtain ⟨m, hm, hxm⟩ := List.any_eq_true.mp (h.target_known he (List.mem_map_of_mem hx))
  have hmx : (m == x.1) = true := (Value.equivOn_hashable.comm (hmethods m hm) x.1).trans hxm
  refine ⟨Value.equivOn_hashable.closed (hmethods m hm) hmx, fun habsent => ?_⟩
  rw [habsent] at hxm
  exact hnull (Value.eq_null_of_beq hxm ▸ hm)

/-- How building graphs ends after any calls, failing ones included. An absent procedure ends it at
once. Otherwise there are graphs if every entry passes, and if not, the failure is that of the first
entry which does not. So it hands out graphs or reports a fault of the table exactly if no procedure
is absent and no context that cannot be a key and no text that cannot be formed comes before the
first fault. -/
theorem build_endings (calls : List Call) (config : Config) (s : Session) :
    let t := Outcome.stateAfter Call.make empty calls
    let classifier := Classifier.ofConfig config.classifier .standard
    let answer := (s.build classifier t.toSource).2.answer
    (.null ∈ t.methods → answer = .error .nullNode) ∧
    (.null ∉ t.methods →
      ((∃ graphs, answer = .ok graphs) ↔
        ∀ entry ∈ t.toSource.transitions, Passes classifier entry) ∧
      ∀ f, answer = .error f ↔ Stops classifier t.toSource.transitions f) ∧
    (((∃ graphs, answer = .ok graphs) ∨ ∃ fault, answer = .error (.table fault)) ↔
      .null ∉ t.methods ∧ (∀ u, ¬Stops classifier t.toSource.transitions (.unhashable u)) ∧
        ∀ stop, ¬Stops classifier t.toSource.transitions (.unformed stop)) := by
  intro t classifier answer
  have hmethods : ∀ m ∈ t.methods, m.hashable = true :=
    Outcome.stateAfter_invariant make_methods_hashable (fun _ hm => (by cases hm)) calls
  have hsites : DistinctSites t :=
    Outcome.stateAfter_invariant make_distinctSites distinctSites_empty calls
  have habsent : .null ∈ t.methods → answer = .error .nullNode := by
    intro hnull
    apply transform_of_null
    · exact hmethods
    · exact hnull
  have hlisted : .null ∉ t.methods → ∀ entry ∈ t.toSource.transitions, Listed entry :=
    fun hnull => listed_of_follows (follows_empty.stateAfter calls) hsites hmethods hnull
  have hpresent : .null ∉ t.methods →
      ((∃ graphs, answer = .ok graphs) ↔
        ∀ entry ∈ t.toSource.transitions, Passes classifier entry) ∧
      ∀ f, answer = .error f ↔ Stops classifier t.toSource.transitions f := by
    intro hnull
    apply transform_of_prepared
    · exact fun m hm => ⟨hmethods m hm, ne_of_mem_of_not_mem hm hnull⟩
    · exact fun entry hentry => (hlisted hnull entry hentry).prepared
  refine ⟨habsent, hpresent, ?_⟩
  rw [reported_iff]
  constructor
  · intro hreported
    have hnull : .null ∉ t.methods := by
      intro hnull
      obtain ⟨fault, hfault⟩ := hreported _ (habsent hnull)
      cases hfault
    refine ⟨hnull, fun u hstops => ?_, fun stop hstops => ?_⟩
    · obtain ⟨fault, hfault⟩ := hreported _ (((hpresent hnull).2 _).mpr hstops)
      cases hfault
    · obtain ⟨fault, hfault⟩ := hreported _ (((hpresent hnull).2 _).mpr hstops)
      cases hfault
  · rintro ⟨hnull, hkeys, hformed⟩ f herror
    have hstops := ((hpresent hnull).2 f).mp herror
    obtain ⟨entry, hentry, hoffends⟩ := hstops.exists_offends
    rcases hoffends.cause with htable | ⟨stop, rfl⟩ | ⟨ctx, node, fault, hsite, hfault, _⟩ |
      ⟨_, u, _, _, rfl⟩
    · exact htable
    · exact absurd hstops (hformed stop)
    · obtain ⟨method, hmethod⟩ := (hlisted hnull entry hentry).getMethod_eq_ok hsite
      rw [hmethod] at hfault
      cases hfault
    · exact absurd hstops (hkeys u)

/-- A call of a helper that is analysed in a context with a list as its value. -/
def listContextCalls : List Call :=
  [.addTransition (.site (.context (.text "main") .null) (.text "n")) (.text "helper")
    (.context (.text "helper") (.list []))]

/-- The context is taken by the table, and then it is not a fault of the table that is reported. -/
theorem list_context_escapes :
    Outcome.answers Call.make empty listContextCalls = [.ok ()] ∧
      ((Session.start staticClassifier true).build
        (.ofConfig (Config.default "").classifier .standard)
        (Outcome.stateAfter Call.make empty listContextCalls).toSource).2.answer =
          .error (.unhashable .list) :=
  ⟨rfl, rfl⟩

end TransitionTable

end CallGraphs
