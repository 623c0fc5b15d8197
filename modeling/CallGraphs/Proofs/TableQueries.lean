import CallGraphs.Proofs.PassGraphs
/-!
# The queries of a table and of its graph

A transition table answers by scanning its own entries, the graph that is built from it by looking
up an index that was filled edge by edge. No two call sites of a table are equal, whatever calls
have made it, and so both give the same answers, in the same order.
-/

namespace CallGraphs

namespace TransitionTable

/-- A call that changes a table. -/
inductive Call where
  | addMethod (method : Value)
  | addTransition (site target context : Value)

/-- Make a call. -/
def Call.make : Call → TransitionTable → Outcome TransitionTable Unit
  | addMethod method, t => t.addMethod method
  | addTransition site target context, t => t.addTransition site target context

/-- A method becomes known, or the call fails and changes nothing. -/
theorem addMethod_cases (t : TransitionTable) (method : Value) :
    (method.hashable = true ∧
        t.addMethod method = .done { t with methods := Distinct.insert t.methods method } ()) ∨
      ∃ f, t.addMethod method = .fail t f := by
  cases hmethod : method.hashable with
  | true => exact .inl ⟨rfl, t.addMethod_of_hashable hmethod⟩
  | false =>
      right
      rw [addMethod, Outcome.withKey_of_unhashable hmethod]
      exact ⟨_, rfl⟩

theorem addMethod_transitions (t : TransitionTable) (method : Value) :
    (t.addMethod method).state.transitions = t.transitions := by
  rcases t.addMethod_cases method with ⟨_, hdone⟩ | ⟨f, hfail⟩
  · rw [hdone]
    rfl
  · rw [hfail]
    rfl

/-- The caller of a call site, if there is one, becomes known, or the call fails and changes
nothing. -/
theorem addCaller_cases (t : TransitionTable) {site source : Value}
    (hcaller : caller site = .ok source) :
    ((∀ m ∈ callerOf site, m.hashable = true) ∧
        (if source.isNull then Outcome.done t () else t.addMethod source) =
          .done { t with methods := Distinct.extend t.methods (callerOf site) } ()) ∨
      ∃ f, (if source.isNull then Outcome.done t () else t.addMethod source) = .fail t f := by
  rw [callerOf_eq hcaller]
  by_cases hnull : source.isNull = true
  · rw [if_pos hnull, if_pos hnull]
    exact .inl ⟨fun m hm => (by cases hm), rfl⟩
  · rw [if_neg hnull, if_neg hnull]
    rcases t.addMethod_cases source with ⟨hsource, hdone⟩ | hfail
    · exact .inl ⟨by simpa using hsource, hdone⟩
    · exact .inr hfail

/-- A transition is recorded, or its call fails and has made some procedures known at most: its
caller, or its caller and its target. -/
theorem addTransition_outcome (t : TransitionTable) (site target ctx : Value) :
    (site.hashable = true ∧ target.hashable = true ∧ (∃ source, caller site = .ok source) ∧
        t.addTransition site target ctx = .done (t.enter ⟨site, target, ctx⟩) ()) ∨
      ∃ f added, added <+: callerOf site ++ [target] ∧ (∀ m ∈ added, m.hashable = true) ∧
        t.addTransition site target ctx =
          .fail { t with methods := Distinct.extend t.methods added } f := by
  cases hcaller : caller site with
  | error fault =>
      refine .inr ⟨.access fault, [], List.nil_prefix, fun m hm => (by cases hm), ?_⟩
      simp only [addTransition, hcaller]
      rfl
  | ok source =>
      by_cases hkeys : site.hashable = true ∧ target.hashable = true
      · obtain ⟨hsite, htarget⟩ := hkeys
        exact .inl ⟨hsite, htarget, ⟨source, rfl⟩,
          t.addTransition_eq_enter hsite hcaller htarget ctx⟩
      · right
        simp only [addTransition, hcaller]
        rcases t.addCaller_cases hcaller with ⟨hcallers, hdone⟩ | ⟨f, hfail⟩
        · rw [hdone, Outcome.done_andThen]
          generalize ht : { t with methods := Distinct.extend t.methods (callerOf site) } = t'
          rcases t'.addMethod_cases target with ⟨htarget, hdone'⟩ | ⟨f, hfail⟩
          · have hsite : site.hashable = false := by simpa [htarget] using hkeys
            rw [hdone', Outcome.done_andThen, Outcome.withKey_of_unhashable hsite, ← ht]
            refine ⟨.unhashable (site.unhashable?.getD .list), callerOf site ++ [target],
              List.prefix_refl _, ?_, ?_⟩
            · exact List.forall_mem_append.mpr ⟨hcallers, by simpa using htarget⟩
            · rw [Distinct.extend_append]
              rfl
          · rw [hfail, Outcome.fail_andThen, ← ht]
            exact ⟨f, callerOf site, List.prefix_append _ _, hcallers, rfl⟩
        · rw [hfail, Outcome.fail_andThen]
          exact ⟨f, [], List.nil_prefix, fun m hm => (by cases hm), rfl⟩

/-- A transition is recorded, or its call leaves the transitions as they were. -/
theorem addTransition_cases (t : TransitionTable) (site target ctx : Value) :
    (site.hashable = true ∧ target.hashable = true ∧
        t.addTransition site target ctx = .done (t.enter ⟨site, target, ctx⟩) ()) ∨
      (t.addTransition site target ctx).state.transitions = t.transitions := by
  rcases t.addTransition_outcome site target ctx with ⟨hsite, htarget, _, hdone⟩ |
    ⟨f, added, _, _, hfail⟩
  · exact .inl ⟨hsite, htarget, hdone⟩
  · right
    rw [hfail]
    rfl

/-- What depends on the transitions alone, and is kept by recording calls, is kept by every call. -/
theorem make_invariant {P : TransitionTable → Prop}
    (htransitions : ∀ t t' : TransitionTable, P t → t'.transitions = t.transitions → P t')
    (henter : ∀ (t : TransitionTable) (r : CallRecord), P t → r.site.hashable = true →
      r.target.hashable = true → P (t.enter r))
    (call : Call) (t : TransitionTable) (ht : P t) : P (call.make t).state := by
  cases call with
  | addMethod method => exact htransitions t _ ht (addMethod_transitions t method)
  | addTransition site target ctx =>
      rcases addTransition_cases t site target ctx with ⟨hsite, htarget, heq⟩ | hsame
      · rw [Call.make, heq]
        exact henter t _ ht hsite htarget
      · exact htransitions t _ ht hsame

/-- The call sites of a table are keys, and no two of them are equal. -/
structure DistinctSites (t : TransitionTable) : Prop where
  hashable : ∀ site ∈ t.transitions.keys, site.hashable = true
  distinct : Distinct.AllUnequal t.transitions.keys

theorem distinctSites_empty : DistinctSites empty where
  hashable _ hsite := by cases hsite
  distinct := List.Pairwise.nil

theorem DistinctSites.of_transitions {t t' : TransitionTable} (ht : DistinctSites t)
    (h : t'.transitions = t.transitions) : DistinctSites t' := by
  constructor
  · rw [h]
    exact ht.hashable
  · rw [h]
    exact ht.distinct

theorem DistinctSites.enter {t : TransitionTable} (ht : DistinctSites t) {r : CallRecord}
    (hr : r.site.hashable = true) : DistinctSites (t.enter r) := by
  have hkeys : (t.enter r).transitions.keys = Distinct.insert t.transitions.keys r.site :=
    OrdMap.keys_alter t.transitions r.site _
  constructor
  · intro site hsite
    rw [hkeys] at hsite
    rcases Distinct.mem_insert hsite with hold | rfl
    · exact ht.hashable site hold
    · exact hr
  · rw [hkeys]
    exact Distinct.allUnequal_insert Value.equivOn_hashable hr ht.distinct

theorem make_distinctSites (call : Call) (t : TransitionTable) (ht : DistinctSites t) :
    DistinctSites (call.make t).state :=
  make_invariant (fun _ _ => DistinctSites.of_transitions)
    (fun _ _ ht hsite _ => ht.enter hsite) call t ht

/-- The pairs that a table records, read as a source. -/
theorem recordedPairs_toSource (t : TransitionTable) :
    recordedPairs t.toSource.transitions =
      t.transitions.entries.flatMap fun e => e.2.entries.map (e.1, ·) := by
  rw [recordedPairs, toSource, List.flatMap_map]
  rfl

/-- The number of recorded pairs, counted call site by call site. -/
theorem size_eq_length_pairs (t : TransitionTable) :
    t.size = (t.transitions.entries.flatMap fun e => e.2.entries.map (e.1, ·)).length := by
  rw [size, OrdMap.values]
  induction t.transitions.entries with
  | nil => rfl
  | cons e l ih =>
      rw [List.map_cons, List.foldr_cons, ih, List.flatMap_cons, List.length_append,
        List.length_map]
      rfl

section Queries

variable {t : TransitionTable} {es : List SensitiveEdge}
  (hes : es.map (fun e => (e.callSite, e.target, e.targetContext)) =
    recordedPairs t.toSource.transitions)

include hes

/-- The table lists what an edge says. -/
theorem lists_of_mem {e : SensitiveEdge} (he : e ∈ es) :
    t.Lists e.callSite e.target e.targetContext := by
  have hpair : (e.callSite, e.target, e.targetContext) ∈ recordedPairs t.toSource.transitions := by
    rw [← hes]
    exact List.mem_map_of_mem he
  rw [recordedPairs_toSource] at hpair
  obtain ⟨⟨site, targets⟩, hentry, hmem⟩ := List.mem_flatMap.mp hpair
  obtain ⟨⟨target, ctx⟩, htarget, heq⟩ := List.mem_map.mp hmem
  cases heq
  exact ⟨targets, hentry, htarget⟩

/-- The call sites of the edges into a context are those that the table finds by scanning it. -/
theorem callers_eq_sites (ht : DistinctSites t) {ctx : Value} (hctx : ctx.hashable = true) :
    t.callers ctx =
      ((es.filter (·.targetContext == ctx)).map SensitiveEdge.callSite).eraseDups := by
  have hsites : (es.filter (·.targetContext == ctx)).map SensitiveEdge.callSite =
      ((recordedPairs t.toSource.transitions).filter (·.2.2 == ctx)).map Prod.fst := by
    rw [← hes, List.filter_map, List.map_map]
    rfl
  have hentries : ((recordedPairs t.toSource.transitions).filter (·.2.2 == ctx)).map Prod.fst =
      t.transitions.entries.flatMap fun e =>
        (e.2.entries.filter (·.2 == ctx)).map fun _ => e.1 := by
    rw [recordedPairs_toSource, List.filter_flatMap, List.map_flatMap]
    apply List.flatMap_congr
    intro e _
    rw [List.filter_map, List.map_map]
    rfl
  have hscan : ∀ targets : OrdMap Value Value,
      (!(targets.entries.filter (·.2 == ctx)).isEmpty) = targets.values.any (ctx == ·) := by
    intro targets
    rw [OrdMap.values, List.any_map, Bool.eq_iff_iff]
    simp [Value.equivOn_hashable.comm hctx]
  have hkeys : ∀ e ∈ t.transitions.entries, e.1.hashable = true :=
    fun e he => ht.hashable e.1 (List.mem_map_of_mem he)
  rw [hsites, hentries, ← Distinct.ofList_eq_eraseDups, Distinct.ofList,
    Distinct.extend_flatMap_keys Value.equivOn_hashable Prod.fst _ hkeys ht.distinct
      fun _ _ => rfl, List.nil_append, callers]
  simp only [hscan]

/-- The edges out of a call site go to the targets that the table has for it. -/
theorem targets_eq_edges (ht : DistinctSites t) (site : Value) :
    t.targets site =
      (es.filter (·.callSite == site)).map fun e => (e.target, e.targetContext) := by
  have hpairs : (es.filter (·.callSite == site)).map (fun e => (e.target, e.targetContext)) =
      ((recordedPairs t.toSource.transitions).filter (·.1 == site)).map Prod.snd := by
    rw [← hes, List.filter_map, List.map_map]
    rfl
  have hentries : ((recordedPairs t.toSource.transitions).filter (·.1 == site)).map Prod.snd =
      ((t.transitions.entries.filter (·.1 == site)).map Prod.snd).flatMap OrdMap.entries := by
    rw [recordedPairs_toSource]
    induction t.transitions.entries with
    | nil => rfl
    | cons e l ih =>
        rw [List.flatMap_cons, List.filter_append, List.map_append, ih, List.filter_map,
          List.map_map, List.filter_cons]
        cases hsite : e.1 == site with
        | true =>
            have hall : ((fun x : Value × Value × Value => x.1 == site) ∘ fun x => (e.1, x)) =
                fun _ => true := funext fun _ => hsite
            rw [hall, List.filter_true]
            simp [Function.comp_def]
        | false =>
            have hnone : ((fun x : Value × Value × Value => x.1 == site) ∘ fun x => (e.1, x)) =
                fun _ => false := funext fun _ => hsite
            rw [hnone, List.filter_false]
            rfl
  rw [hpairs, hentries,
    OrdMap.filter_entries_eq_get? Value.equivOn_hashable ht.hashable ht.distinct, targets]
  cases t.transitions.get? site with
  | none => rfl
  | some found => simp

theorem size_eq_length : t.size = es.length := by
  rw [size_eq_length_pairs, ← recordedPairs_toSource, ← hes, List.length_map]

end Queries

/-- After any calls, failing ones included, a table and the graph built from it answer alike. The
call sites that reach a context are those of the edges into it, each once, where it first
occurs; the targets of a call site are those of the edges out of it, in order, and neither has an
answer for a call site that cannot be a key; and there is an edge for every recorded pair. A pass
comes to its end only if all call sites of the table have both their parts. -/
theorem table_queries_agree (calls : List Call) {classifier : Classifier} {graphs : Graphs}
    (h : (transform classifier (Outcome.stateAfter Call.make empty calls).toSource).1 =
      .ok graphs) :
    let t := Outcome.stateAfter Call.make empty calls
    (∀ ctx, ctx.hashable = true → ∃ es, graphs.contextGraph.edgesIntoContext ctx = .ok es ∧
      t.callers ctx = (es.map SensitiveEdge.callSite).eraseDups) ∧
    (∀ ctx node, t.getTargets (.site ctx node) =
      (graphs.contextGraph.edgesOutOfCallSite ctx node).map
        (List.map fun e => (e.target, e.targetContext))) ∧
    t.size = graphs.contextGraph.size := by
  intro t
  have ht : DistinctSites t :=
    Outcome.stateAfter_invariant make_distinctSites distinctSites_empty calls
  obtain ⟨es, hbuilt⟩ := transform_built h
  have hpairs := hbuilt.tabulated.pairs
  rw [hbuilt.contextGraph]
  refine ⟨?_, ?_, ?_⟩
  · intro ctx hctx
    refine ⟨es.filter (·.targetContext == ctx), ?_, callers_eq_sites hpairs ht hctx⟩
    rw [SensitiveGraph.edgesIntoContext_ofEdges hbuilt.addable, Value.key_of_hashable hctx]
    rfl
  · intro ctx node
    rw [SensitiveGraph.edgesOutOfCallSite_ofEdges hbuilt.addable, getTargets,
      funext (targets_eq_edges hpairs ht)]
    cases (Value.site ctx node).key <;> rfl
  · rw [SensitiveGraph.size_ofEdges]
    exact size_eq_length hpairs

/-- The context of a procedure that has one only. -/
def onlyContext (procedure : Int) : Value :=
  .context (.int procedure) .null

/-- Calls of which the second fails, the fourth is for a call site that equals the first one, and
the last takes the place of the third. -/
def overlappingCalls : List Call :=
  [.addTransition (.site (onlyContext 0) (.int 1)) (.int 5) (onlyContext 5),
   .addTransition (.site (onlyContext 0) (.list [])) (.int 5) (onlyContext 5),
   .addTransition (.site (onlyContext 0) (.int 2)) (.int 5) (onlyContext 5),
   .addTransition (.site (onlyContext 0) (.bool true)) (.int 6) (onlyContext 5),
   .addTransition (.site (onlyContext 0) (.int 2)) (.int 5) (onlyContext 6)]

/-- What the calls come to. -/
def overlappingTable : TransitionTable where
  methods := [.int 0, .int 5, .int 6]
  transitions := ⟨[
    (.site (onlyContext 0) (.int 1), ⟨[(.int 5, onlyContext 5), (.int 6, onlyContext 5)]⟩),
    (.site (onlyContext 0) (.int 2), ⟨[(.int 5, onlyContext 6)]⟩)]⟩

theorem table_queries_agree_overlapping :
    Outcome.stateAfter Call.make empty overlappingCalls = overlappingTable ∧
      ∃ graphs, (transform staticClassifier overlappingTable.toSource).1 = .ok graphs ∧
        (onlyContext 5).hashable = true ∧
        (∃ es, graphs.contextGraph.edgesIntoContext (onlyContext 5) = .ok es ∧ es.length = 2 ∧
          overlappingTable.callers (onlyContext 5) =
            (es.map SensitiveEdge.callSite).eraseDups) ∧
        overlappingTable.callers (onlyContext 5) = [.site (onlyContext 0) (.int 1)] ∧
        overlappingTable.getTargets (.site (onlyContext 0) (.bool true)) =
          (graphs.contextGraph.edgesOutOfCallSite (onlyContext 0) (.bool true)).map
            (List.map fun e => (e.target, e.targetContext)) ∧
        overlappingTable.size = graphs.contextGraph.size ∧ overlappingTable.size = 3 := by
  have htable : Outcome.stateAfter Call.make empty overlappingCalls = overlappingTable := rfl
  have h : (transform staticClassifier overlappingTable.toSource).1 = .ok _ := rfl
  rw [← htable] at h
  obtain ⟨hcallers, htargets, hsize⟩ := table_queries_agree overlappingCalls h
  rw [htable] at h hcallers htargets hsize
  obtain ⟨es, hes, hsites⟩ := hcallers (onlyContext 5) rfl
  have hlength : es.length = 2 := by
    cases hes
    rfl
  exact ⟨htable, _, h, rfl, ⟨es, hes, hlength, hsites⟩, rfl, htargets _ _, hsize, rfl⟩

end TransitionTable

end CallGraphs
