import CallGraphs.Proofs.TableQueries
/-!
# The indices partition the edges

An index lists every edge under exactly one of its keys: the answers for all keys, put together, are
the edges of the graph in some order, each as often as it is there. Where the edges come from a
transition table, those of one call site stand together, and so the edges that leave a context are
those of its call sites one after another.
-/

namespace CallGraphs

section Lists

variable {α β γ ε : Type}

theorem mapM_eq_ok {f : α → Except ε β} {g : α → β} {l : List α} (h : ∀ x ∈ l, f x = .ok (g x)) :
    l.mapM f = .ok (l.map g) := by
  induction l with
  | nil => rfl
  | cons x l ih =>
      obtain ⟨hx, hrest⟩ := List.forall_mem_cons.mp h
      rw [List.mapM_cons, hx, ih hrest]
      rfl

/-- A selection that keeps or drops each part as a whole selects parts. -/
theorem filter_flatMap_of_uniform {parts : List γ} {values : γ → List β} {test : β → Bool}
    {keep : γ → Bool} (h : ∀ part ∈ parts, ∀ x ∈ values part, test x = keep part) :
    (parts.flatMap values).filter test = (parts.filter keep).flatMap values := by
  induction parts with
  | nil => rfl
  | cons part parts ih =>
      obtain ⟨hpart, hrest⟩ := List.forall_mem_cons.mp h
      rw [List.flatMap_cons, List.filter_append, ih hrest]
      cases hkeep : keep part with
      | true =>
          have hall : (values part).filter test = values part := by
            apply List.filter_eq_self.mpr
            intro x hx
            rw [hpart x hx, hkeep]
          rw [hall, List.filter_cons_of_pos hkeep, List.flatMap_cons]
      | false =>
          have hnone : (values part).filter test = [] := by
            apply List.filter_eq_nil_iff.mpr
            intro x hx
            simp [hpart x hx, hkeep]
          rw [hnone, List.nil_append, List.filter_cons_of_neg (by simp [hkeep])]

end Lists

namespace Distinct

variable {α β γ : Type} [BEq α] {P : α → Prop}

/-- Values selected key by key are all values, each once, if no two keys are equal and the key of
each value is found among them. -/
theorem flatMap_filter_perm (h : EquivOn P) {key : β → α} {keys : List α} {xs : List β}
    (hkeys : AllUnequal keys) (hxs : ∀ x ∈ xs, P (key x))
    (hfound : ∀ x ∈ xs, keys.any (key x == ·) = true) :
    (keys.flatMap fun k => xs.filter (key · == k)).Perm xs := by
  induction keys generalizing xs with
  | nil =>
      cases xs with
      | nil => exact .refl _
      | cons x xs => cases hfound x List.mem_cons_self
  | cons k keys ih =>
      obtain ⟨hne, hkeys⟩ := List.pairwise_cons.mp hkeys
      -- A value of a later key is not a value of this one.
      have hlater : ∀ k' ∈ keys, xs.filter (key · == k') =
          (xs.filter fun x => !(key x == k)).filter (key · == k') := by
        intro k' hk'
        rw [List.filter_filter]
        apply List.filter_congr
        intro x hx
        cases hxk : key x == k with
        | false => simp
        | true =>
            have hkx : (k == key x) = true := (h.comm (hxs x hx) k).symm.trans hxk
            have hxk' : (key x == k') = false := by
              rw [Bool.eq_false_iff]
              intro hxk'
              have hkk' := h.trans (h.closed (hxs x hx) hxk) hkx hxk'
              rw [hne k' hk'] at hkk'
              cases hkk'
            simp [hxk']
      have hrest : (keys.flatMap fun k' =>
          (xs.filter fun x => !(key x == k)).filter (key · == k')).Perm
          (xs.filter fun x => !(key x == k)) := by
        apply ih hkeys
        · intro x hx
          exact hxs x (List.mem_of_mem_filter hx)
        · intro x hx
          obtain ⟨hmem, hxk⟩ := List.mem_filter.mp hx
          have hany := hfound x hmem
          rw [Bool.not_eq_true'] at hxk
          rwa [List.any_cons, hxk, Bool.false_or] at hany
      rw [List.flatMap_cons, List.flatMap_congr hlater]
      exact (hrest.append_left _).trans (List.filter_append_perm (key · == k) xs)

/-- The same for the different keys of a list that holds the key of every value. -/
theorem flatMap_filter_ofList_perm (h : EquivOn P) {key : β → α} {keys : List α} {xs : List β}
    (hkeys : ∀ k ∈ keys, P k) (hmem : ∀ x ∈ xs, key x ∈ keys) :
    ((ofList keys).flatMap fun k => xs.filter (key · == k)).Perm xs := by
  apply flatMap_filter_perm h (allUnequal_ofList h hkeys)
  · intro x hx
    exact hkeys (key x) (hmem x hx)
  · intro x hx
    rw [sameMembers_ofList h hkeys]
    exact any_self h (hkeys (key x) (hmem x hx)) (hmem x hx)

/-- Values in blocks of one key each are in order already when they are selected key by key. -/
theorem flatMap_filter_blocks (h : EquivOn P) {key : β → α} {keyOf : γ → α} {values : γ → List β}
    {blocks : List γ} (hP : ∀ b ∈ blocks, P (keyOf b)) (hblocks : AllUnequal (blocks.map keyOf))
    (hvalues : ∀ b ∈ blocks, ∀ x ∈ values b, key x = keyOf b) :
    ((blocks.map keyOf).flatMap fun k => (blocks.flatMap values).filter (key · == k)) =
      blocks.flatMap values := by
  induction blocks with
  | nil => rfl
  | cons b blocks ih =>
      obtain ⟨hb, hP⟩ := List.forall_mem_cons.mp hP
      obtain ⟨hne, hblocks⟩ := List.pairwise_cons.mp hblocks
      obtain ⟨hvaluesb, hvalues⟩ := List.forall_mem_cons.mp hvalues
      have hself : (values b).filter (key · == keyOf b) = values b := by
        apply List.filter_eq_self.mpr
        intro x hx
        rw [hvaluesb x hx]
        exact h.refl hb
      have hothers : (blocks.flatMap values).filter (key · == keyOf b) = [] := by
        apply List.filter_eq_nil_iff.mpr
        intro x hx
        obtain ⟨b', hb', hxb'⟩ := List.mem_flatMap.mp hx
        rw [hvalues b' hb' x hxb', ← h.comm hb, hne _ (List.mem_map_of_mem hb')]
        exact Bool.false_ne_true
      have hlater : ∀ k ∈ blocks.map keyOf,
          (values b ++ blocks.flatMap values).filter (key · == k) =
            (blocks.flatMap values).filter (key · == k) := by
        intro k hk
        have hnone : (values b).filter (key · == k) = [] := by
          apply List.filter_eq_nil_iff.mpr
          intro x hx
          rw [hvaluesb x hx, hne k hk]
          exact Bool.false_ne_true
        rw [List.filter_append, hnone, List.nil_append]
      rw [List.map_cons, List.flatMap_cons, List.flatMap_cons, List.flatMap_congr hlater,
        ih hP hblocks hvalues, List.filter_append, hself, hothers, List.append_nil]

/-- They are so too for the keys that have values, in the order of their first values. -/
theorem flatMap_filter_ofList (h : EquivOn P) {key : β → α} {keyOf : γ → α} {values : γ → List β}
    {blocks : List γ} (hP : ∀ b ∈ blocks, P (keyOf b)) (hblocks : AllUnequal (blocks.map keyOf))
    (hvalues : ∀ b ∈ blocks, ∀ x ∈ values b, key x = keyOf b) :
    ((ofList ((blocks.flatMap values).map key)).flatMap fun k =>
        (blocks.flatMap values).filter (key · == k)) = blocks.flatMap values := by
  have hkeys : (blocks.flatMap values).map key =
      blocks.flatMap fun b => (values b).map fun _ => keyOf b := by
    rw [List.map_flatMap]
    apply List.flatMap_congr
    intro b hb
    exact List.map_congr_left (hvalues b hb)
  have hfull : (blocks.filter fun b => !(values b).isEmpty).flatMap values =
      blocks.flatMap values := by
    have hflatten := List.flatten_filter_not_isEmpty (L := blocks.map values)
    rw [List.filter_map] at hflatten
    exact hflatten
  have hsublist : (blocks.filter fun b => !(values b).isEmpty).Sublist blocks :=
    List.filter_sublist
  have hofList : ofList (blocks.flatMap fun b => (values b).map fun _ => keyOf b) =
      (blocks.filter fun b => !(values b).isEmpty).map keyOf :=
    extend_flatMap_keys h keyOf values hP hblocks fun _ _ => rfl
  rw [hkeys, hofList]
  simp only [← hfull]
  apply flatMap_filter_blocks h
  · intro b hb
    exact hP b (hsublist.subset hb)
  · exact hblocks.sublist (hsublist.map keyOf)
  · intro b hb
    exact hvalues b (hsublist.subset hb)

end Distinct

/-- Whether a call site is within a context. -/
def Value.isWithin (ctx site : Value) : Bool :=
  match site.siteParts with
  | .ok parts => parts.1 == ctx
  | .error _ => false

namespace SensitiveGraph

/-- The edges that leave a call site, looked up by its two parts. -/
def edgesAt (g : SensitiveGraph) (site : Value) : Except Failure (List SensitiveEdge) :=
  match site.siteParts with
  | .ok parts => g.edgesOutOfCallSite parts.1 parts.2
  | .error fault => .error (.access fault)

/-- Each index of a graph lists every edge once, and the contexts are the ends of the edges. -/
structure Partitioned (g : SensitiveGraph) : Prop where
  contexts : Distinct.AllUnequal g.contexts
  callSites : Distinct.AllUnequal g.callSites
  outOfContext : ∃ answers, g.contexts.mapM g.edgesOutOfContext = .ok answers ∧
    answers.flatten.Perm g.edges
  intoContext : ∃ answers, g.contexts.mapM g.edgesIntoContext = .ok answers ∧
    answers.flatten.Perm g.edges
  outOfCallSite : ∃ answers, g.callSites.mapM g.edgesAt = .ok answers ∧
    answers.flatten.Perm g.edges
  hasContext {ctx : Value} (hctx : ctx.hashable = true) :
    ∃ found, g.hasContext ctx = .ok found ∧
      (found = true ↔ ∃ e ∈ g.edges, (e.sourceContext == ctx) = true ∨
        (e.targetContext == ctx) = true) ∧
      (found = true ↔ ∃ c ∈ g.contexts, (c == ctx) = true)

section Edges

variable {methods : List Value} {es : List SensitiveEdge} (hes : ∀ e ∈ es, GraphIndex.Addable e)

include hes

theorem hashable_contextEnds :
    ∀ v ∈ es.map SensitiveEdge.sourceContext ++ es.map SensitiveEdge.targetContext,
      v.hashable = true :=
  List.forall_mem_append.mpr
    ⟨List.forall_mem_map.mpr fun e he => (hes e he).sourceContext,
     List.forall_mem_map.mpr fun e he => (hes e he).targetContext⟩

theorem hashable_callSites : ∀ v ∈ es.map SensitiveEdge.callSite, v.hashable = true :=
  List.forall_mem_map.mpr fun e he => (hes e he).callSite

theorem hashable_of_mem_contexts {ctx : Value} (hctx : ctx ∈ (ofEdges methods es).contexts) :
    ctx.hashable = true := by
  rw [contexts_ofEdges hes] at hctx
  exact hashable_contextEnds hes ctx (Distinct.mem_ofList hctx)

/-- Both ends of an edge are found among the contexts. -/
theorem any_contexts_ofEdges (ctx : Value) :
    (ofEdges methods es).contexts.any (ctx == ·) =
      (es.any (ctx == ·.sourceContext) || es.any (ctx == ·.targetContext)) := by
  rw [contexts_ofEdges hes,
    Distinct.sameMembers_ofList Value.equivOn_hashable (hashable_contextEnds hes),
    List.any_append, List.any_map, List.any_map]
  rfl

theorem hasContext_ofEdges {ctx : Value} (hctx : ctx.hashable = true) :
    (ofEdges methods es).hasContext ctx = .ok ((ofEdges methods es).contexts.any (ctx == ·)) := by
  have hgroup : ∀ {key : SensitiveEdge → Value}, (∀ e ∈ es, (key e).hashable = true) →
      (OrdMap.groupBy key es).contains ctx = es.any (ctx == key ·) := by
    intro key hkey
    rw [OrdMap.contains_eq_any_keys, OrdMap.keys_groupBy,
      Distinct.sameMembers_ofList Value.equivOn_hashable (List.forall_mem_map.mpr hkey),
      List.any_map]
    rfl
  have hout := hgroup fun e he => (hes e he).sourceContext
  have hinto := hgroup fun e he => (hes e he).targetContext
  rw [any_contexts_ofEdges hes, hasContext, Value.key_of_hashable hctx, ofEdges]
  exact congrArg Except.ok (congrArg₂ or hout hinto)

/-- A call site of the graph is that of an edge, and is looked up by its parts. -/
theorem edgesAt_ofEdges {site : Value} (hsite : site ∈ (ofEdges methods es).callSites) :
    (ofEdges methods es).edgesAt site = .ok (es.filter (·.callSite == site)) := by
  rw [callSites_ofEdges] at hsite
  obtain ⟨e, he, rfl⟩ := List.mem_map.mp (Distinct.mem_ofList hsite)
  change (ofEdges methods es).edgesOutOfCallSite e.sourceContext e.instruction = _
  rw [edgesOutOfCallSite_ofEdges hes]
  exact Value.key_map_of_hashable (hes e he).callSite _

/-- The contexts select all edges by a key that is one of them for every edge. -/
theorem perm_of_contexts {key : SensitiveEdge → Value}
    (hkey : ∀ e ∈ es,
      key e ∈ es.map SensitiveEdge.sourceContext ++ es.map SensitiveEdge.targetContext) :
    ((ofEdges methods es).contexts.flatMap fun c => es.filter (key · == c)).Perm es := by
  rw [contexts_ofEdges hes]
  exact Distinct.flatMap_filter_ofList_perm Value.equivOn_hashable (hashable_contextEnds hes) hkey

theorem partitioned_ofEdges : (ofEdges methods es).Partitioned where
  contexts := by
    rw [contexts_ofEdges hes]
    exact Distinct.allUnequal_ofList Value.equivOn_hashable (hashable_contextEnds hes)
  callSites := by
    rw [callSites_ofEdges]
    exact Distinct.allUnequal_ofList Value.equivOn_hashable (hashable_callSites hes)
  outOfContext := by
    refine ⟨_, mapM_eq_ok (g := fun c => es.filter (·.sourceContext == c)) ?_, ?_⟩
    · intro ctx hctx
      rw [edgesOutOfContext_ofEdges hes]
      exact Value.key_map_of_hashable (hashable_of_mem_contexts hes hctx) _
    · rw [← List.flatMap_def, edges_ofEdges]
      apply perm_of_contexts hes
      exact fun e he => List.mem_append_left _ (List.mem_map_of_mem he)
  intoContext := by
    refine ⟨_, mapM_eq_ok (g := fun c => es.filter (·.targetContext == c)) ?_, ?_⟩
    · intro ctx hctx
      rw [edgesIntoContext_ofEdges hes]
      exact Value.key_map_of_hashable (hashable_of_mem_contexts hes hctx) _
    · rw [← List.flatMap_def, edges_ofEdges]
      apply perm_of_contexts hes
      exact fun e he => List.mem_append_right _ (List.mem_map_of_mem he)
  outOfCallSite := by
    refine ⟨_, mapM_eq_ok fun site hsite => edgesAt_ofEdges hes hsite, ?_⟩
    rw [← List.flatMap_def, edges_ofEdges, callSites_ofEdges]
    exact Distinct.flatMap_filter_ofList_perm Value.equivOn_hashable (hashable_callSites hes)
      fun e he => List.mem_map_of_mem he
  hasContext {ctx} hctx := by
    refine ⟨_, hasContext_ofEdges hes hctx, ?_, ?_⟩
    · rw [any_contexts_ofEdges hes, edges_ofEdges]
      simp only [Value.equivOn_hashable.comm hctx, Bool.or_eq_true, List.any_eq_true]
      constructor
      · rintro (⟨e, he, hsource⟩ | ⟨e, he, htarget⟩)
        · exact ⟨e, he, .inl hsource⟩
        · exact ⟨e, he, .inr htarget⟩
      · rintro ⟨e, he, hsource | htarget⟩
        · exact .inl ⟨e, he, hsource⟩
        · exact .inr ⟨e, he, htarget⟩
    · rw [List.any_eq_true]
      simp only [Value.equivOn_hashable.comm hctx]

/-- A call site is within a context exactly if its edges leave that context. -/
theorem isWithin_callSite {site : Value} (hsite : site ∈ (ofEdges methods es).callSites)
    {e : SensitiveEdge} (he : e ∈ es) (hcallSite : (e.callSite == site) = true) (ctx : Value) :
    (e.sourceContext == ctx) = ctx.isWithin site := by
  rw [callSites_ofEdges] at hsite
  obtain ⟨e', _, rfl⟩ := List.mem_map.mp (Distinct.mem_ofList hsite)
  have hsame : (e.sourceContext == e'.sourceContext) = true := by
    rw [SensitiveEdge.callSite, SensitiveEdge.callSite, Value.beq_site, Bool.and_eq_true]
      at hcallSite
    exact hcallSite.1
  exact Value.equivOn_hashable.congr_left (hes e he).sourceContext hsame ctx

/-- Where the edges stand together by call site, the edges that leave a context are those of its
call sites, one call site after another. -/
theorem edgesOutOfContext_eq_flatten
    (htogether : ((ofEdges methods es).callSites.flatMap fun site =>
      es.filter (·.callSite == site)) = es)
    {ctx : Value} (hctx : ctx.hashable = true) :
    ∃ answers,
      ((ofEdges methods es).callSites.filter ctx.isWithin).mapM (ofEdges methods es).edgesAt =
        .ok answers ∧
      (ofEdges methods es).edgesOutOfContext ctx = .ok answers.flatten := by
  have huniform : ∀ site ∈ (ofEdges methods es).callSites,
      ∀ e ∈ es.filter (·.callSite == site), (e.sourceContext == ctx) = ctx.isWithin site := by
    intro site hsite e he
    obtain ⟨hmem, hcallSite⟩ := List.mem_filter.mp he
    exact isWithin_callSite hes hsite hmem hcallSite ctx
  refine ⟨_, mapM_eq_ok fun site hsite => edgesAt_ofEdges hes (List.mem_of_mem_filter hsite), ?_⟩
  rw [edgesOutOfContext_ofEdges hes, Value.key_map_of_hashable hctx, ← List.flatMap_def,
    ← filter_flatMap_of_uniform huniform, htogether]

end Edges

end SensitiveGraph

namespace TransitionTable

variable {t : TransitionTable} {classifier : Classifier} {es : List SensitiveEdge}

/-- The edges that are built from a table stand together by call site. -/
theorem flatMap_callSites (ht : DistinctSites t)
    (hes : Tabulated classifier t.toSource.transitions es) :
    ((Distinct.ofList (es.map SensitiveEdge.callSite)).flatMap fun site =>
      es.filter (·.callSite == site)) = es := by
  have hkeys : t.toSource.transitions.map Prod.fst = t.transitions.keys :=
    List.map_map.trans rfl
  rw [hes.eq_recordedEdges, recordedPairs, recordedEdges, List.filterMap_flatMap]
  apply Distinct.flatMap_filter_ofList Value.equivOn_hashable
  · intro entry hentry
    apply ht.hashable
    rw [← hkeys]
    exact List.mem_map_of_mem hentry
  · rw [hkeys]
    exact ht.distinct
  · intro entry _ e he
    obtain ⟨t, _, heq⟩ := List.mem_map.mp (pair_mem_of_mem_recordedEdges he)
    exact (Prod.mk.inj heq).1.symm

end TransitionTable

/-- Whatever source a pass accepts, each index of its context-sensitive graph partitions the edges.
If the source is a table, then the edges that leave a context are those that leave its call sites,
one call site after another. -/
theorem transform_partitioned {classifier : Classifier} {source : Source} {graphs : Graphs}
    (h : (transform classifier source).1 = .ok graphs) :
    graphs.contextGraph.Partitioned ∧
      ∀ calls,
        source = (Outcome.stateAfter TransitionTable.Call.make .empty calls).toSource →
        ∀ ctx, ctx.hashable = true →
          ∃ answers,
            (graphs.contextGraph.callSites.filter ctx.isWithin).mapM graphs.contextGraph.edgesAt =
              .ok answers ∧
            graphs.contextGraph.edgesOutOfContext ctx = .ok answers.flatten := by
  obtain ⟨es, hbuilt⟩ := transform_built h
  have haddable := hbuilt.addable
  rw [hbuilt.contextGraph]
  refine ⟨SensitiveGraph.partitioned_ofEdges haddable, ?_⟩
  rintro calls rfl ctx hctx
  have ht := Outcome.stateAfter_invariant TransitionTable.make_distinctSites
    TransitionTable.distinctSites_empty calls
  apply SensitiveGraph.edgesOutOfContext_eq_flatten haddable _ hctx
  rw [SensitiveGraph.callSites_ofEdges]
  exact TransitionTable.flatMap_callSites ht hbuilt.tabulated

namespace TransitionTable

/-- Calls in two contexts in turn, of which the last is for a call site that equals the first. -/
def interleavedCalls : List Call :=
  [.addTransition (.site (onlyContext 0) (.int 1)) (.int 5) (onlyContext 5),
   .addTransition (.site (onlyContext 5) (.int 1)) (.int 0) (onlyContext 0),
   .addTransition (.site (onlyContext 0) (.int 2)) (.int 5) (onlyContext 5),
   .addTransition (.site (onlyContext 0) (.bool true)) (.int 6) (onlyContext 0)]

theorem transform_partitioned_interleaved :
    ∃ graphs,
      (transform staticClassifier
        (Outcome.stateAfter Call.make .empty interleavedCalls).toSource).1 = .ok graphs ∧
      graphs.contextGraph.Partitioned ∧ graphs.contextGraph.edges.length = 4 ∧
      graphs.contextGraph.contexts = [onlyContext 0, onlyContext 5] ∧
      (onlyContext 0).hashable = true ∧
      ∃ answers,
        (graphs.contextGraph.callSites.filter (onlyContext 0).isWithin).mapM
          graphs.contextGraph.edgesAt = .ok answers ∧
        answers.map List.length = [2, 1] ∧
        graphs.contextGraph.edgesOutOfContext (onlyContext 0) = .ok answers.flatten := by
  have h : (transform staticClassifier
      (Outcome.stateAfter Call.make .empty interleavedCalls).toSource).1 = .ok _ := rfl
  obtain ⟨hpartitioned, hsites⟩ := transform_partitioned h
  obtain ⟨answers, hanswers, hflatten⟩ := hsites interleavedCalls rfl (onlyContext 0) rfl
  have hlengths : answers.map List.length = [2, 1] := by
    cases hanswers
    rfl
  exact ⟨_, h, hpartitioned, rfl, rfl, rfl, answers, hanswers, hlengths, hflatten⟩

end TransitionTable

end CallGraphs
