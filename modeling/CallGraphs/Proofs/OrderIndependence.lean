import CallGraphs.Proofs.PassSuccess
/-!
# Independence of order

Procedures, call sites and the targets of a call site may come in any order: whether a pass hands
out graphs, and what these say, does not depend on it. Only which of several equal values stands
for all of them does.
-/

namespace CallGraphs

/-- Two entries of one call site with the same targets in some order, or both without a mapping. -/
def SameCalls (entry entry' : Value × Value) : Prop :=
  entry.1 = entry'.1 ∧ Option.Rel List.Perm entry.2.items? entry'.2.items?

/-- Two sources that differ in the order of their procedures, of their entries and of the targets
within an entry. -/
structure Source.Reordered (source source' : Source) : Prop where
  methods : source.methods.Perm source'.methods
  transitions : ∃ entries, List.Forall₂ SameCalls source.transitions entries ∧
    entries.Perm source'.transitions

/-- Two answers to a query: the same failure, or the same edges in some order. -/
def SameAnswer : Except Failure (List SensitiveEdge) → Except Failure (List SensitiveEdge) → Prop
  | .ok es, .ok es' => es.Perm es'
  | .error f, .error f' => f = f'
  | _, _ => False

/-- The same counts, kind by kind. -/
structure Stats.Same (stats stats' : Stats) : Prop where
  procedures : stats.procedures = stats'.procedures
  edges : stats.edges = stats'.edges
  contexts : stats.contexts = stats'.contexts
  callSites : stats.callSites = stats'.callSites
  edgeKinds (k : CallKind) : stats.edgeKinds.get? k = stats'.edgeKinds.get? k
  insensitiveEdges : stats.insensitiveEdges = stats'.insensitiveEdges
  collapsedEdges : stats.collapsedEdges = stats'.collapsedEdges

/-- Two results of a pass that say the same: the same context-sensitive edges in some order, found
by the same keys, equal sets of context-insensitive edges and of procedures, and the same counts. -/
structure Graphs.Alike (graphs graphs' : Graphs) : Prop where
  edges : graphs.contextGraph.edges.Perm graphs'.contextGraph.edges
  outOfContext (ctx : Value) : SameAnswer (graphs.contextGraph.edgesOutOfContext ctx)
    (graphs'.contextGraph.edgesOutOfContext ctx)
  outOfCallSite (ctx node : Value) : SameAnswer (graphs.contextGraph.edgesOutOfCallSite ctx node)
    (graphs'.contextGraph.edgesOutOfCallSite ctx node)
  intoContext (ctx : Value) : SameAnswer (graphs.contextGraph.edgesIntoContext ctx)
    (graphs'.contextGraph.edgesIntoContext ctx)
  callEdges : Distinct.SameMembers graphs.callGraph.edges graphs'.callGraph.edges
  callProcedures : Distinct.SameMembers graphs.callGraph.procedures graphs'.callGraph.procedures
  procedures : Distinct.SameMembers graphs.contextGraph.procedures graphs'.contextGraph.procedures
  stats : graphs.stats.Same graphs'.stats

theorem SameCalls.symm {entry entry' : Value × Value} (h : SameCalls entry entry') :
    SameCalls entry' entry := by
  obtain ⟨hsite, hitems⟩ := h
  refine ⟨hsite.symm, ?_⟩
  generalize entry.2.items? = items at hitems
  generalize entry'.2.items? = items' at hitems
  cases hitems with
  | none => exact .none
  | some hperm => exact .some hperm.symm

theorem SameCalls.fits_of_fits {classifier : Classifier} {entry entry' : Value × Value}
    (h : SameCalls entry entry') (hfits : Fits classifier entry) : Fits classifier entry' := by
  obtain ⟨hsite, hsame⟩ := h
  obtain ⟨⟨c, items, hcalls, hformed, hitems, hreaches⟩, hkeys⟩ := hfits
  rw [hitems] at hsame hkeys
  rw [hsite] at hcalls hkeys
  generalize hitems' : entry'.2.items? = targets' at hsame
  cases hsame with
  | @some _ items' hperm =>
      refine ⟨⟨c, items', hcalls, hformed, hitems', fun t ht => ?_⟩, fun t ht => ?_⟩
      · exact hreaches t (hperm.mem_iff.mpr ht)
      · rw [hitems'] at ht
        exact hkeys t (hperm.mem_iff.mpr ht)

theorem SameCalls.fits {classifier : Classifier} {entry entry' : Value × Value}
    (h : SameCalls entry entry') : Fits classifier entry ↔ Fits classifier entry' :=
  ⟨h.fits_of_fits, h.symm.fits_of_fits⟩

theorem recordedPairs_perm {entries entries' : List (Value × Value)}
    (h : List.Forall₂ SameCalls entries entries') :
    (recordedPairs entries).Perm (recordedPairs entries') := by
  induction h with
  | nil => exact .refl _
  | @cons entry entry' _ _ hentry _ ih =>
      obtain ⟨hsite, hitems⟩ := hentry
      have hfirst : ((entry.2.items?.getD []).map (entry.1, ·)).Perm
          ((entry'.2.items?.getD []).map (entry'.1, ·)) := by
        rw [hsite]
        generalize entry.2.items? = items at hitems
        generalize entry'.2.items? = items' at hitems
        cases hitems with
        | none => exact .refl _
        | some hperm => exact hperm.map _
      exact hfirst.append ih

section Reordering

variable {classifier : Classifier} {source source' : Source}

theorem Source.Reordered.recordedPairs (h : source.Reordered source') :
    (recordedPairs source.transitions).Perm (recordedPairs source'.transitions) := by
  obtain ⟨entries, hentries, hperm⟩ := h.transitions
  exact (recordedPairs_perm hentries).trans (hperm.flatMap_right _)

/-- Both passes hand out graphs, or none of them does. -/
theorem Source.Reordered.isOk_iff (h : source.Reordered source') (classifier : Classifier) :
    (∃ graphs, (transform classifier source).1 = .ok graphs) ↔
      ∃ graphs, (transform classifier source').1 = .ok graphs := by
  obtain ⟨entries, hentries, hperm⟩ := h.transitions
  rw [transform_isOk_iff, transform_isOk_iff,
    forall_mem_iff_of_forall₂ hentries fun _ _ _ hsame => hsame.fits]
  simp only [h.methods.mem_iff, hperm.mem_iff]

theorem Tabulated.perm (h : source.Reordered source') {es es' : List SensitiveEdge}
    (hes : Tabulated classifier source.transitions es)
    (hes' : Tabulated classifier source'.transitions es') : es.Perm es' := by
  have hmap : (es.map (Except.ok (ε := AccessFault))).Perm (es'.map .ok) := by
    rw [← hes.edges, ← hes'.edges]
    exact h.recordedPairs.map _
  exact (List.map_perm_map_iff fun _ _ => Except.ok.inj).mp hmap

end Reordering

theorem countKinds_concat (kinds : List CallKind) (k : CallKind) :
    countKinds (kinds ++ [k]) = (countKinds kinds).alter k fun n => n.getD 0 + 1 := by
  rw [countKinds, List.foldl_append]
  rfl

/-- A kind that occurs is counted as often as it occurs. -/
theorem get?_countKinds (kinds : List CallKind) (k : CallKind) :
    (countKinds kinds).get? k = if k ∈ kinds then some (kinds.count k) else none := by
  induction kinds using List.reverseRecOn with
  | nil => rfl
  | append_singleton kinds k' ih =>
      rw [countKinds_concat, OrdMap.get?_alter EquivOn.of_lawful trivial, ih]
      by_cases hk : k = k'
      · subst hk
        by_cases hmem : k ∈ kinds
        · simp [ih, hmem]
        · simp [ih, hmem, List.count_eq_zero_of_not_mem hmem]
      · have hne : (k == k') = false := by simpa using hk
        simp [hne, hk, List.count_append, Ne.symm hk]

theorem SameAnswer.of_perm {f f' : Value → List SensitiveEdge} (h : ∀ k, (f k).Perm (f' k))
    (k : Value) : SameAnswer (k.key.map f) (k.key.map f') := by
  cases k.key with
  | error _ => exact rfl
  | ok k' => exact h k'

/-- Collecting permuted keys gives equal sets, and as many values. -/
theorem Distinct.ofList_of_perm {α : Type} [BEq α] {P : α → Prop} (h : EquivOn P) {xs ys : List α}
    (hxs : ∀ x ∈ xs, P x) (hperm : xs.Perm ys) :
    SameMembers (ofList xs) (ofList ys) ∧ (ofList xs).length = (ofList ys).length := by
  have hys : ∀ y ∈ ys, P y := fun y hy => hxs y (hperm.mem_iff.mpr hy)
  have hsame := sameMembers_of_perm hperm
  refine ⟨fun v => ?_, length_ofList_of_sameMembers h hxs hys hsame⟩
  rw [sameMembers_ofList h hxs, sameMembers_ofList h hys, hsame v]

section Alike

variable {classifier : Classifier} {source source' : Source} {graphs graphs' : Graphs}
  {es es' : List SensitiveEdge}

theorem Built.callEdges_of_perm (h : Built classifier source graphs es)
    (h' : Built classifier source' graphs' es') (hes : es.Perm es') :
    Distinct.SameMembers graphs.callGraph.edges graphs'.callGraph.edges ∧
      graphs.callGraph.size = graphs'.callGraph.size := by
  rw [InsensitiveGraph.size, InsensitiveGraph.size, h.callEdges, h'.callEdges]
  exact Distinct.ofList_of_perm InsensitiveEdge.equivOn_keyed h.keyed (hes.map _)

theorem Built.procedures_of_perm (h : Built classifier source graphs es)
    (hmethods : source.methods.Perm source'.methods) (hes : es.Perm es') :
    Distinct.SameMembers (Distinct.ofList (source.methods ++ endpoints es))
        (Distinct.ofList (source'.methods ++ endpoints es')) ∧
      (Distinct.ofList (source.methods ++ endpoints es)).length =
        (Distinct.ofList (source'.methods ++ endpoints es')).length := by
  have hends : (endpoints es).Perm (endpoints es') := hes.flatMap_right _
  exact Distinct.ofList_of_perm Value.equivOn_hashable h.hashable_procedures
    (hmethods.append hends)

theorem Built.contexts_of_perm (h : Built classifier source graphs es)
    (h' : Built classifier source' graphs' es') (hes : es.Perm es') :
    graphs.contextGraph.contexts.length = graphs'.contextGraph.contexts.length := by
  have hkeys : ∀ v ∈ es.map SensitiveEdge.sourceContext ++ es.map SensitiveEdge.targetContext,
      v.hashable = true :=
    List.forall_mem_append.mpr
      ⟨List.forall_mem_map.mpr fun e he => (h.addable e he).sourceContext,
       List.forall_mem_map.mpr fun e he => (h.addable e he).targetContext⟩
  rw [h.contextGraph, h'.contextGraph, SensitiveGraph.contexts_ofEdges h.addable,
    SensitiveGraph.contexts_ofEdges h'.addable]
  exact (Distinct.ofList_of_perm Value.equivOn_hashable hkeys ((hes.map _).append (hes.map _))).2

theorem Built.callSites_of_perm (h : Built classifier source graphs es)
    (h' : Built classifier source' graphs' es') (hes : es.Perm es') :
    graphs.contextGraph.callSites.length = graphs'.contextGraph.callSites.length := by
  have hkeys : ∀ v ∈ es.map SensitiveEdge.callSite, v.hashable = true :=
    List.forall_mem_map.mpr fun e he => (h.addable e he).callSite
  rw [h.contextGraph, h'.contextGraph, SensitiveGraph.callSites_ofEdges,
    SensitiveGraph.callSites_ofEdges]
  exact (Distinct.ofList_of_perm Value.equivOn_hashable hkeys (hes.map _)).2

/-- The counts do not depend on the order in which the edges came in. Those that were left out as
repetitions are as many because the others are. -/
theorem Built.stats_of_perm (h : Built classifier source graphs es)
    (h' : Built classifier source' graphs' es') (hmethods : source.methods.Perm source'.methods)
    (hes : es.Perm es') : graphs.stats.Same graphs'.stats where
  procedures := by
    rw [h.counted.procedures, h'.counted.procedures, h.contextGraph, h'.contextGraph]
    exact (h.procedures_of_perm hmethods hes).2
  edges := by
    rw [h.counted.edges, h'.counted.edges, h.contextGraph, h'.contextGraph,
      SensitiveGraph.size_ofEdges, SensitiveGraph.size_ofEdges, hes.length_eq]
  contexts := by
    rw [h.counted.contexts, h'.counted.contexts, h.contexts_of_perm h' hes]
  callSites := by
    rw [h.counted.callSites, h'.counted.callSites, h.callSites_of_perm h' hes]
  edgeKinds k := by
    have hkinds := hes.map SensitiveEdge.kind
    rw [h.counted.edgeKinds, h'.counted.edgeKinds, get?_countKinds, get?_countKinds,
      hkinds.count_eq]
    simp only [hkinds.mem_iff]
  insensitiveEdges := by
    rw [h.counted.insensitiveEdges, h'.counted.insensitiveEdges, (h.callEdges_of_perm h' hes).2]
  collapsedEdges := by
    have hcount := h.collapsed
    have hcount' := h'.collapsed
    have hcalls := (h.callEdges_of_perm h' hes).2
    have hlength := hes.length_eq
    omega

theorem Built.alike_of_perm (h : Built classifier source graphs es)
    (h' : Built classifier source' graphs' es') (hmethods : source.methods.Perm source'.methods)
    (hes : es.Perm es') : graphs.Alike graphs' where
  edges := by
    rw [h.edges, h'.edges]
    exact hes
  outOfContext ctx := by
    rw [h.edgesOutOfContext, h'.edgesOutOfContext]
    exact .of_perm (fun _ => hes.filter _) ctx
  outOfCallSite ctx node := by
    rw [h.edgesOutOfCallSite, h'.edgesOutOfCallSite]
    exact .of_perm (fun _ => hes.filter _) (.site ctx node)
  intoContext ctx := by
    rw [h.edgesIntoContext, h'.edgesIntoContext]
    exact .of_perm (fun _ => hes.filter _) ctx
  callEdges := (h.callEdges_of_perm h' hes).1
  callProcedures := by
    rw [h.callProcedures, h'.callProcedures]
    exact (h.procedures_of_perm hmethods hes).1
  procedures := by
    rw [h.contextGraph, h'.contextGraph]
    exact (h.procedures_of_perm hmethods hes).1
  stats := h.stats_of_perm h' hmethods hes

end Alike

/-- Sources that differ in order alone fare alike: if one pass hands out graphs, so does the other,
and the graphs say the same. -/
theorem transform_order_independent (classifier : Classifier) {source source' : Source}
    (h : source.Reordered source') :
    ((∃ graphs, (transform classifier source).1 = .ok graphs) ↔
        ∃ graphs', (transform classifier source').1 = .ok graphs') ∧
      ∀ graphs graphs', (transform classifier source).1 = .ok graphs →
        (transform classifier source').1 = .ok graphs' → graphs.Alike graphs' := by
  refine ⟨h.isOk_iff classifier, fun graphs graphs' hok hok' => ?_⟩
  obtain ⟨es, hbuilt⟩ := transform_built hok
  obtain ⟨es', hbuilt'⟩ := transform_built hok'
  exact hbuilt.alike_of_perm hbuilt' h.methods (hbuilt.tabulated.perm h hbuilt'.tabulated)

/-- The procedures, call sites and targets of a table in another order. -/
def reversedSource : Source where
  methods := [.bool true, .bool false, .int 1]
  transitions :=
    [(.site (.context (.int 1) (.int 5)) (.int 7), .mapping [(.bool false, .null)]),
     (.site (.context (.bool true) .null) (.int 7),
      .mapping [(.int 2, .context (.int 2) .null), (.int 0, .context (.int 0) .null)])]

theorem mixedSource_reordered : mixedSource.Reordered reversedSource where
  methods := (List.reverse_perm mixedSource.methods).symm
  transitions := by
    refine ⟨reversedSource.transitions.reverse, ?_, List.reverse_perm _⟩
    refine .cons ⟨rfl, .some ?_⟩ (.cons ⟨rfl, .some (.refl _)⟩ .nil)
    exact .swap _ _ _

/-- One of two equal procedures stands for both, and which one depends on the order. -/
theorem transform_order_independent_mixed :
    mixedSource.Reordered reversedSource ∧
      ∃ graphs graphs', (transform staticClassifier mixedSource).1 = .ok graphs ∧
        (transform staticClassifier reversedSource).1 = .ok graphs' ∧ graphs.Alike graphs' ∧
        graphs.stats.collapsedEdges = 1 ∧
        graphs.callGraph.procedures = [.int 1, .bool false, .int 2] ∧
        graphs'.callGraph.procedures = [.bool true, .bool false, .int 2] := by
  have h : (transform staticClassifier mixedSource).1 = .ok _ := rfl
  have h' : (transform staticClassifier reversedSource).1 = .ok _ := rfl
  have halike := (transform_order_independent staticClassifier mixedSource_reordered).2 _ _ h h'
  exact ⟨mixedSource_reordered, _, _, h, h', halike, rfl, rfl, rfl⟩

end CallGraphs
