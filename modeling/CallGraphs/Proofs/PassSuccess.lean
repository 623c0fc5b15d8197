import CallGraphs.Proofs.PassGraphs
/-!
# When a pass succeeds

A pass hands out graphs exactly if every procedure can be a node and every entry fits: it passes,
and whatever its edges are made of can be a key. The absent value never becomes a node, so an edge
that was added has two ends.
-/

namespace CallGraphs

/-- An entry of which all edges can be added: it passes, and if it has targets, then the call site
and the targets can be keys and no target is absent. -/
def Fits (classifier : Classifier) (entry : Value × Value) : Prop :=
  Passes classifier entry ∧ ∀ t ∈ entry.2.items?.getD [],
    entry.1.hashable = true ∧ t.1.hashable = true ∧ t.1 ≠ .null

theorem Value.eq_null_of_beq {v : Value} (h : (Value.null == v) = true) : v = .null := by
  cases v with
  | null => rfl
  | float d => cases d <;> cases h
  | _ => cases h

theorem Distinct.null_not_mem_insert {xs : List Value} {v : Value} (hxs : .null ∉ xs)
    (hv : v ≠ .null) : .null ∉ Distinct.insert xs v := by
  intro hmem
  rcases Distinct.mem_insert hmem with hold | hnew
  · exact hxs hold
  · exact hv hnew.symm

namespace Multigraph

variable {ε : Type} {g : Multigraph ε}

/-- The absent value is refused, unless it is a node already. -/
theorem addNode_null (hg : .null ∉ g.nodes) : g.addNode .null = .fail g .nullNode := by
  have hnew : g.adjacency.contains .null = false := by
    rw [contains_eq_any_nodes]
    apply List.any_eq_false.mpr
    intro x hx hnull
    exact hg (Value.eq_null_of_beq hnull ▸ hx)
  rw [addNode, Outcome.withKey_of_hashable rfl, hnew]
  rfl

/-- A node that was added to a graph without the absent value is not absent. -/
theorem ne_null_of_addNode (hg : .null ∉ g.nodes) {v : Value} {u : Unit}
    (h : (g.addNode v).answer = .ok u) : v ≠ .null := by
  rintro rfl
  rw [addNode_null hg] at h
  cases h

theorem null_not_mem_addNode (hg : .null ∉ g.nodes) (v : Value) :
    .null ∉ (g.addNode v).state.nodes := by
  unfold addNode
  cases hv : v.hashable with
  | false =>
      rw [Outcome.withKey_of_unhashable hv]
      exact hg
  | true =>
      rw [Outcome.withKey_of_hashable hv]
      split
      · exact hg
      · split
        · exact hg
        · rename_i hnull
          have hnodes : (g.adjacency.insert v .empty).keys = Distinct.insert g.nodes v :=
            OrdMap.keys_alter g.adjacency v _
          rw [Outcome.done_state, nodes, hnodes]
          exact Distinct.null_not_mem_insert hg fun heq => hnull (by rw [heq]; rfl)

theorem null_not_mem_addEdge (hg : .null ∉ g.nodes) (u v : Value) (key : EdgeKey) (e : ε) :
    .null ∉ (g.addEdge u v key e).state.nodes := by
  have hu := null_not_mem_addNode hg u
  have hv := null_not_mem_addNode hu v
  unfold addEdge
  rcases Outcome.andThen_cases (g.addNode u) _ with ⟨f, _, heq⟩ | ⟨_, hadded, heq⟩
  · rw [heq]
    exact hu
  · rw [heq]
    refine Outcome.andThen_state (Q := fun s : Multigraph ε => .null ∉ s.nodes) hv fun _ => ?_
    cases hkey : key.1.hashable with
    | false =>
        rw [Outcome.withKey_of_unhashable hkey]
        exact hv
    | true =>
        rw [Outcome.withKey_of_hashable hkey, Outcome.done_state, nodes_link]
        exact Distinct.null_not_mem_insert hv (ne_null_of_addNode hg hadded)

end Multigraph

namespace InsensitiveGraph

variable {g : InsensitiveGraph}

theorem null_not_mem_addProcedures (hg : .null ∉ g.procedures) (ps : List Value) :
    .null ∉ (g.addProcedures ps).state.procedures := by
  induction ps generalizing g with
  | nil => exact hg
  | cons p ps ih =>
      have hp : .null ∉ (g.addProcedure p).state.procedures := by
        unfold addProcedure
        split
        · exact hg
        · exact Multigraph.null_not_mem_addNode hg p
      refine Outcome.andThen_state (Q := fun s : InsensitiveGraph => .null ∉ s.procedures) hp ?_
      exact fun _ => ih hp

theorem null_not_mem_addEdge (hg : .null ∉ g.procedures) (e : InsensitiveEdge) :
    .null ∉ (g.addEdge e).state.procedures := by
  unfold addEdge
  split
  · exact hg
  · split
    · exact hg
    · exact hg
    · have hlink : .null ∉ (g.lift (g.graph.addEdge e.source e.target e.key e)).state.procedures :=
        Multigraph.null_not_mem_addEdge hg e.source e.target e.key e
      refine Outcome.andThen_state (Q := fun s : InsensitiveGraph => .null ∉ s.procedures) hlink ?_
      exact fun _ => hlink

end InsensitiveGraph

theorem Progress.Adds.null_not_mem {p q : Progress} {es : List SensitiveEdge} (h : p.Adds es q)
    (hp : .null ∉ p.graph.procedures) : .null ∉ q.graph.procedures := by
  induction h with
  | nil p => exact hp
  | report events _ ih => exact ih hp
  | cons added _ ih =>
      obtain ⟨_, _, _, _, _, hgraph, _⟩ := addEdge_eq_ok added
      apply ih
      rw [hgraph]
      exact InsensitiveGraph.null_not_mem_addEdge hp _

/-- The absent value is not among the procedures of a graph that a pass hands out. -/
theorem transform_null_not_mem {classifier : Classifier} {source : Source} {graphs : Graphs}
    (h : (transform classifier source).1 = .ok graphs) :
    .null ∉ graphs.callGraph.procedures := by
  obtain ⟨start, last, es, hpass⟩ := transform_eq_ok h
  have hstart : Value.null ∉ start.graph.procedures := by
    have hnone := InsensitiveGraph.null_not_mem_addProcedures (g := .empty) (List.not_mem_nil)
      source.methods
    rw [hpass.graph] at hnone
    exact hnone
  rw [hpass.callGraph]
  exact hpass.adds.null_not_mem hstart

theorem Progress.Adds.addable {p q : Progress} {es : List SensitiveEdge} (h : p.Adds es q) :
    ∀ e ∈ es, GraphIndex.Addable e := by
  induction h with
  | nil p => exact fun _ he => (by cases he)
  | report events _ ih => exact ih
  | cons added _ ih =>
      obtain ⟨_, _, hok, _⟩ := addEdge_eq_ok added
      exact List.forall_mem_cons.mpr ⟨(GraphIndex.addEdge_eq_ok hok).2, ih⟩

/-- An entry that is added passes, also if it has no targets. -/
theorem passes_of_addEntry {classifier : Classifier} {p : Progress} {site targets : Value}
    {u : Unit} (h : (addEntry classifier p site targets).answer = .ok u) :
    Passes classifier (site, targets) := by
  obtain ⟨ctx, node, method, items, hsite, hmethod, hformed, hitems, heq⟩ := addEntry_eq_ok h
  obtain ⟨hctx, hnode⟩ := decompose_eq_ok hsite
  obtain ⟨hfound, hnull⟩ := resolveMethod_eq_ok hmethod
  rw [heq] at h
  have hadds := addTargets_adds h
  refine ⟨⟨method, ctx, node, classifier.kind node⟩, items, ⟨⟨hctx, hnode⟩, hfound, hnull, rfl⟩,
    hformed, hitems, fun t ht => ?_⟩
  have haddable := List.forall_mem_map.mp hadds.addable t ht
  exact ⟨haddable.targetContext, List.forall_mem_map.mp hadds.formed t ht⟩

theorem passes_of_addEntries {classifier : Classifier} {p : Progress}
    {entries : List (Value × Value)} {u : Unit}
    (h : (addEntries classifier p entries).answer = .ok u) :
    ∀ entry ∈ entries, Passes classifier entry := by
  induction entries generalizing p with
  | nil => exact fun _ hentry => (by cases hentry)
  | cons entry entries ih =>
      unfold addEntries at h
      obtain ⟨_, hentry, heq⟩ := Outcome.andThen_eq_ok h
      rw [heq] at h
      exact List.forall_mem_cons.mpr ⟨passes_of_addEntry hentry, ih h⟩

section Success

variable {classifier : Classifier} {source : Source} {graphs : Graphs}

/-- None of the procedures of the source and of the ends of the edges is absent. -/
theorem ne_null_of_transform (h : (transform classifier source).1 = .ok graphs)
    {es : List SensitiveEdge} (hbuilt : Built classifier source graphs es) :
    ∀ v ∈ source.methods ++ endpoints es, v ≠ .null := by
  rintro v hv rfl
  have hfound : graphs.callGraph.procedures.any (.null == ·) = true := by
    rw [hbuilt.callProcedures,
      Distinct.sameMembers_ofList Value.equivOn_hashable hbuilt.hashable_procedures]
    exact Distinct.any_self Value.equivOn_hashable rfl hv
  obtain ⟨w, hw, hnull⟩ := List.any_eq_true.mp hfound
  exact transform_null_not_mem h (Value.eq_null_of_beq hnull ▸ hw)

theorem fits_of_transform (h : (transform classifier source).1 = .ok graphs) :
    ∀ entry ∈ source.transitions, Fits classifier entry := by
  obtain ⟨es, hbuilt⟩ := transform_built h
  obtain ⟨_, _, _, _, _, _, hrun, _⟩ := transform_run h
  intro entry hentry
  refine ⟨passes_of_addEntries (congrArg Outcome.answer hrun) entry hentry, fun t ht => ?_⟩
  have hpair : (entry.1, t) ∈ recordedPairs source.transitions :=
    List.mem_flatMap.mpr ⟨entry, hentry, List.mem_map_of_mem ht⟩
  rw [← hbuilt.tabulated.pairs] at hpair
  obtain ⟨e, he, heq⟩ := List.mem_map.mp hpair
  obtain ⟨hsite, rfl⟩ := Prod.mk.inj heq
  have haddable := hbuilt.addable e he
  have hend : e.target ∈ endpoints es := List.mem_flatMap.mpr ⟨e, he, by simp⟩
  refine ⟨hsite ▸ haddable.callSite, haddable.target, ?_⟩
  exact ne_null_of_transform h hbuilt e.target (List.mem_append_right _ hend)

end Success

theorem Fits.allKeyed {classifier : Classifier} {entry : Value × Value}
    (h : Fits classifier entry) : AllKeyed classifier entry := by
  intro c items hcalls hitems t ht
  have hkeys := h.2 t (by rwa [hitems])
  obtain ⟨hsite, htarget, hnull⟩ := hkeys
  rw [hcalls.decomposes.eq_site] at hsite
  have hctx := (Bool.and_eq_true_iff.mp ((Value.hashable_site _ _).symm.trans hsite)).1
  have hsource := TransitionTable.hashable_of_getMethod hctx hcalls.method
  exact ⟨hsite, hsource, hcalls.present, htarget, hnull⟩

/-- A pass hands out graphs exactly if its procedures can be nodes and its entries fit. -/
theorem transform_isOk_iff (classifier : Classifier) (source : Source) :
    (∃ graphs, (transform classifier source).1 = .ok graphs) ↔
      (∀ m ∈ source.methods, m.hashable = true ∧ m ≠ .null) ∧
        ∀ entry ∈ source.transitions, Fits classifier entry := by
  constructor
  · rintro ⟨graphs, h⟩
    obtain ⟨es, hbuilt⟩ := transform_built h
    refine ⟨fun m hm => ⟨hbuilt.methods m hm, ?_⟩, fits_of_transform h⟩
    exact ne_null_of_transform h hbuilt m (List.mem_append_left _ hm)
  · rintro ⟨hmethods, hentries⟩
    obtain ⟨start, hstart, _, hends⟩ := transform_of_methods classifier hmethods
    obtain ⟨last, hlast, hopen⟩ :=
      addEntries_of_passes (fun entry hentry => (hentries entry hentry).allKeyed)
        (fun entry hentry => (hentries entry hentry).1) hstart
    exact hends last hopen hlast

end CallGraphs
