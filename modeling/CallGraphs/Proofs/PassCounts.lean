import CallGraphs.Proofs.OrderIndependence
import Mathlib.Algebra.Ring.Nat
/-!
# The counts of a pass

The statistics of a pass are read off different places: lists of edges, the keys of the indices, the
nodes of the multigraph and a counter that runs along. They are the counts of the graphs that the
pass hands out. Kind by kind, the context-insensitive graph has at least one and at most as many
edges as the other.
-/

namespace CallGraphs

namespace Distinct

variable {α : Type} [BEq α]

theorem sublist_ofList (xs : List α) : (ofList xs).Sublist xs := by
  induction xs using List.reverseRecOn with
  | nil => exact .slnil
  | append_singleton xs x ih =>
      rw [ofList_concat, insert]
      split
      · exact ih.trans (List.sublist_append_left xs [x])
      · exact ih.append (.refl [x])

/-- Collecting values before they are mapped does not change which images are collected, if equal
values have one image. -/
theorem ofList_map_ofList {β : Type} [BEq β] [LawfulBEq β] {f : α → β}
    (hf : ∀ x y, (x == y) = true → f x = f y) (xs : List α) :
    ofList ((ofList xs).map f) = ofList (xs.map f) := by
  induction xs using List.reverseRecOn with
  | nil => rfl
  | append_singleton xs x ih =>
      rw [ofList_concat, List.map_append, List.map_singleton, ofList_concat, ← ih, insert]
      split
      · -- An equal value is there, and has brought in the image already.
        rename_i hfound
        obtain ⟨y, hy, hxy⟩ := List.any_eq_true.mp hfound
        refine (insert_eq_self ?_).symm
        rw [sameMembers_ofList EquivOn.of_lawful (fun _ _ => trivial), List.any_eq_true]
        exact ⟨f y, List.mem_map_of_mem hy, by rw [hf x y hxy, beq_self_eq_true]⟩
      · rw [List.map_append, List.map_singleton, ofList_concat]

theorem nodup_ofList [LawfulBEq α] (xs : List α) : (ofList xs).Nodup := by
  refine (allUnequal_ofList EquivOn.of_lawful fun _ _ => trivial).imp ?_
  intro a b hab
  exact ne_of_beq_false hab

end Distinct

namespace OrdMap

variable {α β : Type} [BEq α] [LawfulBEq α]

/-- A map without repeated keys is its keys with what looking them up finds. -/
theorem entries_eq_map_keys {m : OrdMap α β} (hm : m.keys.Nodup) {f : α → β}
    (hf : ∀ k ∈ m.keys, m.get? k = some (f k)) : m.entries = m.keys.map fun k => (k, f k) := by
  unfold get? at hf
  unfold keys at hm hf ⊢
  generalize m.entries = l at hm hf ⊢
  induction l with
  | nil => rfl
  | cons e l ih =>
      obtain ⟨a, v⟩ := e
      obtain ⟨hnew, hl⟩ := List.nodup_cons.mp hm
      obtain ⟨hfirst, hrest⟩ := List.forall_mem_cons.mp hf
      have hvalue : v = f a := Option.some.inj (List.lookup_cons_self.symm.trans hfirst)
      have hothers : ∀ k ∈ l.map Prod.fst, l.lookup k = some (f k) := by
        intro k hk
        have hne : (k == a) = false := beq_false_of_ne fun heq => hnew (heq ▸ hk)
        rw [← hrest k hk, List.lookup_cons, hne]
      rw [hvalue, List.map_cons, List.map_cons, ← ih hl hothers]

end OrdMap

section Kinds

variable (kinds : List CallKind)

theorem keys_countKinds : (countKinds kinds).keys = Distinct.ofList kinds := by
  induction kinds using List.reverseRecOn with
  | nil => rfl
  | append_singleton kinds k ih =>
      rw [countKinds_concat, OrdMap.keys_alter, ih, Distinct.ofList_concat]
      rfl

/-- Every kind that occurs is listed where it first occurs, with the number of its occurrences. -/
theorem entries_countKinds :
    (countKinds kinds).entries = (Distinct.ofList kinds).map fun k => (k, kinds.count k) := by
  rw [← keys_countKinds]
  apply OrdMap.entries_eq_map_keys
  · rw [keys_countKinds]
    exact Distinct.nodup_ofList kinds
  · intro k hk
    rw [keys_countKinds] at hk
    rw [get?_countKinds, if_pos (Distinct.mem_ofList hk)]

theorem values_countKinds :
    (countKinds kinds).values = (Distinct.ofList kinds).map fun k => kinds.count k := by
  rw [OrdMap.values, entries_countKinds, List.map_map]
  rfl

theorem one_le_of_mem_values_countKinds : ∀ n ∈ (countKinds kinds).values, 1 ≤ n := by
  intro n hn
  rw [values_countKinds] at hn
  obtain ⟨k, hk, rfl⟩ := List.mem_map.mp hn
  exact List.count_pos_iff.mpr (Distinct.mem_ofList hk)

/-- Counting one more raises one count by one. -/
theorem sum_values_alter (m : OrdMap CallKind Nat) (k : CallKind) :
    (m.alter k fun n => n.getD 0 + 1).values.sum = m.values.sum + 1 := by
  unfold OrdMap.values OrdMap.alter
  induction m.entries with
  | nil => rfl
  | cons e l ih =>
      obtain ⟨k', n⟩ := e
      rw [OrdMap.alterEntries]
      split
      · simp only [List.map_cons, List.sum_cons, Option.getD_some]
        omega
      · simp only [List.map_cons, List.sum_cons, ih]
        omega

theorem sum_values_countKinds : (countKinds kinds).values.sum = kinds.length := by
  induction kinds using List.reverseRecOn with
  | nil => rfl
  | append_singleton kinds k ih =>
      rw [countKinds_concat, sum_values_alter, ih, List.length_append, List.length_singleton]

end Kinds

/-- One of two counts is at most the other, kind by kind and in the same order. -/
def CountsAtMost (counts counts' : OrdMap CallKind Nat) : Prop :=
  List.Forall₂ (fun e e' => e.1 = e'.1 ∧ e.2 ≤ e'.2) counts.entries counts'.entries

/-- Leaving out occurrences, but not the last one of a kind, lowers counts only. -/
theorem countsAtMost_of_sublist {kinds kinds' : List CallKind} (h : kinds.Sublist kinds')
    (hsame : Distinct.ofList kinds = Distinct.ofList kinds') :
    CountsAtMost (countKinds kinds) (countKinds kinds') := by
  rw [CountsAtMost, entries_countKinds, entries_countKinds, hsame, List.forall₂_map_left_iff,
    List.forall₂_map_right_iff, List.forall₂_same]
  intro k _
  exact ⟨rfl, h.count_le k⟩

/-- Collecting edges leaves out repetitions, and never all edges of a kind. -/
theorem kinds_ofList (es : List SensitiveEdge) :
    ((Distinct.ofList (es.map SensitiveEdge.toInsensitive)).map InsensitiveEdge.kind).Sublist
        (es.map SensitiveEdge.kind) ∧
      Distinct.ofList
          ((Distinct.ofList (es.map SensitiveEdge.toInsensitive)).map InsensitiveEdge.kind) =
        Distinct.ofList (es.map SensitiveEdge.kind) := by
  have hkinds : (es.map SensitiveEdge.toInsensitive).map InsensitiveEdge.kind =
      es.map SensitiveEdge.kind := List.map_map
  constructor
  · rw [← hkinds]
    exact (Distinct.sublist_ofList _).map _
  · rw [Distinct.ofList_map_ofList, hkinds]
    intro e e' hsame
    exact (InsensitiveEdge.beq_iff.mp hsame).2.2.2

/-- The statistics of a pass are the counts of the graphs it hands out. The kinds are listed in the
order of their first edges; both graphs have the same ones, and the context-insensitive graph has
at most as many edges of each. -/
theorem transform_counts_graphs {classifier : Classifier} {source : Source} {graphs : Graphs}
    (h : (transform classifier source).1 = .ok graphs) :
    graphs.stats.edges = graphs.contextGraph.size ∧
      graphs.stats.contexts = graphs.contextGraph.contexts.length ∧
      graphs.stats.callSites = graphs.contextGraph.callSites.length ∧
      graphs.stats.procedures = graphs.contextGraph.procedures.length ∧
      graphs.stats.procedures = graphs.callGraph.stats.procedures ∧
      graphs.stats.insensitiveEdges = graphs.callGraph.size ∧
      graphs.stats.insensitiveEdges + graphs.stats.collapsedEdges = graphs.stats.edges ∧
      graphs.stats.edgeKinds.entries =
        (graphs.contextGraph.edges.map SensitiveEdge.kind).eraseDups.map
          (fun k => (k, (graphs.contextGraph.edges.map SensitiveEdge.kind).count k)) ∧
      (∀ n ∈ graphs.stats.edgeKinds.values, 1 ≤ n) ∧
      graphs.stats.edgeKinds.values.sum = graphs.stats.edges ∧
      graphs.callGraph.stats.edgeKinds.keys = graphs.stats.edgeKinds.keys ∧
      CountsAtMost graphs.callGraph.stats.edgeKinds graphs.stats.edgeKinds ∧
      graphs.callGraph.stats.edgeKinds.values.sum = graphs.stats.insensitiveEdges := by
  obtain ⟨es, hbuilt⟩ := transform_built h
  have hcounted := hbuilt.counted
  obtain ⟨hfewer, hsame⟩ := kinds_ofList es
  have hedges : graphs.stats.edges = es.length := by
    rw [hcounted.edges, hbuilt.contextGraph, SensitiveGraph.size_ofEdges]
  have hcalls : graphs.callGraph.stats.edgeKinds = countKinds
      ((Distinct.ofList (es.map SensitiveEdge.toInsensitive)).map InsensitiveEdge.kind) := by
    rw [← hbuilt.callEdges]
    rfl
  refine ⟨hcounted.edges, hcounted.contexts, hcounted.callSites, hcounted.procedures, ?procedures,
    hcounted.insensitiveEdges, ?collapsed, ?kinds, ?positive, ?sum, ?keys, ?atMost, ?callSum⟩
  case procedures =>
    rw [hcounted.procedures, hbuilt.contextGraph, InsensitiveGraph.stats, hbuilt.callProcedures]
    rfl
  case collapsed =>
    have hcollapsed := hbuilt.collapsed
    rw [hcounted.insensitiveEdges, hedges]
    omega
  case kinds =>
    rw [hbuilt.edges, hcounted.edgeKinds, entries_countKinds, Distinct.ofList_eq_eraseDups]
  case positive =>
    rw [hcounted.edgeKinds]
    exact one_le_of_mem_values_countKinds _
  case sum => rw [hcounted.edgeKinds, sum_values_countKinds, List.length_map, hedges]
  case keys => rw [hcalls, hcounted.edgeKinds, keys_countKinds, keys_countKinds, hsame]
  case atMost =>
    rw [hcalls, hcounted.edgeKinds]
    exact countsAtMost_of_sublist hfewer hsame
  case callSum =>
    rw [hcalls, sum_values_countKinds, List.length_map, ← hbuilt.callEdges,
      hcounted.insensitiveEdges]
    rfl

/-- A classifier for instructions that are their own kinds. -/
def literalClassifier : Classifier where
  aliases := .empty
  strict := false
  resolver := .ok

/-- A table with two kinds of calls, one of which repeats in another context. -/
def twoKindsSource : Source where
  methods := [.int 0]
  transitions :=
    [(.site (.context (.int 0) .null) (.kind .special), .mapping [(.int 1, .null)]),
     (.site (.context (.int 0) (.int 5)) (.kind .special), .mapping [(.int 1, .null)]),
     (.site (.context (.int 0) .null) (.kind .static), .mapping [(.int 1, .null)])]

theorem transform_counts_graphs_twoKinds :
    ∃ graphs, (transform literalClassifier twoKindsSource).1 = .ok graphs ∧
      CountsAtMost graphs.callGraph.stats.edgeKinds graphs.stats.edgeKinds ∧
      graphs.stats.insensitiveEdges + graphs.stats.collapsedEdges = graphs.stats.edges ∧
      graphs.stats.collapsedEdges = 1 ∧
      graphs.stats.edgeKinds.entries = [(.special, 2), (.static, 1)] ∧
      graphs.callGraph.stats.edgeKinds.entries = [(.special, 1), (.static, 1)] := by
  have h : (transform literalClassifier twoKindsSource).1 = .ok _ := rfl
  obtain ⟨_, _, _, _, _, _, hcollapsed, _, _, _, _, hfewer, _⟩ := transform_counts_graphs h
  exact ⟨_, h, hfewer, hcollapsed, rfl, rfl, rfl⟩

end CallGraphs
