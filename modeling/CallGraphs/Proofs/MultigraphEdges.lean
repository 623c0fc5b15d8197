import CallGraphs.Multigraph
import CallGraphs.Proofs.CallSequences
import CallGraphs.Proofs.ValueEquality
/-!
# Edges of a multigraph

Adding a node changes no edges, and adding an edge at a new key brings in exactly that edge, between
the nodes that equal its ends. An addition that fails has added nodes at most.
-/

namespace CallGraphs

/-- Equality is an equivalence around edge keys whose instruction can be a key. -/
theorem EdgeKey.equivOn_hashable : EquivOn fun key : EdgeKey => key.1.hashable = true := by
  simpa only [and_true] using Value.equivOn_hashable.prod (EquivOn.of_lawful (α := CallKind))

namespace Multigraph

variable {ε : Type}

/-- The edges to the targets of one node, by target and key. -/
def targetEdges (targets : OrdMap Value (OrdMap EdgeKey ε)) : List (Value × EdgeKey × ε) :=
  targets.entries.flatMap fun t => t.2.entries.map (t.1, ·)

theorem edges_eq_flatMap (g : Multigraph ε) :
    g.edges = g.adjacency.entries.flatMap fun s => (targetEdges s.2).map (s.1, ·) := by
  simp [edges, targetEdges, List.map_flatMap, Function.comp_def]

/-- A graph that differs from another by further nodes at most. -/
structure OnlyNodes (g g' : Multigraph ε) : Prop where
  edges : g'.edges = g.edges
  between (u v : Value) : g'.between u v = g.between u v
  nodes : g.nodes <+: g'.nodes

theorem OnlyNodes.refl (g : Multigraph ε) : OnlyNodes g g :=
  ⟨rfl, fun _ _ => rfl, List.prefix_refl _⟩

theorem OnlyNodes.trans {g₁ g₂ g₃ : Multigraph ε} (h : OnlyNodes g₁ g₂)
    (h' : OnlyNodes g₂ g₃) : OnlyNodes g₁ g₃ :=
  ⟨h'.edges.trans h.edges, fun u v => (h'.between u v).trans (h.between u v),
    h.nodes.trans h'.nodes⟩

theorem contains_eq_any_nodes (g : Multigraph ε) (v : Value) :
    g.adjacency.contains v = g.nodes.any (v == ·) :=
  g.adjacency.contains_eq_any_keys v

/-- A new node has no edges. -/
theorem onlyNodes_insert {g : Multigraph ε} {v : Value} (hv : v.hashable = true)
    (hnew : g.adjacency.contains v = false) : OnlyNodes g ⟨g.adjacency.insert v .empty⟩ where
  edges := by
    rw [edges_eq_flatMap, edges_eq_flatMap, OrdMap.entries_insert_of_not_contains hnew]
    simp [targetEdges, OrdMap.empty]
  between u w := by
    unfold between
    rw [OrdMap.insert, OrdMap.get?_alter Value.equivOn_hashable hv]
    cases huv : u == v with
    | false => rfl
    | true =>
        have hvu : (v == u) = true := (Value.equivOn_hashable.comm hv u).trans huv
        have hnone : g.adjacency.get? u = none := by
          rw [← OrdMap.get?_congr Value.equivOn_hashable hv hvu]
          simpa [OrdMap.contains] using hnew
        simp [hnone]
  nodes := by
    unfold nodes
    rw [OrdMap.insert, OrdMap.keys_alter]
    split
    · exact List.prefix_refl _
    · exact List.prefix_append _ _

theorem addNode_onlyNodes (g : Multigraph ε) (v : Value) :
    OnlyNodes g (g.addNode v).state := by
  unfold addNode
  cases hv : v.hashable with
  | false =>
      rw [Outcome.withKey_of_unhashable hv]
      exact .refl g
  | true =>
      rw [Outcome.withKey_of_hashable hv]
      split
      · exact .refl g
      · rename_i hnew
        split
        · exact .refl g
        · exact onlyNodes_insert hv (by simpa using hnew)

/-- A node that was added can be a key, and it is a node at the end if none equals it. -/
theorem addNode_eq_ok {g : Multigraph ε} {v : Value} {u : Unit}
    (h : (g.addNode v).answer = .ok u) :
    v.hashable = true ∧ (g.addNode v).state.nodes = Distinct.insert g.nodes v := by
  unfold addNode at h ⊢
  obtain ⟨hv, heq⟩ := Outcome.withKey_eq_ok h
  rw [heq] at h ⊢
  refine ⟨hv, ?_⟩
  rw [Distinct.insert, ← contains_eq_any_nodes]
  split
  · rfl
  · rename_i hnew
    split
    · rename_i hnull
      simp [hnew, hnull] at h
    · have hkeys := OrdMap.keys_alter g.adjacency v
        fun _ => (.empty : OrdMap Value (OrdMap EdgeKey ε))
      rw [contains_eq_any_nodes] at hnew
      exact hkeys.trans (if_neg hnew)

theorem between_congr {u v : Value} (hu : u.hashable = true) (hv : v.hashable = true)
    {u' v' : Value} (huu' : (u == u') = true) (hvv' : (v == v') = true) (g : Multigraph ε) :
    g.between u v = g.between u' v' := by
  unfold between
  rw [OrdMap.get?_congr Value.equivOn_hashable hu huu']
  cases g.adjacency.get? u' with
  | none => rfl
  | some targets =>
      rw [Option.bind_some, Option.bind_some,
        OrdMap.get?_congr Value.equivOn_hashable hv hvv']

/-- Linking two nodes changes the edges between these two only. -/
theorem between_link (g : Multigraph ε) {u v : Value} (hu : u.hashable = true)
    (hv : v.hashable = true) (key : EdgeKey) (e : ε) (u' v' : Value) :
    (g.link u v key e).between u' v' =
      if u' == u && v' == v then (g.between u v).insert key e else g.between u' v' := by
  have htargets : ((g.adjacency.get? u).bind (·.get? v)).getD .empty =
      ((((g.adjacency.get? u).getD .empty).get? v).getD .empty : OrdMap EdgeKey ε) := by
    cases g.adjacency.get? u <;> rfl
  unfold between link
  rw [OrdMap.get?_alter Value.equivOn_hashable hu]
  cases huu' : u' == u with
  | false => rfl
  | true =>
      have huu : (u == u') = true := (Value.equivOn_hashable.comm hu u').trans huu'
      rw [if_pos rfl, Option.bind_some, OrdMap.get?_alter Value.equivOn_hashable hv]
      cases v' == v with
      | true =>
          rw [htargets]
          rfl
      | false =>
          rw [← OrdMap.get?_congr Value.equivOn_hashable hu huu]
          cases g.adjacency.get? u <;> rfl

theorem contains_between_link (g : Multigraph ε) {u v : Value} {key : EdgeKey}
    (hu : u.hashable = true) (hv : v.hashable = true) (hkey : key.1.hashable = true) (e : ε)
    (u' v' : Value) (key' : EdgeKey) :
    ((g.link u v key e).between u' v').contains key' =
      (u' == u && v' == v && key' == key || (g.between u' v').contains key') := by
  rw [between_link g hu hv]
  cases huv : u' == u && v' == v with
  | false => rfl
  | true =>
      obtain ⟨huu', hvv'⟩ := Bool.and_eq_true_iff.mp huv
      rw [← Value.equivOn_hashable.comm hu] at huu'
      rw [← Value.equivOn_hashable.comm hv] at hvv'
      rw [if_pos rfl, OrdMap.contains_insert EdgeKey.equivOn_hashable hkey,
        between_congr hu hv huu' hvv', Bool.true_and]

theorem targetEdges_alter_perm (targets : OrdMap Value (OrdMap EdgeKey ε)) {v : Value}
    {key : EdgeKey} (hv : v.hashable = true)
    (hnew : ((targets.get? v).getD .empty).contains key = false) (e : ε) :
    ∃ v₀, (v == v₀) = true ∧
      (targetEdges (targets.alter v fun edges => (edges.getD .empty).insert key e)).Perm
        ((v₀, key, e) :: targetEdges targets) := by
  refine OrdMap.flatMap_alter_perm targets (Value.equivOn_hashable.refl hv) _
    OrdMap.entries (key, e) ?_
  rw [OrdMap.entries_insert_of_not_contains hnew]
  cases targets.get? v with
  | none => exact List.Perm.refl _
  | some edges => exact List.perm_append_comm

/-- Linking two nodes at a new key brings in one edge, between the nodes that equal the two. -/
theorem edges_link_perm (g : Multigraph ε) {u v : Value} {key : EdgeKey}
    (hu : u.hashable = true) (hv : v.hashable = true)
    (hnew : (g.between u v).contains key = false) (e : ε) :
    ∃ u₀ v₀, (u == u₀) = true ∧ (v == v₀) = true ∧
      (g.link u v key e).edges.Perm ((u₀, v₀, key, e) :: g.edges) := by
  have hnew' : ((((g.adjacency.get? u).getD .empty).get? v).getD .empty).contains key = false := by
    unfold between at hnew
    cases hget : g.adjacency.get? u with
    | none => rfl
    | some targets => simpa [hget] using hnew
  obtain ⟨v₀, hv₀, hperm⟩ := targetEdges_alter_perm _ hv hnew' e
  have hold : targetEdges ((g.adjacency.get? u).getD .empty) =
      (g.adjacency.get? u).elim [] targetEdges := by
    cases g.adjacency.get? u <;> rfl
  rw [hold] at hperm
  obtain ⟨u₀, hu₀, hperm'⟩ := OrdMap.flatMap_alter_perm g.adjacency
    (Value.equivOn_hashable.refl hu)
    (fun targets => (targets.getD .empty).alter v fun edges => (edges.getD .empty).insert key e)
    targetEdges (v₀, key, e) hperm
  refine ⟨u₀, v₀, hu₀, hv₀, ?_⟩
  rw [edges_eq_flatMap, edges_eq_flatMap]
  exact hperm'

theorem nodes_link (g : Multigraph ε) (u v : Value) (key : EdgeKey) (e : ε) :
    (g.link u v key e).nodes = Distinct.insert g.nodes u :=
  OrdMap.keys_alter g.adjacency u _

/-- Whether there is an edge is decided by the edges between its two ends. -/
theorem hasEdge_of_hashable (g : Multigraph ε) {u v : Value} {key : EdgeKey}
    (hu : u.hashable = true) (hv : v.hashable = true) (hkey : key.1.hashable = true) :
    g.hasEdge u v key = .ok ((g.between u v).contains key) := by
  simp only [Value.hashable, Option.isNone_iff_eq_none] at hu hv hkey
  unfold hasEdge between
  rw [hu, hv, hkey]
  cases g.adjacency.get? u with
  | none => rfl
  | some targets => cases hget : targets.get? v <;> simp [hget, OrdMap.contains]

/-- Looking for an edge finds one only at keys. -/
theorem hashable_of_hasEdge {g : Multigraph ε} {u v : Value} {key : EdgeKey}
    (h : g.hasEdge u v key = .ok true) :
    u.hashable = true ∧ v.hashable = true ∧ key.1.hashable = true := by
  simp only [Value.hashable, Option.isNone_iff_eq_none]
  unfold hasEdge at h
  split at h
  · cases h
  · rename_i hu
    split at h
    · cases h
    · split at h
      · cases h
      · rename_i hv
        split at h
        · cases h
        · split at h
          · cases h
          · rename_i hkey
            exact ⟨hu, hv, hkey⟩

/-- An addition that succeeds had its keys, and links the two nodes after they were added. -/
theorem addEdge_eq_ok {g : Multigraph ε} {u v : Value} {key : EdgeKey} {e : ε} {a : Unit}
    (h : (g.addEdge u v key e).answer = .ok a) :
    u.hashable = true ∧ v.hashable = true ∧ key.1.hashable = true ∧
      ∃ g', OnlyNodes g g' ∧ g'.nodes = Distinct.extend g.nodes [u, v] ∧
        (g.addEdge u v key e).state = g'.link u v key e := by
  unfold addEdge at h ⊢
  obtain ⟨_, hu, heq⟩ := Outcome.andThen_eq_ok h
  rw [heq] at h ⊢
  obtain ⟨_, hv, heq'⟩ := Outcome.andThen_eq_ok h
  rw [heq'] at h ⊢
  obtain ⟨hkey, heq''⟩ := Outcome.withKey_eq_ok h
  obtain ⟨huKey, huNodes⟩ := addNode_eq_ok hu
  obtain ⟨hvKey, hvNodes⟩ := addNode_eq_ok hv
  refine ⟨huKey, hvKey, hkey, ((g.addNode u).state.addNode v).state, ?_, ?_, ?_⟩
  · exact (addNode_onlyNodes g u).trans (addNode_onlyNodes _ v)
  · rw [hvNodes, huNodes]
    rfl
  · rw [heq'']
    rfl

/-- An addition that fails has added nodes at most. -/
theorem addEdge_eq_error {g : Multigraph ε} {u v : Value} {key : EdgeKey} {e : ε} {f : Failure}
    (h : (g.addEdge u v key e).answer = .error f) :
    OnlyNodes g (g.addEdge u v key e).state := by
  have hu := addNode_onlyNodes g u
  have hv := addNode_onlyNodes (g.addNode u).state v
  unfold addEdge at h ⊢
  rcases Outcome.andThen_cases (g.addNode u) _ with ⟨f', _, heq⟩ | ⟨_, _, heq⟩
  · rw [heq]
    exact hu
  · rw [heq] at h ⊢
    rcases Outcome.andThen_cases ((g.addNode u).state.addNode v) _ with
      ⟨f', _, heq'⟩ | ⟨_, _, heq'⟩
    · rw [heq']
      exact hu.trans hv
    · rw [heq'] at h ⊢
      cases hkey : key.1.hashable with
      | false =>
          rw [Outcome.withKey_of_unhashable hkey]
          exact hu.trans hv
      | true =>
          rw [Outcome.withKey_of_hashable hkey] at h
          cases h

end Multigraph

end CallGraphs
