import CallGraphs.InsensitiveGraph
import CallGraphs.Proofs.MultigraphEdges
/-!
# Storage of context-insensitive edges

A graph stores an edge in five places: the multigraph, the list, and the indices by instruction,
source and target. Only an edge that is new and whose parts can all be keys is stored, and then in
all five, so they always tell the same. Any other call adds nodes at most.
-/

namespace CallGraphs

namespace InsensitiveEdge

/-- All parts of an edge can be keys. -/
structure Keyed (e : InsensitiveEdge) : Prop where
  source : e.source.hashable = true
  instruction : e.instruction.hashable = true
  target : e.target.hashable = true

theorem beq_iff {a b : InsensitiveEdge} :
    (a == b) = true ↔ (a.source == b.source) = true ∧ (a.instruction == b.instruction) = true ∧
      (a.target == b.target) = true ∧ a.kind = b.kind := by
  change a.same b = true ↔ _
  simp [same, and_assoc]

/-- Equality is an equivalence around edges whose parts can be keys. -/
theorem equivOn_keyed : EquivOn Keyed where
  refl {a} ha := by
    rw [beq_iff]
    exact ⟨Value.equivOn_hashable.refl ha.source, Value.equivOn_hashable.refl ha.instruction,
      Value.equivOn_hashable.refl ha.target, rfl⟩
  comm {a} ha b := by
    rw [Bool.eq_iff_iff, beq_iff, beq_iff, Value.equivOn_hashable.comm ha.source,
      Value.equivOn_hashable.comm ha.instruction, Value.equivOn_hashable.comm ha.target,
      eq_comm (a := a.kind)]
  trans {a b c} ha hab hbc := by
    rw [beq_iff] at hab hbc ⊢
    obtain ⟨hs, hi, ht, hk⟩ := hab
    obtain ⟨hs', hi', ht', hk'⟩ := hbc
    exact ⟨Value.equivOn_hashable.trans ha.source hs hs',
      Value.equivOn_hashable.trans ha.instruction hi hi',
      Value.equivOn_hashable.trans ha.target ht ht', hk.trans hk'⟩
  closed {a b} ha hab := by
    obtain ⟨hs, hi, ht, _⟩ := beq_iff.mp hab
    exact ⟨Value.equivOn_hashable.closed ha.source hs,
      Value.equivOn_hashable.closed ha.instruction hi,
      Value.equivOn_hashable.closed ha.target ht⟩

/-- Edges are equal when they have equal ends and equal keys. -/
theorem beq_eq_key (a b : InsensitiveEdge) :
    (a == b) = (a.source == b.source && a.target == b.target && a.key == b.key) := by
  change a.same b = (a.source == b.source && a.target == b.target &&
    (a.instruction == b.instruction && a.kind == b.kind))
  unfold same
  ac_rfl

end InsensitiveEdge

namespace InsensitiveGraph

/-- A graph that differs from another by further nodes at most. -/
structure SameEdges (g g' : InsensitiveGraph) : Prop where
  edges : g'.edges = g.edges
  byInstruction : g'.byInstruction = g.byInstruction
  outOf : g'.outOf = g.outOf
  into : g'.into = g.into
  graph : Multigraph.OnlyNodes g.graph g'.graph

theorem SameEdges.refl (g : InsensitiveGraph) : SameEdges g g :=
  ⟨rfl, rfl, rfl, rfl, .refl g.graph⟩

theorem SameEdges.trans {g₁ g₂ g₃ : InsensitiveGraph} (h : SameEdges g₁ g₂)
    (h' : SameEdges g₂ g₃) : SameEdges g₁ g₃ where
  edges := h'.edges.trans h.edges
  byInstruction := h'.byInstruction.trans h.byInstruction
  outOf := h'.outOf.trans h.outOf
  into := h'.into.trans h.into
  graph := h.graph.trans h'.graph

theorem sameEdges_of_onlyNodes {g : InsensitiveGraph} {h : Multigraph InsensitiveEdge}
    (hh : Multigraph.OnlyNodes g.graph h) : SameEdges g { g with graph := h } :=
  ⟨rfl, rfl, rfl, rfl, hh⟩

/-- The graph with a new edge linked between its ends and stored. -/
def withEdge (g : InsensitiveGraph) (h : Multigraph InsensitiveEdge) (e : InsensitiveEdge) :
    InsensitiveGraph :=
  { g with graph := h.link e.source e.target e.key e }.store e

/-- The three things that adding an edge can come to. It fails and has added nodes at most; or the
edge is there and nothing changes; or it is new, and is stored after its ends were added as nodes.
-/
theorem addEdge_cases (g : InsensitiveGraph) (e : InsensitiveEdge) :
    (∃ f, (g.addEdge e).answer = .error f ∧ (g.addEdge e).state.frozen = g.frozen ∧
        SameEdges g (g.addEdge e).state) ∨
      (e.Keyed ∧ (g.graph.between e.source e.target).contains e.key = true ∧
        g.addEdge e = .done g false) ∨
      (e.Keyed ∧ (g.graph.between e.source e.target).contains e.key = false ∧
        ∃ h, Multigraph.OnlyNodes g.graph h ∧
          h.nodes = Distinct.extend g.procedures [e.source, e.target] ∧
          g.addEdge e = .done (g.withEdge h e) true) := by
  cases hfrozen : g.frozen with
  | true =>
      have heq : g.addEdge e = .fail g refusal := by simp [addEdge, hfrozen]
      rw [heq]
      exact .inl ⟨refusal, rfl, hfrozen, .refl g⟩
  | false =>
  cases hhas : g.graph.hasEdge e.source e.target e.key with
  | error f =>
      have heq : g.addEdge e = .fail g f := by simp [addEdge, hfrozen, hhas]
      rw [heq]
      exact .inl ⟨f, rfl, hfrozen, .refl g⟩
  | ok found =>
  cases found with
  | true =>
      have heq : g.addEdge e = .done g false := by simp [addEdge, hfrozen, hhas]
      obtain ⟨hs, ht, hi⟩ := Multigraph.hashable_of_hasEdge hhas
      rw [Multigraph.hasEdge_of_hashable g.graph hs ht hi] at hhas
      exact .inr (.inl ⟨⟨hs, hi, ht⟩, Except.ok.inj hhas, heq⟩)
  | false =>
      have heq : g.addEdge e =
          (g.lift (g.graph.addEdge e.source e.target e.key e)).andThen fun g _ =>
            .done (g.store e) true := by
        simp [addEdge, hfrozen, hhas]
      cases hadd : (g.graph.addEdge e.source e.target e.key e).answer with
      | error f =>
          have hfail : g.addEdge e =
              .fail { g with graph := (g.graph.addEdge e.source e.target e.key e).state } f := by
            rw [heq]
            simp [lift, hadd, Outcome.andThen, Outcome.fail]
          rw [hfail]
          exact .inl ⟨f, rfl, hfrozen, sameEdges_of_onlyNodes (Multigraph.addEdge_eq_error hadd)⟩
      | ok u =>
          obtain ⟨hs, ht, hi, h, honly, hnodes, hstate⟩ := Multigraph.addEdge_eq_ok hadd
          rw [Multigraph.hasEdge_of_hashable g.graph hs ht hi] at hhas
          refine .inr (.inr ⟨⟨hs, hi, ht⟩, Except.ok.inj hhas, h, honly, hnodes, ?_⟩)
          rw [heq]
          simp [lift, hadd, hstate, Outcome.andThen, withEdge]

/-- An entry of the multigraph stands for the edge it carries: its nodes equal the ends of the edge,
and its key is that of the edge. -/
structure StandsFor (x : Value × Value × EdgeKey × InsensitiveEdge) : Prop where
  source : (x.2.2.2.source == x.1) = true
  target : (x.2.2.2.target == x.2.1) = true
  key : x.2.2.1 = x.2.2.2.key

/-- The five places tell the same edges. -/
structure Stored (g : InsensitiveGraph) : Prop where
  keyed {e : InsensitiveEdge} (he : e ∈ g.edges) : e.Keyed
  distinct : g.edges.Pairwise fun a b => (a == b) = false
  outOf {p : Value} (hp : p.hashable = true) :
    g.outOf.bucket p = g.edges.filter (·.source == p)
  into {p : Value} (hp : p.hashable = true) :
    g.into.bucket p = g.edges.filter (·.target == p)
  byInstruction {i : Value} (hi : i.hashable = true) :
    g.byInstruction.bucket i = g.edges.filter (·.instruction == i)
  linked {e : InsensitiveEdge} (he : e.Keyed) :
    (g.graph.between e.source e.target).contains e.key = g.edges.any (e == ·)
  carried : (g.graph.edges.map (·.2.2.2)).Perm g.edges
  standsFor : ∀ x ∈ g.graph.edges, StandsFor x
  source {e : InsensitiveEdge} (he : e ∈ g.edges) : g.procedures.any (e.source == ·) = true
  target {e : InsensitiveEdge} (he : e ∈ g.edges) : g.procedures.any (e.target == ·) = true

theorem stored_empty : Stored empty where
  keyed he := by cases he
  distinct := List.Pairwise.nil
  outOf _ := rfl
  into _ := rfl
  byInstruction _ := rfl
  linked _ := rfl
  carried := List.Perm.refl _
  standsFor x hx := by cases hx
  source he := by cases he
  target he := by cases he

theorem any_of_prefix {xs ys : List Value} (h : xs <+: ys) {v : Value}
    (hv : xs.any (v == ·) = true) : ys.any (v == ·) = true := by
  obtain ⟨x, hx, hvx⟩ := List.any_eq_true.mp hv
  exact List.any_eq_true.mpr ⟨x, h.subset hx, hvx⟩

/-- Further nodes change nothing about the edges. -/
theorem Stored.of_sameEdges {g g' : InsensitiveGraph} (hg : Stored g) (h : SameEdges g g') :
    Stored g' where
  keyed he := hg.keyed (h.edges ▸ he)
  distinct := h.edges ▸ hg.distinct
  outOf hp := by rw [h.outOf, h.edges, hg.outOf hp]
  into hp := by rw [h.into, h.edges, hg.into hp]
  byInstruction hi := by rw [h.byInstruction, h.edges, hg.byInstruction hi]
  linked he := by rw [h.graph.between, h.edges, hg.linked he]
  carried := by rw [h.graph.edges, h.edges]; exact hg.carried
  standsFor := by rw [h.graph.edges]; exact hg.standsFor
  source he := any_of_prefix h.graph.nodes (hg.source (h.edges ▸ he))
  target he := any_of_prefix h.graph.nodes (hg.target (h.edges ▸ he))

/-- The nodes after a new edge was stored. -/
theorem procedures_withEdge (g : InsensitiveGraph) {h : Multigraph InsensitiveEdge}
    {e : InsensitiveEdge} (he : e.Keyed)
    (hnodes : h.nodes = Distinct.extend g.procedures [e.source, e.target]) :
    (g.withEdge h e).procedures = Distinct.extend g.procedures [e.source, e.target] := by
  have hlink : (g.withEdge h e).procedures = Distinct.insert h.nodes e.source :=
    Multigraph.nodes_link h e.source e.target e.key e
  rw [hlink, hnodes, Distinct.extend_cons, Distinct.extend_cons, Distinct.extend_nil]
  apply Distinct.insert_eq_self
  rw [Distinct.any_insert Value.equivOn_hashable he.target,
    Distinct.any_insert Value.equivOn_hashable he.source,
    Value.equivOn_hashable.refl he.source]
  simp

theorem any_procedures_withEdge (g : InsensitiveGraph) {h : Multigraph InsensitiveEdge}
    {e : InsensitiveEdge} (he : e.Keyed)
    (hnodes : h.nodes = Distinct.extend g.procedures [e.source, e.target]) (v : Value) :
    (g.withEdge h e).procedures.any (v == ·) =
      (g.procedures.any (v == ·) || v == e.source || v == e.target) := by
  rw [procedures_withEdge g he hnodes, Distinct.extend_cons, Distinct.extend_cons,
    Distinct.extend_nil, Distinct.any_insert Value.equivOn_hashable he.target,
    Distinct.any_insert Value.equivOn_hashable he.source]

/-- Storing a new edge keeps the five places in step. -/
theorem Stored.withEdge {g : InsensitiveGraph} (hg : Stored g) {h : Multigraph InsensitiveEdge}
    {e : InsensitiveEdge} (he : e.Keyed)
    (hnew : (g.graph.between e.source e.target).contains e.key = false)
    (honly : Multigraph.OnlyNodes g.graph h)
    (hnodes : h.nodes = Distinct.extend g.procedures [e.source, e.target]) :
    Stored (g.withEdge h e) := by
  have hedges : (g.withEdge h e).edges = g.edges ++ [e] := rfl
  have hnone : g.edges.any (e == ·) = false := by rw [← hg.linked he, hnew]
  have hprocedures := any_procedures_withEdge g he hnodes
  obtain ⟨u, v, hu, hv, hperm⟩ := Multigraph.edges_link_perm h he.source he.target
    (by rw [honly.between, hnew]) e
  rw [honly.edges] at hperm
  refine ⟨?keyed, ?distinct, ?outOf, ?into, ?byInstruction, ?linked, ?carried, ?standsFor,
    ?source, ?target⟩
  case keyed =>
    intro a ha
    rw [hedges, List.mem_append, List.mem_singleton] at ha
    rcases ha with hold | rfl
    · exact hg.keyed hold
    · exact he
  case distinct =>
    rw [hedges, List.pairwise_append]
    refine ⟨hg.distinct, List.pairwise_singleton _ _, ?_⟩
    intro a ha b hb
    rw [List.mem_singleton] at hb
    subst hb
    rw [← InsensitiveEdge.equivOn_keyed.comm he]
    simpa using List.any_eq_false.mp hnone a ha
  case outOf =>
    intro p hp
    exact OrdMap.bucket_push_filter Value.equivOn_hashable he.source (hg.outOf hp)
  case into =>
    intro p hp
    exact OrdMap.bucket_push_filter Value.equivOn_hashable he.target (hg.into hp)
  case byInstruction =>
    intro i hi
    exact OrdMap.bucket_push_filter Value.equivOn_hashable he.instruction (hg.byInstruction hi)
  case linked =>
    intro a ha
    have hkey : e.key.1.hashable = true := he.instruction
    have hlink := Multigraph.contains_between_link h he.source he.target hkey e
      a.source a.target a.key
    rw [hedges, List.any_append, List.any_cons, List.any_nil, Bool.or_false, ← hg.linked ha,
      InsensitiveEdge.beq_eq_key, Bool.or_comm, ← honly.between]
    exact hlink
  case carried =>
    rw [hedges]
    refine (hperm.map (·.2.2.2)).trans ?_
    exact (hg.carried.cons e).trans (List.perm_append_singleton e g.edges).symm
  case standsFor =>
    intro x hx
    rcases List.mem_cons.mp (hperm.mem_iff.mp hx) with rfl | hold
    · exact ⟨hu, hv, rfl⟩
    · exact hg.standsFor x hold
  case source =>
    intro a ha
    rw [hprocedures]
    rw [hedges, List.mem_append, List.mem_singleton] at ha
    rcases ha with hold | rfl
    · rw [hg.source hold]
      rfl
    · rw [Value.equivOn_hashable.refl he.source]
      simp
  case target =>
    intro a ha
    rw [hprocedures]
    rw [hedges, List.mem_append, List.mem_singleton] at ha
    rcases ha with hold | rfl
    · rw [hg.target hold]
      rfl
    · rw [Value.equivOn_hashable.refl he.target]
      simp

/-- A successful addition collects the edge unless an equal one is there, and answers whether there
was none. Its ends are nodes afterwards. -/
theorem Stored.addEdge_eq_ok {g : InsensitiveGraph} (hg : Stored g) {e : InsensitiveEdge}
    {new : Bool} (h : (g.addEdge e).answer = .ok new) :
    new = !g.edges.any (e == ·) ∧ (g.addEdge e).state.edges = Distinct.insert g.edges e ∧
      (g.addEdge e).state.procedures = Distinct.extend g.procedures [e.source, e.target] := by
  rcases addEdge_cases g e with ⟨f, hf, _⟩ | ⟨he, hold, heq⟩ | ⟨he, hnew, g', _, hnodes, heq⟩
  · rw [hf] at h
    cases h
  · rw [hg.linked he] at hold
    rw [heq] at h ⊢
    cases h
    refine ⟨by rw [hold]; rfl, (Distinct.insert_eq_self hold).symm, ?_⟩
    -- The ends of the equal edge are nodes, so the ends of this one are no new ones.
    obtain ⟨e', he', hee'⟩ := List.any_eq_true.mp hold
    obtain ⟨hs, _, ht, _⟩ := InsensitiveEdge.beq_iff.mp hee'
    have hsource : g.procedures.any (e.source == ·) = true := by
      simp only [Value.equivOn_hashable.congr_left he.source hs]
      exact hg.source he'
    have htarget : g.procedures.any (e.target == ·) = true := by
      simp only [Value.equivOn_hashable.congr_left he.target ht]
      exact hg.target he'
    rw [Distinct.extend_cons, Distinct.insert_eq_self hsource, Distinct.extend_cons,
      Distinct.insert_eq_self htarget]
    rfl
  · rw [hg.linked he] at hnew
    rw [heq] at h ⊢
    cases h
    refine ⟨by rw [hnew]; rfl, ?_, procedures_withEdge g he hnodes⟩
    rw [Distinct.insert, hnew]
    rfl

theorem Stored.addEdge {g : InsensitiveGraph} (hg : Stored g) (e : InsensitiveEdge) :
    Stored (g.addEdge e).state := by
  rcases addEdge_cases g e with ⟨f, _, _, hsame⟩ | ⟨_, _, heq⟩ | ⟨he, hnew, h, honly, hnodes, heq⟩
  · exact hg.of_sameEdges hsame
  · rw [heq]
    exact hg
  · rw [heq]
    exact hg.withEdge he hnew honly hnodes

theorem addProcedure_sameEdges (g : InsensitiveGraph) (p : Value) :
    SameEdges g (g.addProcedure p).state := by
  unfold addProcedure
  split
  · exact .refl g
  · exact sameEdges_of_onlyNodes (Multigraph.addNode_onlyNodes g.graph p)

theorem freeze_sameEdges (g : InsensitiveGraph) : SameEdges g g.freeze.state := by
  unfold freeze
  split
  · exact .refl g
  · exact ⟨rfl, rfl, rfl, rfl, .refl g.graph⟩

/-- A call that changes a graph. -/
inductive Call where
  | addProcedure (procedure : Value)
  | addEdge (e : InsensitiveEdge)
  | freeze

/-- Make a call. Only adding an edge has something to answer. -/
def Call.make : Call → InsensitiveGraph → Outcome InsensitiveGraph (Option Bool)
  | addProcedure p, g => (g.addProcedure p).mapAnswer fun _ => none
  | addEdge e, g => (g.addEdge e).mapAnswer some
  | freeze, g => g.freeze.mapAnswer fun _ => none

/-- Whether a call has answered that it added a new edge. -/
def isNew : Except Failure (Option Bool) → Bool
  | .ok (some new) => new
  | _ => false

theorem isNew_map_none (answer : Except Failure Unit) :
    isNew (answer.map fun _ => none) = false := by
  cases answer <;> rfl

/-- A call changes nodes at most, or stores a new edge. -/
theorem make_cases (call : Call) (g : InsensitiveGraph) :
    (SameEdges g (call.make g).state ∧ isNew (call.make g).answer = false) ∨
      ∃ e h, e.Keyed ∧ (g.graph.between e.source e.target).contains e.key = false ∧
        Multigraph.OnlyNodes g.graph h ∧
        h.nodes = Distinct.extend g.procedures [e.source, e.target] ∧
        call.make g = .done (g.withEdge h e) (some true) := by
  cases call with
  | addProcedure p => exact .inl ⟨addProcedure_sameEdges g p, isNew_map_none _⟩
  | freeze => exact .inl ⟨freeze_sameEdges g, isNew_map_none _⟩
  | addEdge e =>
      change (SameEdges g (g.addEdge e).state ∧ isNew ((g.addEdge e).answer.map some) = false) ∨ _
      rcases addEdge_cases g e with ⟨f, hf, _, hsame⟩ | ⟨_, _, heq⟩ |
        ⟨he, hnew, h, honly, hnodes, heq⟩
      · rw [hf]
        exact .inl ⟨hsame, rfl⟩
      · rw [heq]
        exact .inl ⟨.refl g, rfl⟩
      · refine .inr ⟨e, h, he, hnew, honly, hnodes, ?_⟩
        rw [Call.make, heq]
        rfl

theorem make_stored (call : Call) (g : InsensitiveGraph) (hg : Stored g) :
    Stored (call.make g).state := by
  rcases make_cases call g with ⟨hsame, _⟩ | ⟨e, h, he, hnew, honly, hnodes, heq⟩
  · exact hg.of_sameEdges hsame
  · rw [heq]
    exact hg.withEdge he hnew honly hnodes

theorem make_size (call : Call) (g : InsensitiveGraph) :
    (call.make g).state.size = g.size + if isNew (call.make g).answer then 1 else 0 := by
  rcases make_cases call g with ⟨hsame, hold⟩ | ⟨e, h, _, _, _, _, heq⟩
  · rw [size, hsame.edges, hold]
    rfl
  · rw [heq]
    simp [size, withEdge, store, isNew]

/-- The number of edges grows by one with each call that answers so. -/
theorem stateAfter_size (g : InsensitiveGraph) (calls : List Call) :
    (Outcome.stateAfter Call.make g calls).size =
      g.size + (Outcome.answers Call.make g calls).countP isNew := by
  induction calls generalizing g with
  | nil => simp [Outcome.stateAfter, Outcome.answers]
  | cons call calls ih =>
      rw [Outcome.stateAfter, Outcome.answers, ih, make_size, List.countP_cons]
      omega

/-- A call that fails has added nodes at most. -/
theorem make_eq_error {call : Call} {g : InsensitiveGraph} {f : Failure}
    (h : (call.make g).answer = .error f) : SameEdges g (call.make g).state := by
  rcases make_cases call g with ⟨hsame, _⟩ | ⟨e, _, _, _, _, _, heq⟩
  · exact hsame
  · rw [heq] at h
    cases h

/-- After any calls, failing ones included, the places in which edges are stored tell the same. No
two listed edges are equal; a key finds the listed edges that leave it, enter it or are made at it;
an edge without contexts is found if it equals a listed one, and one that still has its contexts
never is; the multigraph has one entry for each listed edge and no other; the ends of every listed
edge are nodes; and there are as many edges as calls that answered so. The next call, if it fails,
adds nodes at most, and if it adds an edge, answers whether none was equal. -/
theorem edges_after_calls (calls : List Call) :
    let g := Outcome.stateAfter Call.make empty calls
    (g.edges.Pairwise fun a b => (a == b) = false) ∧
    (∀ p, p.hashable = true → g.edgesOutOf p = .ok (g.edges.filter (·.source == p)) ∧
      g.edgesInto p = .ok (g.edges.filter (·.target == p))) ∧
    (∀ i, i.hashable = true →
      g.edgesOutOfUnit i = .ok (g.edges.filter (·.instruction == i))) ∧
    (∀ e : InsensitiveEdge, e.Keyed →
      g.contains e.toValue = .ok (e.contexts.isNone && g.edges.any (e == ·))) ∧
    (g.graph.edges.map (·.2.2.2)).Perm g.edges ∧ (∀ x ∈ g.graph.edges, StandsFor x) ∧
    (∀ e ∈ g.edges, g.procedures.any (e.source == ·) = true ∧
      g.procedures.any (e.target == ·) = true) ∧
    g.size = (Outcome.answers Call.make empty calls).countP isNew ∧
    (∀ call f, (Call.make call g).answer = .error f → SameEdges g (call.make g).state) ∧
    ∀ e new, (g.addEdge e).answer = .ok new →
      new = !g.edges.any (e == ·) ∧
        (g.addEdge e).state.edges = if new then g.edges ++ [e] else g.edges := by
  intro g
  have hg : Stored g := Outcome.stateAfter_invariant make_stored stored_empty calls
  refine ⟨hg.distinct, fun p hp => ⟨?_, ?_⟩, fun i hi => ?_, fun e he => ?_, hg.carried,
    hg.standsFor, fun e he => ⟨hg.source he, hg.target he⟩, ?_, fun call f => make_eq_error,
    fun e new hnew => ?_⟩
  · rw [edgesOutOf, Value.key_of_hashable hp]
    exact congrArg Except.ok (hg.outOf hp)
  · rw [edgesInto, Value.key_of_hashable hp]
    exact congrArg Except.ok (hg.into hp)
  · rw [edgesOutOfUnit, Value.key_of_hashable hi]
    exact congrArg Except.ok (hg.byInstruction hi)
  · rw [← hg.linked he]
    obtain ⟨source, instruction, target, kind, contexts⟩ := e
    cases contexts with
    | none => exact Multigraph.hasEdge_of_hashable g.graph he.source he.target he.instruction
    | some contexts => rfl
  · exact (stateAfter_size empty calls).trans (Nat.zero_add _)
  · obtain ⟨hanswer, hedges, _⟩ := hg.addEdge_eq_ok hnew
    refine ⟨hanswer, ?_⟩
    rw [hedges, hanswer, Distinct.insert]
    cases g.edges.any (e == ·) <;> rfl

/-- An edge from 1 to 2 at instruction 7. -/
def plainEdge : InsensitiveEdge where
  source := .int 1
  instruction := .int 7
  target := .int 2
  kind := .static
  contexts := none

/-- Calls of which one adds an edge. The others add an equal edge, fail for want of a target, fail
for want of a key, or come after freezing. -/
def mostlyFailingCalls : List Call :=
  [.addEdge plainEdge, .addEdge { plainEdge with source := .bool true },
   .addEdge { plainEdge with source := .int 3, target := .null },
   .addEdge { plainEdge with instruction := .list [] }, .freeze,
   .addEdge { plainEdge with target := .int 4 }]

theorem edges_after_mostly_failing_calls :
    let g := Outcome.stateAfter Call.make empty mostlyFailingCalls
    (Value.bool true).hashable = true ∧ g.edgesOutOf (.bool true) = .ok [plainEdge] ∧
    g.edgesInto (.int 4) = .ok [] ∧ g.edgesOutOfUnit (.int 7) = .ok [plainEdge] ∧
    g.contains plainEdge.toValue = .ok true ∧ g.size = 1 ∧
    g.procedures = [.int 1, .int 2, .int 3] := by
  intro g
  obtain ⟨_, hends, hunit, hcontains, _, _, _, hsize, _⟩ := edges_after_calls mostlyFailingCalls
  exact ⟨rfl, (hends (.bool true) rfl).1.trans rfl, (hends (.int 4) rfl).2.trans rfl,
    (hunit (.int 7) rfl).trans rfl, (hcontains plainEdge ⟨rfl, rfl, rfl⟩).trans rfl, hsize, rfl⟩

end InsensitiveGraph

end CallGraphs
