import CallGraphs.Proofs.EdgeStorage
import CallGraphs.Proofs.IndexExactness
/-!
# Freezing

Both graphs are built call by call and then frozen. Whatever has happened before, the first freeze
succeeds, and it is the last call that does: the check for being frozen comes before anything that
depends on an argument, so every later call is refused in the same way and on the same state.
-/

namespace CallGraphs

namespace Outcome

variable {σ α κ : Type} {call : κ → σ → Outcome σ α} {s : σ} {f : Failure}

/-- A state in which every call is refused is kept by any calls, and each of them is refused. -/
theorem stateAfter_of_refused (h : ∀ c, call c s = .fail s f) (cs : List κ) :
    stateAfter call s cs = s ∧ answers call s cs = cs.map fun _ => .error f := by
  induction cs with
  | nil => exact ⟨rfl, rfl⟩
  | cons c cs ih =>
      rw [stateAfter, answers, h c]
      exact ⟨ih.1, congrArg (Except.error f :: ·) ih.2⟩

/-- A mark that some calls set and no call takes back tells whether such a call was made. -/
theorem mark_stateAfter {mark : σ → Bool} {sets : κ → Bool}
    (hcall : ∀ c s, mark (call c s).state = (mark s || sets c)) (s : σ) (cs : List κ) :
    mark (stateAfter call s cs) = (mark s || cs.any sets) := by
  induction cs generalizing s with
  | nil => rw [stateAfter, List.any_nil, Bool.or_false]
  | cons c cs ih => rw [stateAfter, ih, hcall, List.any_cons, Bool.or_assoc]

end Outcome

namespace GraphIndex

/-- A call on a builder: a change, or the end of the construction. -/
inductive Operation where
  | change (c : Change)
  | freeze

namespace Operation

/-- Make a call. Only freezing has something to answer. -/
def make : Operation → GraphIndex → Outcome GraphIndex (Option SensitiveGraph)
  | change c, g => (c.make g).mapAnswer fun _ => none
  | freeze, g => g.freeze.mapAnswer some

def isFreeze : Operation → Bool
  | change _ => false
  | freeze => true

end Operation

theorem make_of_frozen {g : GraphIndex} (hg : g.frozen = true) (op : Operation) :
    op.make g = .fail g refusal := by
  cases op with
  | freeze =>
      simp [Operation.make, GraphIndex.freeze, hg, Outcome.mapAnswer, Outcome.fail, Except.map]
  | change c =>
      have hchange : c.make g = .fail g refusal := by
        cases c with
        | setProcedures procedures => simp [Change.make, setProceduresOf, hg]
        | addEdge offered =>
            cases he : offered.sensitiveEdge? with
            | some e => simp [Change.make, offer, he, addEdge, hg]
            | none => simp [Change.make, offer, he, hg]
      rw [Operation.make, hchange]
      rfl

theorem change_frozen {g : GraphIndex} (hg : g.frozen = false) (c : Change) :
    (c.make g).state.frozen = false := by
  rcases make_cases hg c with ⟨_, ps, h⟩ | ⟨e, _, h⟩ | ⟨v, f, _, h⟩
  · rw [h]
    exact hg
  · rw [h]
    exact (addEdge_added hg e).frozen
  · rw [h]
    exact hg

theorem make_frozen (op : Operation) (g : GraphIndex) :
    (op.make g).state.frozen = (g.frozen || op.isFreeze) := by
  cases hg : g.frozen with
  | true =>
      rw [make_of_frozen hg]
      exact hg
  | false =>
      cases op with
      | change c => exact change_frozen hg c
      | freeze => simp [Operation.make, freeze, hg, Outcome.mapAnswer, Operation.isFreeze]

theorem freeze_of_open {g : GraphIndex} (hg : g.frozen = false) :
    g.freeze = .done { g with frozen := true } g.view := by
  simp [freeze, hg]

/-- After freezing, a builder and the graph that it handed out hold the same, whatever is called. -/
theorem stateAfter_of_freeze {g : GraphIndex} {graph : SensitiveGraph}
    (hfreeze : g.freeze.answer = .ok graph) (later : List Operation) :
    Outcome.answers Operation.make g.freeze.state later = later.map (fun _ => .error refusal) ∧
      Outcome.stateAfter Operation.make g.freeze.state later = { g with frozen := true } ∧
      graph = g.view := by
  cases hg : g.frozen with
  | true =>
      rw [freeze, if_pos hg] at hfreeze
      cases hfreeze
  | false =>
      rw [freeze_of_open hg] at hfreeze ⊢
      cases hfreeze
      have hlater := Outcome.stateAfter_of_refused
        (make_of_frozen (g := { g with frozen := true }) rfl) later
      exact ⟨hlater.2, hlater.1, rfl⟩

theorem freeze_answer (earlier : List Operation) :
    (Outcome.stateAfter Operation.make empty earlier).freeze.answer =
      if earlier.any Operation.isFreeze then .error refusal
      else .ok (Outcome.stateAfter Operation.make empty earlier).view := by
  have hfrozen := Outcome.mark_stateAfter make_frozen empty earlier
  rw [freeze, hfrozen]
  change (if earlier.any Operation.isFreeze = true then _ else _ : Outcome _ _).answer = _
  split <;> rfl

end GraphIndex

namespace InsensitiveGraph

/-- A call on a graph under construction, with any value as a procedure or as an edge. -/
inductive Operation where
  | addProcedure (procedure : Value)
  | addEdge (offered : Value)
  | freeze

namespace Operation

/-- Make a call. Only adding an edge has something to answer. -/
def make : Operation → InsensitiveGraph → Outcome InsensitiveGraph (Option Bool)
  | addProcedure procedure, g => (g.addProcedure procedure).mapAnswer fun _ => none
  | addEdge offered, g => (g.offer offered).mapAnswer some
  | freeze, g => g.freeze.mapAnswer fun _ => none

def isFreeze : Operation → Bool
  | freeze => true
  | _ => false

end Operation

theorem offer_cases (g : InsensitiveGraph) (v : Value) :
    (∃ e, g.offer v = g.addEdge e) ∨
      ∃ f, g.offer v = if g.frozen then .fail g refusal else .fail g f := by
  unfold offer
  split
  · exact .inl ⟨_, rfl⟩
  · exact .inr ⟨_, rfl⟩

theorem make_of_frozen {g : InsensitiveGraph} (hg : g.frozen = true) (op : Operation) :
    op.make g = .fail g refusal := by
  cases op with
  | addProcedure procedure =>
      rw [Operation.make, addProcedure, if_pos hg]
      rfl
  | addEdge offered =>
      have hoffer : g.offer offered = .fail g refusal := by
        rcases offer_cases g offered with ⟨e, h⟩ | ⟨f, h⟩
        · rw [h, addEdge, if_pos hg]
        · rw [h, if_pos hg]
      rw [Operation.make, hoffer]
      rfl
  | freeze =>
      rw [Operation.make, freeze, if_pos hg]
      rfl

theorem addEdge_frozen (g : InsensitiveGraph) (e : InsensitiveEdge) :
    (g.addEdge e).state.frozen = g.frozen := by
  unfold addEdge
  split
  · rfl
  · split
    · rfl
    · rfl
    · exact Outcome.andThen_state (Q := fun h : InsensitiveGraph => h.frozen = g.frozen) rfl
        fun _ => rfl

theorem make_frozen (op : Operation) (g : InsensitiveGraph) :
    (op.make g).state.frozen = (g.frozen || op.isFreeze) := by
  cases hg : g.frozen with
  | true =>
      rw [make_of_frozen hg]
      exact hg
  | false =>
      cases op with
      | addProcedure procedure => simp [Operation.make, addProcedure, hg, lift, Outcome.mapAnswer,
          Operation.isFreeze]
      | addEdge offered =>
          rcases offer_cases g offered with ⟨e, h⟩ | ⟨f, h⟩
          · simp [Operation.make, h, Outcome.mapAnswer, addEdge_frozen, hg, Operation.isFreeze]
          · simp [Operation.make, h, Outcome.mapAnswer, hg, Operation.isFreeze]
      | freeze => simp [Operation.make, freeze, hg, Outcome.mapAnswer, Operation.isFreeze]

theorem stateAfter_of_freeze {g : InsensitiveGraph} (hfreeze : g.freeze.answer = .ok ())
    (later : List Operation) :
    Outcome.answers Operation.make g.freeze.state later = later.map (fun _ => .error refusal) ∧
      Outcome.stateAfter Operation.make g.freeze.state later = { g with frozen := true } := by
  cases hg : g.frozen with
  | true =>
      rw [freeze, if_pos hg] at hfreeze
      cases hfreeze
  | false =>
      have hopen : g.freeze = .done { g with frozen := true } () := by simp [freeze, hg]
      rw [hopen]
      have hlater := Outcome.stateAfter_of_refused
        (make_of_frozen (g := { g with frozen := true }) rfl) later
      exact ⟨hlater.2, hlater.1⟩

theorem freeze_answer (earlier : List Operation) :
    (Outcome.stateAfter Operation.make empty earlier).freeze.answer =
      if earlier.any Operation.isFreeze then .error refusal else .ok () := by
  have hfrozen := Outcome.mark_stateAfter make_frozen empty earlier
  rw [freeze, hfrozen]
  change (if earlier.any Operation.isFreeze = true then _ else _ : Outcome _ _).answer = _
  split <;> rfl

/-- Two graphs that answer every question alike. -/
structure AnswersAlike (g g' : InsensitiveGraph) : Prop where
  edges : g'.edges = g.edges
  procedures : g'.procedures = g.procedures
  edgesOutOf (p : Value) : g'.edgesOutOf p = g.edgesOutOf p
  edgesInto (p : Value) : g'.edgesInto p = g.edgesInto p
  edgesOutOfUnit (i : Value) : g'.edgesOutOfUnit i = g.edgesOutOfUnit i
  contains (v : Value) : g'.contains v = g.contains v
  size : g'.size = g.size
  stats : g'.stats = g.stats
  graph : g'.graph = g.graph

theorem answersAlike_frozen (g : InsensitiveGraph) : AnswersAlike g { g with frozen := true } := by
  constructor <;> intros <;> rfl

end InsensitiveGraph

/-- A builder and a context-insensitive graph are frozen exactly once. After any calls, be it that
some failed half-way, freezing succeeds if and only if it was not asked for before. From then on
every call is refused as coming too late, whatever its argument, and nothing changes: the builder
goes on listing what it listed, has the same counts, and agrees in edges, procedures and indices
with the graph that it handed out, and the other graph answers every question as it did. -/
theorem frozen_exactly_once :
    (∀ earlier later : List GraphIndex.Operation,
      let g := Outcome.stateAfter GraphIndex.Operation.make .empty earlier
      g.freeze.answer =
        (if earlier.any (·.isFreeze) then .error GraphIndex.refusal else .ok g.view) ∧
      ∀ graph, g.freeze.answer = .ok graph →
        let g' := Outcome.stateAfter GraphIndex.Operation.make g.freeze.state later
        Outcome.answers GraphIndex.Operation.make g.freeze.state later =
          later.map (fun _ => .error GraphIndex.refusal) ∧
        g'.offers = g.offers ∧ g'.procedures = g.procedures ∧ g'.stats = g.stats ∧
        graph.offers = g'.offers ∧ graph.procedures = g'.procedures ∧ graph = g'.view ∧
        g'.frozen = true) ∧
    ∀ earlier later : List InsensitiveGraph.Operation,
      let g := Outcome.stateAfter InsensitiveGraph.Operation.make .empty earlier
      g.freeze.answer =
        (if earlier.any (·.isFreeze) then .error InsensitiveGraph.refusal else .ok ()) ∧
      (g.freeze.answer = .ok () →
        let g' := Outcome.stateAfter InsensitiveGraph.Operation.make g.freeze.state later
        Outcome.answers InsensitiveGraph.Operation.make g.freeze.state later =
          later.map (fun _ => .error InsensitiveGraph.refusal) ∧
        InsensitiveGraph.AnswersAlike g g' ∧ g'.frozen = true) := by
  refine ⟨fun earlier later => ⟨GraphIndex.freeze_answer earlier, fun graph hfreeze => ?_⟩,
    fun earlier later => ⟨InsensitiveGraph.freeze_answer earlier, fun hfreeze => ?_⟩⟩
  · obtain ⟨hanswers, hstate, rfl⟩ := GraphIndex.stateAfter_of_freeze hfreeze later
    rw [hstate]
    exact ⟨hanswers, rfl, rfl, rfl, rfl, rfl, rfl, rfl⟩
  · obtain ⟨hanswers, hstate⟩ := InsensitiveGraph.stateAfter_of_freeze hfreeze later
    rw [hstate]
    exact ⟨hanswers, InsensitiveGraph.answersAlike_frozen _, rfl⟩

/-- Both are frozen after a call that failed half-way: an edge listed at an instruction that cannot
be a key, and an edge to nowhere whose source has become a node. Calls with arguments that could not
be served either are refused as coming too late. -/
theorem frozen_exactly_once_after_failures :
    (∃ g graph, g = Outcome.stateAfter GraphIndex.Operation.make .empty
        [.change (.addEdge GraphIndex.unkeyedEdge.toValue)] ∧
      g.freeze.answer = .ok graph ∧ graph.edges = [GraphIndex.unkeyedEdge] ∧
      Outcome.answers GraphIndex.Operation.make g.freeze.state
          [.change (.setProcedures .null), .change (.addEdge (.list [])), .freeze] =
        [.error (.frozen .sensitive), .error (.frozen .sensitive), .error (.frozen .sensitive)]) ∧
    ∃ g, g = Outcome.stateAfter InsensitiveGraph.Operation.make .empty
        [.addEdge { InsensitiveGraph.plainEdge with target := .null }.toValue] ∧
      g.freeze.answer = .ok () ∧
      Outcome.answers InsensitiveGraph.Operation.make g.freeze.state
          [.addProcedure .null, .addEdge (.list []), .freeze] =
        [.error (.frozen .insensitive), .error (.frozen .insensitive),
          .error (.frozen .insensitive)] ∧
      (Outcome.stateAfter InsensitiveGraph.Operation.make g.freeze.state
        [.addProcedure .null, .addEdge (.list []), .freeze]).procedures = [.int 1] := by
  obtain ⟨hindex, hgraph⟩ := frozen_exactly_once
  obtain ⟨hopen, hlater⟩ := hindex [.change (.addEdge GraphIndex.unkeyedEdge.toValue)]
    [.change (.setProcedures .null), .change (.addEdge (.list [])), .freeze]
  obtain ⟨hopen', hlater'⟩ :=
    hgraph [.addEdge { InsensitiveGraph.plainEdge with target := .null }.toValue]
      [.addProcedure .null, .addEdge (.list []), .freeze]
  refine ⟨⟨_, _, rfl, hopen, rfl, (hlater _ hopen).1⟩, ⟨_, rfl, hopen', (hlater' hopen').1, ?_⟩⟩
  rw [(hlater' hopen').2.1.procedures]
  rfl

end CallGraphs
