import CallGraphs.Failure
/-!
# Steps that may fail half-way

An operation on a state gives the state it leaves behind and its answer. A failing operation may have
changed part of the state before it failed, so the state is there in either case.
-/

namespace CallGraphs

/-- The state left behind, and the answer or the failure. -/
structure Outcome (σ α : Type) where
  state : σ
  answer : Except Failure α

namespace Outcome

variable {σ α β : Type}

/-- An answer. -/
def done (s : σ) (a : α) : Outcome σ α :=
  ⟨s, .ok a⟩

/-- A failure. -/
def fail (s : σ) (f : Failure) : Outcome σ α :=
  ⟨s, .error f⟩

/-- Go on from the state and the answer; a failure stays. -/
def andThen (o : Outcome σ α) (next : σ → α → Outcome σ β) : Outcome σ β :=
  match o.answer with
  | .ok a => next o.state a
  | .error f => ⟨o.state, .error f⟩

/-- Go on if a value can be a key. -/
def withKey (s : σ) (v : Value) (next : Outcome σ α) : Outcome σ α :=
  match v.unhashable? with
  | none => next
  | some u => fail s (.unhashable u)

@[simp] theorem done_andThen (s : σ) (a : α) (next : σ → α → Outcome σ β) :
    (done s a).andThen next = next s a := rfl

@[simp] theorem fail_andThen (s : σ) (f : Failure) (next : σ → α → Outcome σ β) :
    (fail s f : Outcome σ α).andThen next = fail s f := rfl

theorem withKey_of_hashable {v : Value} (h : v.hashable = true) (s : σ) (next : Outcome σ α) :
    withKey s v next = next := by
  unfold Value.hashable at h
  unfold withKey
  cases hv : v.unhashable? <;> simp_all

end Outcome

end CallGraphs
