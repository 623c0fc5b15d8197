import CallGraphs.Outcome
/-!
# Sequences of calls

A caller makes calls one after another and goes on with whatever state a call has left behind, be it
that it failed half-way. What every call keeps holds of the state after any sequence of calls.
-/

namespace CallGraphs

theorem Value.key_of_hashable {k : Value} (hk : k.hashable = true) : k.key = .ok k := by
  unfold hashable at hk
  unfold key
  cases hu : k.unhashable? <;> simp_all

theorem Value.key_map_of_hashable {α : Type} {k : Value} (hk : k.hashable = true)
    (f : Value → α) : k.key.map f = .ok (f k) := by
  rw [key_of_hashable hk]
  rfl

namespace Outcome

section Chains

variable {σ α β : Type}

@[simp] theorem done_state (s : σ) (a : α) : (done s a).state = s := rfl

@[simp] theorem done_answer (s : σ) (a : α) : (done s a).answer = .ok a := rfl

@[simp] theorem fail_state (s : σ) (f : Failure) : (fail s f : Outcome σ α).state = s := rfl

@[simp] theorem fail_answer (s : σ) (f : Failure) :
    (fail s f : Outcome σ α).answer = .error f := rfl

theorem eq_done {o : Outcome σ Unit} {u : Unit} (h : o.answer = .ok u) :
    o = .done o.state () := by
  cases o with
  | mk state answer =>
      cases h
      rfl

/-- A step that needs a key fails without one, on the state as it was. -/
theorem withKey_of_unhashable {v : Value} (hv : v.hashable = false) (s : σ)
    (next : Outcome σ α) :
    withKey s v next = fail s (.unhashable (v.unhashable?.getD .list)) := by
  unfold Value.hashable at hv
  unfold withKey
  cases hu : v.unhashable? <;> simp_all

theorem withKey_of_unhashable? {v : Value} {u : Unhashable} (hu : v.unhashable? = some u) (s : σ)
    (next : Outcome σ α) : withKey s v next = fail s (.unhashable u) := by
  simp only [withKey, hu]

/-- A step that needs a key and has an answer had its key. -/
theorem withKey_eq_ok {v : Value} {s : σ} {next : Outcome σ α} {a : α}
    (h : (withKey s v next).answer = .ok a) :
    v.hashable = true ∧ withKey s v next = next := by
  cases hv : v.hashable with
  | true => exact ⟨rfl, withKey_of_hashable hv s next⟩
  | false =>
      rw [withKey_of_unhashable hv] at h
      cases h

/-- A second step is made on what the first has left behind, unless the first failed. -/
theorem andThen_cases (o : Outcome σ α) (next : σ → α → Outcome σ β) :
    (∃ f, o.answer = .error f ∧ o.andThen next = fail o.state f) ∨
      ∃ a, o.answer = .ok a ∧ o.andThen next = next o.state a := by
  unfold andThen
  cases ho : o.answer with
  | error f => exact .inl ⟨f, rfl, rfl⟩
  | ok a => exact .inr ⟨a, rfl, rfl⟩

theorem andThen_eq_ok {o : Outcome σ α} {next : σ → α → Outcome σ β} {b : β}
    (h : (o.andThen next).answer = .ok b) :
    ∃ a, o.answer = .ok a ∧ o.andThen next = next o.state a := by
  rcases andThen_cases o next with ⟨f, _, heq⟩ | hok
  · rw [heq] at h
    cases h
  · exact hok

theorem andThen_eq_error {o : Outcome σ α} {f : Failure} (h : o.answer = .error f)
    (next : σ → α → Outcome σ β) : (o.andThen next).answer = .error f := by
  simp only [andThen, h]

/-- What holds of the state after a first step and is kept by the second holds after both. -/
theorem andThen_state {Q : σ → Prop} {o : Outcome σ α} {next : σ → α → Outcome σ β}
    (ho : Q o.state) (hnext : ∀ a, Q (next o.state a).state) : Q (o.andThen next).state := by
  unfold andThen
  cases o.answer with
  | error f => exact ho
  | ok a => exact hnext a

end Chains

/-- The same step with its answer put in another form. -/
def mapAnswer {σ α β : Type} (o : Outcome σ α) (f : α → β) : Outcome σ β :=
  ⟨o.state, o.answer.map f⟩

section Calls

variable {σ α κ : Type} (call : κ → σ → Outcome σ α)

/-- The state after calls made one after another. -/
def stateAfter (s : σ) : List κ → σ
  | [] => s
  | c :: cs => stateAfter (call c s).state cs

/-- The answers of calls made one after another, failures included. -/
def answers (s : σ) : List κ → List (Except Failure α)
  | [] => []
  | c :: cs => (call c s).answer :: answers (call c s).state cs

variable {call}

/-- What every call keeps holds after any calls. -/
theorem stateAfter_invariant {P : σ → Prop}
    (hcall : ∀ c s, P s → P (call c s).state) {s : σ} (hs : P s) (cs : List κ) :
    P (stateAfter call s cs) := by
  induction cs generalizing s with
  | nil => exact hs
  | cons c cs ih => exact ih (hcall c s hs)

/-- What every call keeps that has an answer holds after calls without a failure. -/
theorem stateAfter_invariant_of_ok {P : σ → Prop}
    (hcall : ∀ c s a, P s → (call c s).answer = .ok a → P (call c s).state)
    {s : σ} (hs : P s) (cs : List κ)
    (hok : ∀ a ∈ answers call s cs, a.isOk = true) : P (stateAfter call s cs) := by
  induction cs generalizing s with
  | nil => exact hs
  | cons c cs ih =>
      simp only [answers, List.forall_mem_cons] at hok
      cases ha : (call c s).answer with
      | error f =>
          rw [ha] at hok
          cases hok.1
      | ok a => exact ih (hcall c s a hs ha) hok.2

end Calls

end Outcome

end CallGraphs
