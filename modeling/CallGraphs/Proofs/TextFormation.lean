import CallGraphs.Event
/-!
# When texts can be formed

A text is stopped by a number that is too long, or where its parts nest deeper than calls may go.
The records of plain data, which documents are made of, are far from both. Beyond the limits there
is always something that cannot be shown: the first number with one digit too many, and tuples
within tuples.
-/

namespace CallGraphs

namespace Draft

@[simp] theorem stop?_ofText (t : Text) (room : Nat) : (ofText t).stop? room = none := rfl

@[simp] theorem stop?_append (a b : Draft) (room : Nat) :
    (a ++ b).stop? room = (a.stop? room).or (b.stop? room) := rfl

theorem stop?_within (calls : Nat) (d : Draft) (room : Nat) :
    (within calls d).stop? room = if room < calls then some .tooDeep else d.stop? (room - calls) :=
  rfl

/-- A text that is formed where calls may go so much deeper. -/
def FormsWithin (calls : Nat) (d : Draft) : Prop :=
  ∀ room, calls ≤ room → d.stop? room = none

theorem FormsWithin.mono {calls more : Nat} {d : Draft} (h : d.FormsWithin calls)
    (hle : calls ≤ more) : d.FormsWithin more :=
  fun room hroom => h room (Nat.le_trans hle hroom)

theorem formsWithin_ofText (t : Text) (calls : Nat) : (ofText t).FormsWithin calls :=
  fun _ _ => rfl

theorem formsWithin_ofInt (n : Whole) (calls : Nat) : (ofInt n.value).FormsWithin calls := by
  intro room _
  simp only [ofInt, n.short, ↓reduceIte]

theorem FormsWithin.append {calls : Nat} {a b : Draft} (ha : a.FormsWithin calls)
    (hb : b.FormsWithin calls) : (a ++ b).FormsWithin calls := by
  intro room hroom
  rw [stop?_append, ha room hroom, hb room hroom]
  rfl

theorem FormsWithin.within {calls : Nat} {d : Draft} (h : d.FormsWithin calls) (own : Nat) :
    (Draft.within own d).FormsWithin (own + calls) := by
  intro room hroom
  rw [stop?_within, if_neg (by omega)]
  exact h (room - own) (by omega)

theorem FormsWithin.fault?_eq_none {calls : Nat} {d : Draft} (h : d.FormsWithin calls)
    (hle : calls ≤ maxCalls) : d.fault? = none :=
  h maxCalls hle

theorem FormsWithin.formed_eq {calls : Nat} {d : Draft} (h : d.FormsWithin calls)
    (hle : calls ≤ maxCalls) : d.formed = .ok d.text := by
  rw [formed, form, h.fault?_eq_none hle]
  rfl

/-- A text is formed, or something stops it. -/
theorem formed_cases (d : Draft) :
    d.formed = .ok d.text ∨ ∃ stop, d.formed = .error (.unformed stop) := by
  unfold formed form
  cases d.fault? with
  | none => exact .inl rfl
  | some fault => exact .inr ⟨_, rfl⟩

/-- A number with more digits than can be written stops every text that it is in. -/
theorem stop?_ofInt_of_long {n : Int} (h : Nat.pow 10 maxDigits ≤ n.natAbs) (room : Nat) :
    (ofInt n).stop? room = some .tooManyDigits := by
  have hlong : fitsDigits maxDigits n.natAbs = false := by
    rw [Bool.eq_false_iff, ne_eq, fitsDigits_iff, Nat.not_lt]
    exact h
  simp only [ofInt, hlong, Bool.false_eq_true, ↓reduceIte]

end Draft

namespace Value

/-- What stands in documents for a procedure or tells contexts apart: nothing, a text or a number
that can be written. -/
inductive Simple : Value → Prop
  | null : Simple .null
  | text (t : Text) : Simple (.text t)
  | int (n : Whole) : Simple (.int n.value)

namespace Simple

variable {v : Value}

theorem exact_forms (h : Simple v) : v.exact.FormsWithin 1 := by
  cases h with
  | null => exact (Draft.formsWithin_ofText _ 0).within 1
  | text t => exact (Draft.formsWithin_ofText _ 0).within 1
  | int n => exact (Draft.formsWithin_ofInt n 0).within 1

theorem plain_forms (h : Simple v) : v.plain.FormsWithin 2 := by
  cases h with
  | null => exact (Simple.exact_forms .null).within 1
  | text t => exact Draft.formsWithin_ofText t 2
  | int n => exact ((Draft.formsWithin_ofInt n 0).within 1).mono (by decide)

end Simple

theorem exact_context_forms {method value : Value} (hmethod : Simple method)
    (hvalue : Simple value) : (context method value).exact.FormsWithin (5 + 1) := by
  refine Draft.FormsWithin.within (fun room hroom => ?_) 5
  simp [hmethod.exact_forms room hroom, hvalue.exact_forms room hroom]

theorem plain_context_forms {method value : Value} (hmethod : Simple method)
    (hvalue : Simple value) : (context method value).plain.FormsWithin (3 + 2) := by
  refine Draft.FormsWithin.within (fun room hroom => ?_) 3
  simp [hmethod.plain_forms room hroom, hvalue.plain_forms room hroom]

theorem exact_instruction_forms (id : Text) (invokeKind : Option Text) :
    (instruction id invokeKind).exact.FormsWithin 5 :=
  (Draft.formsWithin_ofText _ 0).within 5

theorem plain_instruction_forms (id : Text) (invokeKind : Option Text) :
    (instruction id invokeKind).plain.FormsWithin 3 :=
  (Draft.formsWithin_ofText id 0).within 3

/-- What equals a text is one, or a kind of this name. -/
theorem plain_forms_of_beq_text {t : Text} {v : Value} (h : (text t == v) = true) :
    v.plain.FormsWithin 5 := by
  cases v with
  | text t' => exact Draft.formsWithin_ofText t' 5
  | kind k => exact (Draft.formsWithin_ofText _ 0).within 5
  | float x => cases x <;> cases h
  | _ => cases h

/-- A text inside so many tuples. -/
def nested : Nat → Value
  | 0 => text "deep"
  | n + 1 => tuple [nested n]

/-- Tuples within tuples are not shown where calls cannot go deeper than they do. -/
theorem stop?_exact_nested {n room : Nat} (h : room ≤ n) :
    (nested n).exact.stop? room = some .tooDeep := by
  induction n generalizing room with
  | zero =>
      obtain rfl := Nat.le_zero.mp h
      rfl
  | succ n ih =>
      rw [nested, exact, Draft.stop?_within]
      split
      · rfl
      · rw [exactTuple, Draft.stop?_append, Draft.stop?_append, ih (by omega)]
        rfl

end Value

/-- An edge is reported where all that it is made of is far from the limits. -/
theorem SensitiveEdge.fault?_added {e : SensitiveEdge} {calls : Nat}
    (hsource : e.source.plain.FormsWithin calls)
    (hcontext : e.sourceContext.plain.FormsWithin calls)
    (hinstruction : e.instruction.plain.FormsWithin calls)
    (htarget : e.target.plain.FormsWithin calls)
    (htargetContext : e.targetContext.plain.FormsWithin calls)
    (hcalls : 3 + calls ≤ Draft.maxCalls) : (Event.added e).fault? = none := by
  have hedge : e.toValue.plain.FormsWithin (3 + calls) := by
    refine Draft.FormsWithin.within (fun room hroom => ?_) 3
    simp [hsource room hroom, hcontext room hroom, hinstruction room hroom, htarget room hroom,
      htargetContext room hroom]
  exact ((Draft.formsWithin_ofText _ _).append hedge).fault?_eq_none hcalls

end CallGraphs
