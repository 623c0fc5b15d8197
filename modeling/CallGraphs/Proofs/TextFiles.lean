import CallGraphs.Text.Basic
import CallGraphs.Text.Lines
import CallGraphs.Text.Utf8
/-!
# Texts in files

A text is written as UTF-8 and read with its line breaks unified. Decoding undoes encoding for every
character, whichever number of bytes it takes, and unifying leaves a text alone that has no carriage
return. What can be written are the texts of characters, those without half pairs.
-/

namespace CallGraphs.Text

/-- There are no half pairs to report exactly in the texts of characters. -/
theorem halves?_eq_none_iff {t : Text} : t.halves? = none ↔ ∃ cs, t = ofChars cs := by
  have hruns : t.halves? = none ↔
      (t.points.dropWhile fun p => !p.isHalf).takeWhile CodePoint.isHalf = [] := by
    simp only [halves?]
    split <;> simp_all
  rw [hruns]
  obtain ⟨points⟩ := t
  clear hruns
  induction points with
  | nil => exact ⟨fun _ => ⟨[], rfl⟩, fun _ => rfl⟩
  | cons p points ih =>
      cases p with
      | half i =>
          constructor
          · nofun
          · rintro ⟨cs, hcs⟩
            cases cs <;> cases hcs
      | char c =>
          constructor
          · intro h
            obtain ⟨cs, hcs⟩ := ih.mp h
            refine ⟨c :: cs, ?_⟩
            cases hcs
            rfl
          · rintro ⟨cs, hcs⟩
            cases cs with
            | nil => cases hcs
            | cons d ds =>
                cases hcs
                exact ih.mpr ⟨ds, rfl⟩

theorem halves?_ofString (s : String) : (ofString s).halves? = none :=
  halves?_eq_none_iff.mpr ⟨s.toList, rfl⟩

theorem charsWith_ofChars (standIn cs : List Char) : (ofChars cs).charsWith standIn = cs := by
  simp [charsWith, ofChars, List.flatMap_map]

theorem charsWith_append (standIn : List Char) (s t : Text) :
    (s ++ t).charsWith standIn = s.charsWith standIn ++ t.charsWith standIn :=
  List.flatMap_append

theorem mem_charsWith {standIn : List Char} {t : Text} {c : Char} (h : c ∈ t.charsWith standIn) :
    .char c ∈ t.points ∨ c ∈ standIn := by
  obtain ⟨p, hp, hc⟩ := List.mem_flatMap.mp h
  cases p with
  | char d =>
      rw [List.mem_singleton.mp hc]
      exact .inl hp
  | half i => exact .inr hc

theorem halves?_append {s t : Text} (hs : s.halves? = none) (ht : t.halves? = none) :
    (s ++ t).halves? = none := by
  obtain ⟨cs, rfl⟩ := halves?_eq_none_iff.mp hs
  obtain ⟨ds, rfl⟩ := halves?_eq_none_iff.mp ht
  exact halves?_eq_none_iff.mpr ⟨cs ++ ds, congrArg mk List.map_append.symm⟩

/-- A text of characters loses nothing as a string. -/
theorem ofString_lossy {t : Text} (h : t.halves? = none) : ofString t.lossy = t := by
  obtain ⟨cs, rfl⟩ := halves?_eq_none_iff.mp h
  rw [lossy, charsWith_ofChars, ofString, String.toList_ofList]

namespace Utf8

theorem toNat_toUInt8 {n : Nat} (h : n < 256) : n.toUInt8.toNat = n := by
  simpa using Nat.mod_eq_of_lt h

theorem toUInt8_beq {n : Nat} (h : n < 256) (b : UInt8) :
    (n.toUInt8 == b) = decide (n = b.toNat) := by
  rw [Bool.eq_iff_iff, beq_iff_eq, decide_eq_true_eq, ← UInt8.toNat_inj, toNat_toUInt8 h]

theorem width?_toUInt8 {n : Nat} (h : n < 256) :
    width? n.toUInt8 =
      if n < 0x80 then some 1
      else if n < 0xC2 then none
      else if n < 0xE0 then some 2
      else if n < 0xF0 then some 3
      else if n < 0xF5 then some 4
      else none := by
  simp only [width?, UInt8.lt_iff_toNat_lt, toNat_toUInt8 h]
  rfl

section Continuation

variable {m : Nat} (hm : m < 0x40)
include hm

theorem isTail_toUInt8 : isTail (0x80 + m).toUInt8 = true := by
  simp only [isTail, Bool.and_eq_true, decide_eq_true_eq, UInt8.le_iff_toNat_le,
    UInt8.lt_iff_toNat_lt]
  rw [toNat_toUInt8 (by omega)]
  simp
  omega

theorem payload_toUInt8 : payload (0x80 + m).toUInt8 = m := by
  rw [payload, toNat_toUInt8 (by omega)]
  omega

/-- After the four first bytes that make it so, the range of the second byte is narrower. -/
theorem isSecond_toUInt8 {f : Nat} (hf : f < 256) (hE0 : f = 0xE0 → 0x20 ≤ m)
    (hED : f = 0xED → m < 0x20) (hF0 : f = 0xF0 → 0x10 ≤ m) (hF4 : f = 0xF4 → m < 0x10) :
    isSecond f.toUInt8 (0x80 + m).toUInt8 = true := by
  have hle (b : UInt8) : b ≤ (0x80 + m).toUInt8 ↔ b.toNat ≤ 0x80 + m := by
    rw [UInt8.le_iff_toNat_le, toNat_toUInt8 (by omega)]
  have hlt (b : UInt8) : (0x80 + m).toUInt8 < b ↔ 0x80 + m < b.toNat := by
    rw [UInt8.lt_iff_toNat_lt, toNat_toUInt8 (by omega)]
  simp only [isSecond, isTail_toUInt8 hm, Bool.true_and, toUInt8_beq hf, hle, hlt,
    decide_eq_true_eq]
  simp
  grind

end Continuation

theorem step_one {f : Nat} (hf : f < 0x80) (rest : List UInt8) :
    step f.toUInt8 rest = .ok (Char.ofNat f, rest) := by
  have hw : width? f.toUInt8 = some 1 := by
    rw [width?_toUInt8 (by omega), if_pos hf]
  simp only [step, hw, toNat_toUInt8 (show f < 256 by omega)]

theorem step_two {f m : Nat} (hlow : 0xC2 ≤ f) (hhigh : f < 0xE0) (hm : m < 0x40)
    (rest : List UInt8) :
    step f.toUInt8 ((0x80 + m).toUInt8 :: rest) = .ok (Char.ofNat (f % 0x20 * 0x40 + m), rest) := by
  have hw : width? f.toUInt8 = some 2 := by
    rw [width?_toUInt8 (by omega)]
    grind
  simp only [step, hw, isTail_toUInt8 hm, payload_toUInt8 hm, if_pos,
    toNat_toUInt8 (show f < 256 by omega)]

theorem step_three {f m₁ m₂ : Nat} (hlow : 0xE0 ≤ f) (hhigh : f < 0xF0) (hm₁ : m₁ < 0x40)
    (hm₂ : m₂ < 0x40) (hE0 : f = 0xE0 → 0x20 ≤ m₁) (hED : f = 0xED → m₁ < 0x20)
    (rest : List UInt8) :
    step f.toUInt8 ((0x80 + m₁).toUInt8 :: (0x80 + m₂).toUInt8 :: rest) =
      .ok (Char.ofNat (f % 0x10 * 0x1000 + m₁ * 0x40 + m₂), rest) := by
  have hw : width? f.toUInt8 = some 3 := by
    rw [width?_toUInt8 (by omega)]
    grind
  have hsecond := isSecond_toUInt8 hm₁ (show f < 256 by omega) hE0 hED (by omega) (by omega)
  simp only [step, hw, hsecond, isTail_toUInt8 hm₂, payload_toUInt8 hm₁, payload_toUInt8 hm₂,
    if_pos, toNat_toUInt8 (show f < 256 by omega)]

theorem step_four {f m₁ m₂ m₃ : Nat} (hlow : 0xF0 ≤ f) (hhigh : f < 0xF5) (hm₁ : m₁ < 0x40)
    (hm₂ : m₂ < 0x40) (hm₃ : m₃ < 0x40) (hF0 : f = 0xF0 → 0x10 ≤ m₁) (hF4 : f = 0xF4 → m₁ < 0x10)
    (rest : List UInt8) :
    step f.toUInt8
        ((0x80 + m₁).toUInt8 :: (0x80 + m₂).toUInt8 :: (0x80 + m₃).toUInt8 :: rest) =
      .ok (Char.ofNat (f % 8 * 0x40000 + m₁ * 0x1000 + m₂ * 0x40 + m₃), rest) := by
  have hw : width? f.toUInt8 = some 4 := by
    rw [width?_toUInt8 (by omega)]
    grind
  have hsecond := isSecond_toUInt8 hm₁ (show f < 256 by omega) (by omega) (by omega) hF0 hF4
  simp only [step, hw, hsecond, isTail_toUInt8 hm₂, isTail_toUInt8 hm₃, payload_toUInt8 hm₁,
    payload_toUInt8 hm₂, payload_toUInt8 hm₃, if_pos, toNat_toUInt8 (show f < 256 by omega)]

/-- The bytes of a character read as that character, whatever follows them. -/
theorem step_encodeChar (c : Char) (rest : List UInt8) :
    ∃ first tail, encodeChar c = first :: tail ∧ step first (tail ++ rest) = .ok (c, rest) := by
  -- No character has the number of half a pair, so the narrower ranges are met.
  have hvalid : c.toNat < 0xD800 ∨ (0xDFFF < c.toNat ∧ c.toNat < 0x110000) := c.valid
  have hchar {n : Nat} (hn : n = c.toNat) :
      (.ok (Char.ofNat n, rest) : Except (Nat × Reason) (Char × List UInt8)) = .ok (c, rest) := by
    rw [hn, Char.ofNat_toNat]
  simp only [encodeChar]
  split
  · exact ⟨_, _, rfl, (step_one ‹_› _).trans (hchar rfl)⟩
  · split
    · refine ⟨_, _, rfl, (step_two ?_ ?_ ?_ _).trans (hchar ?_)⟩ <;> omega
    · split
      · refine ⟨_, _, rfl, (step_three ?_ ?_ ?_ ?_ ?_ ?_ _).trans (hchar ?_)⟩ <;> omega
      · refine ⟨_, _, rfl, (step_four ?_ ?_ ?_ ?_ ?_ ?_ ?_ _).trans (hchar ?_)⟩ <;> omega

theorem decodeFrom_encode (cs : List Char) (position : Nat) (done : List Char) :
    decodeFrom position (encode cs) done = .ok (done.reverse ++ cs) := by
  induction cs generalizing position done with
  | nil => simp [encode, decodeFrom]
  | cons c cs ih =>
      obtain ⟨first, tail, hc, hstep⟩ := step_encodeChar c (encode cs)
      have hencode : encode (c :: cs) = first :: (tail ++ encode cs) := by
        simp [encode, hc]
      rw [hencode, decodeFrom]
      split
      next c' rest' heq =>
        rw [hstep] at heq
        cases heq
        rw [ih]
        simp
      next heq =>
        rw [hstep] at heq
        cases heq

/-- Decoding undoes encoding. -/
theorem decode_encode (cs : List Char) : decode (encode cs) = .ok cs :=
  decodeFrom_encode cs 0 []

end Utf8

/-- A text without carriage returns keeps its line breaks. -/
theorem unifyBreaks_of_not_mem {cs : List Char} (h : '\r' ∉ cs) : unifyBreaks cs = cs := by
  fun_induction unifyBreaks cs with
  | case1 => rfl
  | case2 rest ih => exact absurd List.mem_cons_self h
  | case3 rest _ ih => exact absurd List.mem_cons_self h
  | case4 c rest _ _ ih => rw [ih (List.not_mem_of_not_mem_cons h)]

end CallGraphs.Text
