import CallGraphs.Json.Printer
import CallGraphs.Json.Reader
import Mathlib.Data.List.Forall2
import Mathlib.Tactic.IntervalCases
/-!
# Written documents

Reading a document that was written with indentation gives the document back. A string is escaped
character by character, so that reading undoes it in the same way; an object is read member by
member, and of members of one name the last counts. Nothing that is written holds a carriage return.
-/

namespace CallGraphs.Json

theorem codeUnit?_hex {n : Nat} (hn : n < 0x20) (e : Char) (rest : List Char) :
    codeUnit? (Text.hex 4 n ++ e :: rest) = some (n, e :: rest) := by
  interval_cases n <;> rfl

theorem unicodeEscape_hex {c : Char} (hc : c.toNat < 0x20) (e : Char) (rest : List Char) :
    unicodeEscape ('u' :: Text.hex 4 c.toNat ++ e :: rest) = .ok (.char c, e :: rest) := by
  have hhigh : isHighSurrogate c.toNat = false := by
    simp [isHighSurrogate]
    omega
  have hunit : CodePoint.ofUnit c.toNat = .char c := by
    have hlow : ¬ (c.toNat - CodePoint.firstHalf < 2048 ∧ CodePoint.firstHalf ≤ c.toNat) := by
      simp only [CodePoint.firstHalf]
      omega
    rw [CodePoint.ofUnit, dif_neg hlow, Char.ofNat_toNat]
  simp only [unicodeEscape, List.cons_append, List.drop_succ_cons, List.drop_zero,
    codeUnit?_hex hc, hhigh, hunit]
  rfl

theorem stringFrom_simple (start : List Char) (done : List CodePoint) {e ch : Char}
    (he : e ≠ 'u') (hch : simpleEscape? e = some ch) (rest : List Char) :
    stringFrom start done ('\\' :: e :: rest) = stringFrom start (.char ch :: done) rest := by
  rw [stringFrom]
  simp [he, hch]

theorem stringFrom_unicode (start : List Char) (done : List CodePoint) {c : Char}
    (hc : c.toNat < 0x20) (e : Char) (rest : List Char) :
    stringFrom start done ('\\' :: 'u' :: Text.hex 4 c.toNat ++ e :: rest) =
      stringFrom start (.char c :: done) (e :: rest) := by
  have hread := unicodeEscape_hex hc e rest
  rw [List.cons_append, List.cons_append] at *
  rw [stringFrom]
  simp only [Char.reduceEq, ↓reduceIte]
  split
  next heq =>
    rw [hread] at heq
    cases heq
  next heq =>
    rw [hread] at heq
    cases heq
    rfl

/-- The three ways to write a character: by a letter, by its number, or as it is. -/
theorem escapeChar_cases (c : Char) :
    (∃ e, e ≠ 'u' ∧ simpleEscape? e = some c ∧ escapeChar c = ['\\', e]) ∨
      (c.toNat < 0x20 ∧ escapeChar c = '\\' :: 'u' :: Text.hex 4 c.toNat) ∨
      (c ≠ '\x22' ∧ c ≠ '\\' ∧ ¬ c.toNat < 0x20 ∧ escapeChar c = [c]) := by
  unfold escapeChar
  split_ifs with h₁ h₂ h₃ h₄ h₅ h₆ h₇ h₈
  · subst h₁
    exact .inl ⟨'\x22', by decide, rfl, rfl⟩
  · subst h₂
    exact .inl ⟨'\\', by decide, rfl, rfl⟩
  · subst h₃
    exact .inl ⟨'b', by decide, rfl, rfl⟩
  · subst h₄
    exact .inl ⟨'f', by decide, rfl, rfl⟩
  · subst h₅
    exact .inl ⟨'n', by decide, rfl, rfl⟩
  · subst h₆
    exact .inl ⟨'r', by decide, rfl, rfl⟩
  · subst h₇
    exact .inl ⟨'t', by decide, rfl, rfl⟩
  · exact .inr (.inl ⟨h₈, rfl⟩)
  · exact .inr (.inr ⟨h₁, h₂, h₈, rfl⟩)

/-- Reading a string takes an escaped character for the character, if something follows it. -/
theorem stringFrom_escapeChar (start : List Char) (done : List CodePoint) (c e : Char)
    (rest : List Char) :
    stringFrom start done (escapeChar c ++ e :: rest) =
      stringFrom start (.char c :: done) (e :: rest) := by
  rcases escapeChar_cases c with
    ⟨letter, hletter, hread, hc⟩ | ⟨hlow, hc⟩ | ⟨hquote, hslash, hlow, hc⟩
  · rw [hc]
    exact stringFrom_simple start done hletter hread _
  · rw [hc]
    exact stringFrom_unicode start done hlow e rest
  · rw [hc, List.singleton_append, stringFrom, if_neg hquote, if_neg hslash, if_neg hlow]

theorem stringFrom_escaped (start : List Char) (done : List CodePoint) (cs rest : List Char) :
    stringFrom start done (cs.flatMap escapeChar ++ '\x22' :: rest) =
      .ok (⟨done.reverse ++ cs.map .char⟩, rest) := by
  induction cs generalizing done with
  | nil =>
      rw [List.flatMap_nil, List.nil_append, stringFrom.eq_def]
      simp
  | cons c cs ih =>
      obtain ⟨e, rest', hrest⟩ : ∃ e rest', cs.flatMap escapeChar ++ '\x22' :: rest = e :: rest' :=
        List.exists_cons_of_ne_nil (by simp)
      rw [List.flatMap_cons, List.append_assoc, hrest, stringFrom_escapeChar, ← hrest, ih]
      simp

theorem quoteText_ofChars (cs : List Char) :
    quoteText (.ofChars cs) = '\x22' :: (cs.flatMap escapeChar ++ ['\x22']) := by
  simp [quoteText, Text.ofChars, List.flatMap_map, escapePoint]

theorem stringFrom_quoteText (start : List Char) (cs rest : List Char) : ∃ body,
    quoteText (.ofChars cs) ++ rest = '\x22' :: body ∧
      stringFrom start [] body = .ok (.ofChars cs, rest) := by
  refine ⟨cs.flatMap escapeChar ++ '\x22' :: rest, ?_, stringFrom_escaped start [] cs rest⟩
  simp [quoteText_ofChars]

theorem return_not_mem_escapeChar (c : Char) : '\r' ∉ escapeChar c := by
  rcases escapeChar_cases c with ⟨letter, _, hread, hc⟩ | ⟨hlow, hc⟩ | ⟨_, _, hlow, hc⟩
  · have hletter : letter ≠ '\r' := by
      rintro rfl
      cases hread
    simp [hc, hletter.symm]
  · rw [hc]
    generalize c.toNat = n at hlow
    interval_cases n <;> decide
  · have hreturn : c ≠ '\r' := by
      rintro rfl
      exact hlow (by decide)
    simp [hc, hreturn.symm]

theorem return_not_mem_quoteText (cs : List Char) : '\r' ∉ quoteText (.ofChars cs) := by
  rw [quoteText_ofChars, List.mem_cons, List.mem_append, List.mem_flatMap, List.mem_singleton]
  rintro (h | ⟨c, _, h⟩ | h)
  · exact absurd h (by decide)
  · exact return_not_mem_escapeChar c h
  · exact absurd h (by decide)

theorem skipSpace_of_head {c : Char} (hc : isSpace c = false) (rest : List Char) :
    skipSpace (c :: rest) = c :: rest := by
  simp [skipSpace, hc]

theorem skipSpace_newLine (level : Nat) {c : Char} (hc : isSpace c = false) (rest : List Char) :
    skipSpace (newLine level ++ c :: rest) = c :: rest := by
  have hblank : ∀ x ∈ newLine level, isSpace x = true := by
    intro x hx
    rcases List.mem_cons.mp hx with rfl | hx
    · rfl
    · rw [List.eq_of_mem_replicate hx]
      rfl
  rw [skipSpace, List.dropWhile_append_of_pos hblank, List.dropWhile_cons, if_neg (by simp [hc])]

/-- A document `j`, written at a level of indentation, is read as `j'`, whatever follows it. -/
structure ReadsAs (depth level : Nat) (j j' : Json) : Prop where
  reads {fuel : Nat} (rest : List Char) (hfuel : (indented level j).length ≤ fuel) :
    readValue fuel depth (indented level j ++ rest) = .ok (j', rest)
  noReturn : '\r' ∉ indented level j
  head : ∃ c cs, indented level j = c :: cs ∧ isSpace c = false ∧ c ≠ '\ufeff'

theorem readsAs_bool (depth level : Nat) (b : Bool) : ReadsAs depth level (.bool b) (.bool b) where
  reads {fuel} rest hfuel := by
    cases fuel with
    | zero => cases b <;> simp [indented, atomText] at hfuel
    | succ fuel => cases b <;> rfl
  noReturn := by cases b <;> simp [indented, atomText]
  head := by cases b <;> exact ⟨_, _, rfl, rfl, by decide⟩

theorem readsAs_text (depth level : Nat) (cs : List Char) :
    ReadsAs depth level (.text (.ofChars cs)) (.text (.ofChars cs)) where
  reads {fuel} rest hfuel := by
    obtain ⟨body, hbody, hread⟩ := stringFrom_quoteText (quoteText (.ofChars cs) ++ rest) cs rest
    cases fuel with
    | zero => simp [indented, atomText, quoteText] at hfuel
    | succ fuel =>
        rw [indented, atomText]
        · rw [hbody] at hread ⊢
          simp only [readValue, hread]
          rfl
        all_goals simp
  noReturn := by
    rw [indented, atomText]
    · exact return_not_mem_quoteText cs
    all_goals simp
  head := ⟨_, _, rfl, rfl, by decide⟩

/-- A member, written as part of an object, is read as another of the same name. -/
structure MemberReadsAs (depth level : Nat) (m m' : Text × Json) : Prop where
  name : ∃ cs, m.1 = .ofChars cs ∧ m'.1 = .ofChars cs
  value : ReadsAs depth level m.2 m'.2

theorem indentedMembers_cons (level : Nat) (m : Text × Json) (members : List (Text × Json)) :
    indentedMembers level (m :: members) =
      quoteText m.1 ++ ':' :: ' ' :: (indented level m.2 ++
        if members.isEmpty then [] else ',' :: newLine level ++ indentedMembers level members) := by
  obtain ⟨name, value⟩ := m
  simp [indentedMembers]

theorem ReadsAs.skipSpace_blank {depth level : Nat} {j j' : Json} (h : ReadsAs depth level j j')
    (after : List Char) :
    skipSpace (' ' :: (indented level j ++ after)) = indented level j ++ after := by
  obtain ⟨c, cs, hj, hc, _⟩ := h.head
  have hspace : isSpace ' ' = true := rfl
  rw [hj, List.cons_append, skipSpace, List.dropWhile_cons, if_pos hspace]
  exact skipSpace_of_head hc (cs ++ after)

section Member

variable {depth level fuel : Nat} {value value' : Json} (hvalue : ReadsAs depth level value value')
  (hfuel : (indented level value).length ≤ fuel) (cs : List Char)
include hvalue hfuel

/-- Reading one member comes to what follows its value: the end of the object, or more members. -/
theorem readMembers_member (after : List Char) :
    (∀ rest, skipSpace after = '\x7d' :: rest →
      readMembers (fuel + 1) depth
          (quoteText (.ofChars cs) ++ ':' :: ' ' :: (indented level value ++ after)) =
        .ok ([(.ofChars cs, value')], rest)) ∧
      ∀ rest, skipSpace after = ',' :: rest →
        readMembers (fuel + 1) depth
            (quoteText (.ofChars cs) ++ ':' :: ' ' :: (indented level value ++ after)) =
          (readMembers fuel depth (skipSpace rest)).map fun r =>
            ((.ofChars cs, value') :: r.1, r.2) := by
  obtain ⟨body, hbody, hread⟩ := stringFrom_quoteText
    (quoteText (.ofChars cs) ++ ':' :: ' ' :: (indented level value ++ after)) cs
    (':' :: ' ' :: (indented level value ++ after))
  have hcolon : skipSpace (':' :: ' ' :: (indented level value ++ after)) =
      ':' :: ' ' :: (indented level value ++ after) := skipSpace_of_head rfl _
  rw [hbody] at hread ⊢
  simp only [readMembers, hread, hcolon, hvalue.skipSpace_blank, hvalue.reads after hfuel]
  constructor
  · intro rest hrest
    simp only [hrest]
  · intro rest hrest
    simp only [hrest]

theorem readMembers_last (k : Nat) (rest : List Char) :
    readMembers (fuel + 1) depth (quoteText (.ofChars cs) ++ ':' :: ' ' ::
        (indented level value ++ (newLine k ++ '\x7d' :: rest))) =
      .ok ([(.ofChars cs, value')], rest) :=
  (readMembers_member hvalue hfuel cs _).1 rest (skipSpace_newLine k rfl rest)

theorem readMembers_more {body rest : List Char} {members : List (Text × Json)}
    (hnext : readMembers fuel depth ('\x22' :: body) = .ok (members, rest)) :
    readMembers (fuel + 1) depth (quoteText (.ofChars cs) ++ ':' :: ' ' ::
        (indented level value ++ ',' :: (newLine level ++ '\x22' :: body))) =
      .ok ((.ofChars cs, value') :: members, rest) := by
  have hcomma := skipSpace_of_head (c := ',') rfl (newLine level ++ '\x22' :: body)
  have hquote := skipSpace_newLine level (c := '\x22') rfl body
  rw [(readMembers_member hvalue hfuel cs _).2 _ hcomma, hquote, hnext]
  rfl

end Member

theorem readMembers_indented {depth level : Nat} {members members' : List (Text × Json)}
    (h : List.Forall₂ (MemberReadsAs depth level) members members') (hne : members ≠ [])
    {fuel : Nat} (hfuel : (indentedMembers level members).length ≤ fuel) (k : Nat)
    (rest : List Char) :
    readMembers fuel depth (indentedMembers level members ++ (newLine k ++ '\x7d' :: rest)) =
      .ok (members', rest) := by
  induction h generalizing fuel with
  | nil => exact absurd rfl hne
  | @cons m m' members members' hm htail ih =>
      obtain ⟨⟨cs, hname, hname'⟩, hvalue⟩ := hm
      have hm' : m' = (.ofChars cs, m'.2) := by rw [← hname']
      rw [indentedMembers_cons, hname] at hfuel ⊢
      simp only [List.length_append, List.length_cons] at hfuel
      obtain ⟨fuel, rfl⟩ : ∃ n, fuel = n + 1 := ⟨fuel - 1, by omega⟩
      rw [hm', List.append_assoc, List.cons_append, List.cons_append, List.append_assoc]
      cases htail with
      | nil => exact readMembers_last hvalue (by omega) cs k rest
      | @cons n n' members members' hn htail =>
          -- The next member begins with a quote, which is where the reader goes on.
          obtain ⟨body, hbody⟩ : ∃ body, indentedMembers level (n :: members) = '\x22' :: body := by
            rw [indentedMembers_cons, quoteText]
            exact ⟨_, rfl⟩
          simp only [List.isEmpty_cons, Bool.false_eq_true, if_false, List.length_append,
            List.length_cons, hbody] at hfuel ih ⊢
          have hlength : body.length + 1 ≤ fuel := by omega
          have hnext := ih (by simp) hlength
          simp only [List.cons_append, List.append_assoc] at hnext ⊢
          exact readMembers_more hvalue (by omega) cs hnext

theorem return_not_mem_newLine (level : Nat) : '\r' ∉ newLine level := by
  simp [newLine]

theorem return_not_mem_indentedMembers {depth level : Nat} {members members' : List (Text × Json)}
    (h : List.Forall₂ (MemberReadsAs depth level) members members') :
    '\r' ∉ indentedMembers level members := by
  induction h with
  | nil => simp [indentedMembers]
  | @cons m m' members members' hm _ ih =>
      obtain ⟨⟨cs, hname, _⟩, hvalue⟩ := hm
      have hquote := return_not_mem_quoteText cs
      have hnoReturn := hvalue.noReturn
      have hnewLine := return_not_mem_newLine level
      rw [indentedMembers_cons, hname]
      split <;> simp [hquote, hnoReturn, hnewLine, ih]

/-- An object whose members are read back is read back itself, except that of members of one name
the last counts. -/
theorem readsAs_object {depth level : Nat} {members members' : List (Text × Json)}
    (h : List.Forall₂ (MemberReadsAs depth (level + 1)) members members') :
    ReadsAs (depth + 1) level (.object members) (ofMembers members') := by
  cases members with
  | nil =>
      cases h
      refine ⟨fun {fuel} rest hfuel => ?_, by simp [indented, atomText],
        ⟨_, _, rfl, rfl, by decide⟩⟩
      cases fuel with
      | zero => simp [indented, atomText] at hfuel
      | succ fuel => rfl
  | cons m members =>
      have hindented : indented level (.object (m :: members)) =
          '\x7b' :: (newLine (level + 1) ++ (indentedMembers (level + 1) (m :: members) ++
            (newLine level ++ ['\x7d']))) := by
        simp [indented]
      obtain ⟨body, hbody⟩ : ∃ body,
          indentedMembers (level + 1) (m :: members) = '\x22' :: body := by
        rw [indentedMembers_cons, quoteText]
        exact ⟨_, rfl⟩
      refine ⟨fun {fuel} rest hfuel => ?_, ?_, ⟨_, _, hindented, rfl, by decide⟩⟩
      · rw [hindented] at hfuel ⊢
        simp only [List.length_cons, List.length_append] at hfuel
        obtain ⟨fuel, rfl⟩ : ∃ n, fuel = n + 1 := ⟨fuel - 1, by omega⟩
        have hlength : (indentedMembers (level + 1) (m :: members)).length ≤ fuel := by omega
        have hmembers := readMembers_indented h (by simp) hlength level rest
        rw [hbody] at hmembers ⊢
        have hquote := skipSpace_newLine (level + 1) (c := '\x22') rfl
          (body ++ (newLine level ++ '\x7d' :: rest))
        simp only [List.cons_append, List.append_assoc, List.nil_append] at hmembers ⊢
        simp only [readValue, hquote]
        change (readMembers fuel depth ('\x22' :: _)).map _ = _
        rw [hmembers]
        rfl
      · have hmembers := return_not_mem_indentedMembers h
        have hinner := return_not_mem_newLine (level + 1)
        have houter := return_not_mem_newLine level
        rw [hindented]
        simp [hmembers, hinner, houter]

/-- A text that is one value from its first character to its last is read as that value. -/
theorem read_of_readValue {c : Char} {cs : List Char} {j : Json} (hspace : isSpace c = false)
    (hmark : c ≠ '\ufeff')
    (h : readValue (2 * (c :: cs).length + 2) maxDepth (c :: cs) = .ok (j, [])) :
    read (c :: cs) = .ok j := by
  rw [read, readWithin, skipSpace_of_head hspace]
  · rw [h]
    rfl
  · intro rest heq
    cases heq
    exact hmark rfl

/-- A document that is written and read as a whole. -/
theorem ReadsAs.read_pretty {j j' : Json} (h : ReadsAs maxDepth 0 j j') :
    read j.pretty.toList = .ok j' := by
  obtain ⟨c, cs, hj, hspace, hmark⟩ := h.head
  have hlength : (indented 0 j).length ≤ 2 * (indented 0 j).length + 2 := by omega
  have hreads := h.reads [] hlength
  rw [List.append_nil, hj] at hreads
  rw [pretty, String.toList_ofList, hj]
  exact read_of_readValue hspace hmark hreads

theorem ReadsAs.return_not_mem_pretty {depth : Nat} {j j' : Json} (h : ReadsAs depth 0 j j') :
    '\r' ∉ j.pretty.toList := by
  rw [pretty, String.toList_ofList]
  exact h.noReturn

end CallGraphs.Json
