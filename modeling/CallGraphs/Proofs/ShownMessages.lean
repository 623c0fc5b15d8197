import CallGraphs.Report
import CallGraphs.Proofs.TextFiles
/-!
# Shown messages

A message is marked up: its mark stands between tags, and so may parts of the text that follows. A
text of characters without opening brackets has no tags of its own, so that it is always shown,
whatever else is in it.
-/

namespace CallGraphs

namespace Markup

/-- A text without opening brackets is one piece. -/
theorem piecesFrom_of_not_mem {cs : List Char} (h : '[' ∉ cs) (position slashes : Nat)
    (run : List Char) :
    piecesFrom position slashes run cs = [.text (run.reverse ++ backslashes slashes ++ cs)] := by
  induction cs generalizing position slashes run with
  | nil => simp [piecesFrom]
  | cons c cs ih =>
      obtain ⟨hc, hcs⟩ : '[' ≠ c ∧ '[' ∉ cs := by simpa using h
      rw [piecesFrom]
      by_cases hslash : c = '\\'
      · rw [if_pos hslash, ih hcs, hslash]
        simp [backslashes, List.replicate_succ']
      · rw [if_neg hslash, if_neg hc.symm, ih hcs]
        simp [backslashes]

/-- A tag ends the text before it. -/
theorem piecesFrom_tag {rest body rest' : List Char} (h : tag? rest = some (body, rest'))
    (position slashes : Nat) (run : List Char) :
    piecesFrom position slashes run ('[' :: rest) =
      .text run.reverse :: tagPieces (position - slashes) slashes body ++
        piecesFrom (position + body.length + 2) 0 [] rest' := by
  rw [piecesFrom, if_neg (by decide), if_pos rfl]
  split
  · rename_i heq
    rw [h] at heq
    cases heq
    rfl
  · rename_i heq
    rw [h] at heq
    cases heq

theorem upToClose_append {body : List Char} (h : ∀ c ∈ body, c ≠ ']' ∧ c ≠ '[') (rest : List Char) :
    upToClose (body ++ ']' :: rest) = some (body, rest) := by
  induction body with
  | nil => rfl
  | cons c body ih =>
      obtain ⟨⟨hclose, hopen⟩, hbody⟩ := List.forall_mem_cons.mp h
      rw [List.cons_append, upToClose, if_neg hclose, if_neg hopen, ih hbody]
      rfl

end Markup

namespace Report

open Markup

/-- The styles of the marks. -/
def markStyles : List String :=
  ["green", "red", "yellow", "blue"]

/-- A mark is one character between the tags of its style, and a blank. -/
theorem mark_eq (tone : Tone) : ∃ style ∈ markStyles, ∃ sign : Char, sign ≠ '\\' ∧ sign ≠ '[' ∧
    tone.mark.toList =
      '[' :: (style.toList ++ ']' :: sign :: '[' :: '/' :: (style.toList ++ [']', ' '])) := by
  cases tone with
  | success => exact ⟨"green", by decide, '✓', by decide⟩
  | error => exact ⟨"red", by decide, '✗', by decide⟩
  | warning => exact ⟨"yellow", by decide, '!', by decide⟩
  | info => exact ⟨"blue", by decide, 'i', by decide⟩

theorem tag?_style {style : String} (h : style ∈ markStyles) (rest : List Char) :
    tag? (style.toList ++ ']' :: rest) = some (style.toList, rest) ∧
      tag? ('/' :: (style.toList ++ ']' :: rest)) = some ('/' :: style.toList, rest) := by
  have hplain : ∀ c ∈ style.toList, c ≠ ']' ∧ c ≠ '[' := by
    have hall : ∀ style ∈ markStyles, style.toList.all (fun c => c ≠ ']' ∧ c ≠ '[') = true := by
      decide
    simpa using hall style h
  have hclose := upToClose_append hplain rest
  constructor
  · have hhead : ∀ style ∈ markStyles, style.toList.head?.any startsTag = true := by decide
    cases hstyle : style.toList with
    | nil => simpa [hstyle] using hhead style h
    | cons c body =>
        have hc : startsTag c = true := by simpa [hstyle] using hhead style h
        have hbody : ∀ d ∈ body, d ≠ ']' ∧ d ≠ '[' := by
          intro d hd
          exact hplain d (hstyle ▸ List.mem_cons_of_mem c hd)
        rw [List.cons_append, tag?, if_pos hc, upToClose_append hbody]
        rfl
  · rw [tag?, if_pos (by decide), hclose]
    rfl

theorem pieces_mark (tone : Tone) (cs : List Char) :
    ∃ style ∈ markStyles, ∃ (sign : Char) (close position : Nat),
      pieces (tone.mark.toList ++ cs) =
        [.text [], .text [], .tag 0 style.toList, .text [sign], .text [],
          .tag close ('/' :: style.toList)] ++ piecesFrom position 0 [] (' ' :: cs) := by
  obtain ⟨style, hstyle, sign, hslash, hbracket, hmark⟩ := mark_eq tone
  refine ⟨style, hstyle, sign, 0 + style.toList.length + 2 + 1,
    0 + style.toList.length + 2 + 1 + ('/' :: style.toList).length + 2, ?_⟩
  rw [hmark]
  simp only [List.cons_append, List.append_assoc, List.nil_append, pieces]
  rw [piecesFrom_tag (tag?_style hstyle _).1, piecesFrom, if_neg hslash, if_neg hbracket]
  simp only [backslashes, List.replicate_zero, List.append_nil]
  rw [piecesFrom_tag (tag?_style hstyle _).2]
  rfl

theorem applyTag_open {style : String} (h : style ∈ markStyles) (r : Reading) (position : Nat) :
    r.applyTag position style.toList =
      .ok { r with opened := ⟨style, none, r.text.length⟩ :: r.opened } := by
  simp only [markStyles, List.mem_cons, List.not_mem_nil, or_false] at h
  rcases h with rfl | rfl | rfl | rfl <;> rfl

theorem applyTag_close {style : String} (h : style ∈ markStyles) (text : List Char)
    (start position : Nat) :
    Reading.applyTag ⟨text, [⟨style, none, start⟩], []⟩ position ('/' :: style.toList) =
      .ok ⟨text, [], [⟨start, text.length, style.toList⟩]⟩ := by
  have hsplit : ∀ style ∈ markStyles,
      splitTag ('/' :: style.toList) = ('/' :: style.toList, none) := by decide
  have htrim : ∀ style ∈ markStyles, Text.trim style.toList = style.toList := by decide
  have hname : ∀ style ∈ markStyles, normalName? style.toList = some style := by decide
  have hne : ∀ style ∈ markStyles, style.toList.isEmpty = false := by decide
  have hdata : ∀ style ∈ markStyles, (style.toList.head? == some '@') = false := by decide
  have hclosed : closed position ('/' :: style.toList) (Text.trim style.toList)
      [⟨style, none, start⟩] = .ok (⟨style, none, start⟩, []) := by
    rw [closed, htrim style h, hne style h, tagName, hname style h]
    simp [bind, Except.bind]
  simp only [Reading.applyTag, hsplit style h, hclosed, bind, Except.bind, OpenTag.isData,
    hdata style h, Bool.false_eq_true, if_false]
  rfl

/-- The mark of a message is read, and then the text that follows it. -/
theorem read_mark (tone : Tone) (cs : List Char) :
    ∃ style ∈ markStyles, ∃ (mark : List Char) (start : Nat) (position : Nat),
      Markup.read (tone.mark.toList ++ cs) =
        ((piecesFrom position 0 [] (' ' :: cs)).foldlM Reading.add
          ⟨mark, [], [⟨start, mark.length, style.toList⟩]⟩).map Reading.finish := by
  obtain ⟨style, hstyle, sign, close, position, hpieces⟩ := pieces_mark tone cs
  refine ⟨style, hstyle, ?_⟩
  rw [Markup.read, hpieces, List.foldlM_append]
  simp only [List.foldlM_cons, List.foldlM_nil, Reading.add, applyTag_open hstyle, Reading.empty,
    Except.bind, bind, applyTag_close hstyle]
  exact ⟨_, _, _, rfl⟩

theorem isBroken_style {style : String} (h : style ∈ markStyles) (start stop : Nat) :
    Span.isBroken ⟨start, stop, style.toList⟩ = false := by
  simp only [markStyles, List.mem_cons, List.not_mem_nil, or_false] at h
  rcases h with rfl | rfl | rfl | rfl <;> rfl

/-- What stands for a half pair while a text is shown. -/
def standIns : List (List Char) :=
  [[], ['\ue000'], ['\ue001']]

/-- Showing texts is showing characters, unless there are half pairs in the texts. -/
theorem showing_cases (texts : List Text) (render : (Text → List Char) → Shown) :
    (∃ standIn ∈ standIns, showing texts render = render (Text.charsWith standIn)) ∨
      ∃ h, texts.findSome? Text.halves? = some h ∧
        showing texts render = .error (.unprintable h) := by
  cases hfound : texts.findSome? Text.halves? with
  | none =>
      refine .inl ⟨[], by decide, ?_⟩
      rw [showing, hfound]
  | some h =>
      cases hone : render (Text.charsWith ['\ue000']) with
      | error f =>
          refine .inl ⟨['\ue000'], by decide, ?_⟩
          rw [showing, hfound, hone]
          rfl
      | ok one =>
          cases hother : render (Text.charsWith ['\ue001']) with
          | error f =>
              refine .inl ⟨['\ue001'], by decide, ?_⟩
              rw [showing, hfound, hone, hother]
              rfl
          | ok other =>
              have hshown : showing texts render =
                  if one = other then .ok one else .error (.unprintable h) := by
                rw [showing, hfound, hone, hother]
                rfl
              by_cases hsame : one = other
              · rw [hshown, if_pos hsame, ← hone]
                exact .inl ⟨['\ue000'], by decide, rfl⟩
              · rw [hshown, if_neg hsame]
                exact .inr ⟨h, rfl, rfl⟩

/-- No stand-in brings a bracket with it. -/
theorem not_mem_charsWith {standIn : List Char} (hstandIn : standIn ∈ standIns) {t : Text}
    (h : .char '[' ∉ t.points) : '[' ∉ t.charsWith standIn := by
  intro hmem
  rcases Text.mem_charsWith hmem with hpoint | hchar
  · exact h hpoint
  · have hnone : ∀ standIn ∈ standIns, '[' ∉ standIn := by decide
    exact hnone standIn hstandIn hchar

theorem read_eq_error {markup : List Char} {f : Failure} (h : Report.read markup = .error f) :
    ∃ fault, f = .markup fault := by
  rw [Report.read] at h
  split at h
  · cases h
  · cases h
    exact ⟨_, rfl⟩

/-- Marked-up characters, wrapped. -/
def printed (width : Nat) (markup : List Char) : Shown := do
  let marked ← Report.read markup
  let lines := Layout.wrap width .natural .fold marked.text
  if width = 0 then .ok ""
  else if marked.isBroken lines.length then .error brokenStyle
  else .ok (joinLines width lines)

theorem printed_eq_error {width : Nat} {markup : List Char} {f : Failure}
    (h : printed width markup = .error f) : ∃ fault, f = .markup fault := by
  rw [printed] at h
  cases hread : Report.read markup with
  | error f' =>
      rw [hread] at h
      cases h
      exact read_eq_error hread
  | ok marked =>
      simp only [hread, bind, Except.bind] at h
      split at h
      · cases h
      · split at h
        · cases h
          exact ⟨_, rfl⟩
        · cases h

/-- A mark and characters without brackets are shown. -/
theorem printed_mark (width : Nat) (tone : Tone) {cs : List Char} (h : '[' ∉ cs) :
    ∃ shown, printed width (tone.mark.toList ++ cs) = .ok shown := by
  obtain ⟨style, hstyle, mark, start, position, hread⟩ := read_mark tone cs
  rw [piecesFrom_of_not_mem (by simpa using h)] at hread
  rw [printed]
  simp only [Report.read, hread, List.foldlM_cons, List.foldlM_nil, Reading.add, bind, Except.bind,
    pure, Except.pure, Except.map]
  simp only [Reading.finish, Marked.isBroken, List.map_nil, List.nil_append, List.any_cons,
    List.any_nil, isBroken_style hstyle, Bool.false_and, Bool.or_false]
  split
  · exact ⟨_, rfl⟩
  · exact ⟨_, rfl⟩

/-- What keeps a text from being shown: a bracket, which may be read as a tag, or half a pair. -/
inductive Spoils (text : Text) : Failure → Prop
  | bracket {fault : MarkupFault} (h : .char '[' ∈ text.points) : Spoils text (.markup fault)
  | half {halves : Text.Halves} (h : text.halves? ≠ none) : Spoils text (.unprintable halves)

theorem message_eq_error {width : Nat} {tone : Tone} {text : Text} {f : Failure}
    (h : message width tone text = .error f) : Spoils text f := by
  have hprint : message width tone text = showing [(tone.mark : Text) ++ text]
      fun chars => printed width (chars ((tone.mark : Text) ++ text)) := rfl
  rw [hprint] at h
  rcases showing_cases [(tone.mark : Text) ++ text]
      (fun chars => printed width (chars ((tone.mark : Text) ++ text))) with
    ⟨standIn, hstandIn, hshown⟩ | ⟨halves, hhalves, hshown⟩
  · rw [hshown, Text.charsWith_append, Text.ofString, Text.charsWith_ofChars] at h
    by_cases hmem : .char '[' ∈ text.points
    · obtain ⟨fault, rfl⟩ := printed_eq_error h
      exact .bracket hmem
    · obtain ⟨shown, hok⟩ := printed_mark width tone (not_mem_charsWith hstandIn hmem)
      rw [hok] at h
      cases h
  · rw [hshown] at h
    cases h
    refine .half fun hnone => ?_
    rw [List.findSome?_singleton, Text.halves?_append (Text.halves?_ofString _) hnone] at hhalves
    cases hhalves

/-- A message is shown unless it has brackets, which may be read as tags, or half pairs. -/
theorem message_shown (width : Nat) (tone : Tone) {text : Text} (hhalves : text.halves? = none)
    (h : .char '[' ∉ text.points) : ∃ shown, message width tone text = .ok shown := by
  cases hmessage : message width tone text with
  | ok shown => exact ⟨shown, rfl⟩
  | error f =>
      cases message_eq_error hmessage with
      | bracket hmem => exact absurd hmem h
      | half hsome => exact absurd hhalves hsome

end Report

end CallGraphs
