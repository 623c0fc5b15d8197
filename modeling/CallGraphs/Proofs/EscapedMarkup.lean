import CallGraphs.Proofs.ShownMessages
/-!
# Escaped markup

Escaping puts a backslash before each bracket that would start a tag and doubles the backslashes in
front of it, so that their number is odd. The brackets stay where they are, and a bracket that starts
no tag starts none afterwards. So an escaped text is read without any tags, whatever it holds.
-/

namespace CallGraphs.Markup

/-- Whether a piece is text. -/
def Piece.isText : Piece → Bool
  | text _ => true
  | tag .. => false

theorem backslashes_append (m n : Nat) : backslashes m ++ backslashes n = backslashes (m + n) :=
  List.replicate_append_replicate

/-- Backslashes are counted until something else comes. -/
theorem piecesFrom_backslashes (n position slashes : Nat) (run rest : List Char) :
    piecesFrom position slashes run (backslashes n ++ rest) =
      piecesFrom (position + n) (slashes + n) run rest := by
  induction n generalizing position slashes with
  | zero => rfl
  | succ n ih =>
      have hfirst : backslashes (n + 1) ++ rest = '\\' :: (backslashes n ++ rest) := rfl
      rw [hfirst, piecesFrom, if_pos rfl, ih]
      congr 1 <;> omega

/-- A bracket that starts no tag is text. -/
theorem piecesFrom_bracket {rest : List Char} (h : tag? rest = none) (position slashes : Nat)
    (run : List Char) :
    piecesFrom position slashes run ('[' :: rest) =
      piecesFrom (position + 1) 0 ('[' :: backslashes slashes ++ run) rest := by
  rw [piecesFrom, if_neg (by decide), if_pos rfl]
  split
  · rename_i heq
    rw [h] at heq
    cases heq
  · rfl

theorem upToClose_backslashes (n : Nat) (cs : List Char) :
    upToClose (backslashes n ++ cs) = (upToClose cs).map fun r => (backslashes n ++ r.1, r.2) := by
  induction n with
  | zero => exact Option.map_id'.symm
  | succ n ih =>
      have hfirst : backslashes (n + 1) ++ cs = '\\' :: (backslashes n ++ cs) := rfl
      rw [hfirst, upToClose, if_neg (by decide), if_neg (by decide), ih, Option.map_map]
      rfl

/-- No bracket stands before the one that closes a tag. -/
theorem plain_of_upToClose {cs body rest : List Char} (h : upToClose cs = some (body, rest)) :
    ∀ c ∈ body, c ≠ ']' ∧ c ≠ '[' := by
  induction cs generalizing body with
  | nil => cases h
  | cons c cs ih =>
      rw [upToClose] at h
      by_cases hclose : c = ']'
      · rw [if_pos hclose] at h
        cases h
        exact fun _ hmem => (by cases hmem)
      · by_cases hopen : c = '['
        · rw [if_neg hclose, if_pos hopen] at h
          cases h
        · rw [if_neg hclose, if_neg hopen] at h
          obtain ⟨⟨body', rest'⟩, hrest, heq⟩ := Option.map_eq_some_iff.mp h
          cases heq
          exact List.forall_mem_cons.mpr ⟨⟨hclose, hopen⟩, ih hrest⟩

/-- What follows a tag does not matter to it. -/
theorem tag?_append {cs body rest : List Char} (h : tag? cs = some (body, rest))
    (rest' : List Char) : tag? (body ++ ']' :: rest') = some (body, rest') := by
  cases cs with
  | nil => cases h
  | cons c cs =>
      rw [tag?] at h
      by_cases hstarts : startsTag c = true
      · rw [if_pos hstarts] at h
        obtain ⟨⟨body', _⟩, hclose, heq⟩ := Option.map_eq_some_iff.mp h
        cases heq
        rw [List.cons_append, tag?, if_pos hstarts,
          upToClose_append (plain_of_upToClose hclose)]
        rfl
      · rw [if_neg hstarts] at h
        cases h

theorem tag?_backslashes (n : Nat) : tag? (backslashes n) = none := by
  cases n <;> rfl

/-- Where no tag is closed, none is closed after escaping either: the brackets are still the same. -/
theorem upToClose_escapeFrom {cs : List Char} (h : upToClose cs = none) (slashes n : Nat) :
    upToClose (escapeFrom slashes cs ++ backslashes n) = none := by
  fun_induction escapeFrom slashes cs with
  | case1 slashes =>
      rw [backslashes_append, ← List.append_nil (backslashes _), upToClose_backslashes]
      rfl
  | case2 slashes rest ih =>
      rw [upToClose, if_neg (by decide), if_neg (by decide), Option.map_eq_none_iff] at h
      exact ih h
  | case3 =>
      rw [List.append_assoc, List.append_assoc, upToClose_backslashes]
      rfl
  | case4 =>
      rw [List.append_assoc, upToClose_backslashes]
      rfl
  | case5 slashes c rest hslash hopen ih =>
      rw [upToClose] at h
      by_cases hclose : c = ']'
      · rw [if_pos hclose] at h
        cases h
      · rw [if_neg hclose, if_neg hopen, Option.map_eq_none_iff] at h
        rw [List.append_assoc, upToClose_backslashes, List.cons_append, upToClose, if_neg hclose,
          if_neg hopen, ih h]
        rfl

/-- Backslashes that were seen come first. -/
theorem escapeFrom_succ (slashes : Nat) (cs : List Char) :
    ∃ rest, escapeFrom (slashes + 1) cs = '\\' :: rest := by
  induction cs generalizing slashes with
  | nil =>
      rw [escapeFrom]
      exact ⟨backslashes slashes, rfl⟩
  | cons c cs ih =>
      rw [escapeFrom]
      by_cases hslash : c = '\\'
      · rw [if_pos hslash]
        exact ih (slashes + 1)
      · rw [if_neg hslash]
        by_cases hopen : c = '['
        · rw [if_pos hopen]
          split
          · exact ⟨_, rfl⟩
          · exact ⟨_, rfl⟩
        · rw [if_neg hopen]
          exact ⟨_, rfl⟩

/-- A bracket that starts no tag starts none after escaping. -/
theorem tag?_escapeFrom {cs : List Char} (h : tag? cs = none) (n : Nat) :
    tag? (escapeFrom 0 cs ++ backslashes n) = none := by
  cases cs with
  | nil =>
      rw [escapeFrom, backslashes_append]
      exact tag?_backslashes _
  | cons c cs =>
      rw [escapeFrom]
      by_cases hslash : c = '\\'
      · obtain ⟨rest, hrest⟩ := escapeFrom_succ 0 cs
        rw [if_pos hslash, hrest]
        rfl
      · rw [if_neg hslash]
        by_cases hopen : c = '['
        · rw [if_pos hopen]
          split
          · rfl
          · rfl
        · rw [if_neg hopen]
          change tag? (c :: (escapeFrom 0 cs ++ backslashes n)) = none
          rw [tag?] at h ⊢
          by_cases hstarts : startsTag c = true
          · rw [if_pos hstarts, Option.map_eq_none_iff] at h
            rw [if_pos hstarts, upToClose_escapeFrom h]
            rfl
          · rw [if_neg hstarts]

/-- All pieces of an escaped text are text. -/
theorem isText_of_mem_piecesFrom_escapeFrom (slashes n position : Nat) (run cs : List Char) :
    ∀ p ∈ piecesFrom position 0 run (escapeFrom slashes cs ++ backslashes n), p.isText = true := by
  fun_induction escapeFrom slashes cs generalizing position run with
  | case1 slashes =>
      have hplain : '[' ∉ backslashes slashes ++ backslashes n := by
        rw [backslashes_append]
        intro hmem
        exact absurd (List.eq_of_mem_replicate hmem) (by decide)
      rw [piecesFrom_of_not_mem hplain]
      exact List.forall_mem_singleton.mpr rfl
  | case2 slashes rest ih => exact ih position run
  | case3 slashes rest body rest' htag _ _ ih =>
      simp only [List.append_assoc, List.cons_append]
      rw [piecesFrom_backslashes, piecesFrom_tag (tag?_append htag _)]
      -- The number of backslashes is odd, so that the tag is text.
      have hodd : (0 + (2 * slashes + 1)) % 2 = 1 := by omega
      rw [tagPieces, if_pos hodd]
      simp only [List.cons_append, List.nil_append, List.forall_mem_cons]
      exact ⟨rfl, rfl, rfl, ih _ []⟩
  | case4 slashes rest htag _ ih =>
      rw [List.append_assoc, List.cons_append, piecesFrom_backslashes,
        piecesFrom_bracket (tag?_escapeFrom htag n)]
      exact ih _ _
  | case5 slashes c rest hslash hopen ih =>
      rw [List.append_assoc, List.cons_append, piecesFrom_backslashes, piecesFrom, if_neg hslash,
        if_neg hopen]
      exact ih _ _

theorem escape_eq_append (cs : List Char) : ∃ n, escape cs = escapeFrom 0 cs ++ backslashes n := by
  rw [escape]
  split
  · exact ⟨0, (List.append_nil _).symm⟩
  · exact ⟨1, rfl⟩
  · exact ⟨0, (List.append_nil _).symm⟩

/-- Text adds to the text that was read, and nothing else. -/
theorem foldlM_add_of_isText {ps : List Piece} (h : ∀ p ∈ ps, p.isText = true) (r : Reading) :
    ∃ text, ps.foldlM Reading.add r = .ok { r with text := text } := by
  induction ps generalizing r with
  | nil => exact ⟨r.text, rfl⟩
  | cons p ps ih =>
      obtain ⟨hp, hps⟩ := List.forall_mem_cons.mp h
      cases p with
      | tag => cases hp
      | text cs => exact ih hps { r with text := _ }

/-- A text that is read without any style. -/
def Plain (cs : List Char) : Prop :=
  ∃ text, read cs = .ok ⟨text, []⟩

theorem plain_of_isText {cs : List Char} (h : ∀ p ∈ pieces cs, p.isText = true) : Plain cs := by
  obtain ⟨text, hread⟩ := foldlM_add_of_isText h .empty
  refine ⟨text, ?_⟩
  rw [read, hread]
  rfl

theorem plain_of_not_mem {cs : List Char} (h : '[' ∉ cs) : Plain cs := by
  apply plain_of_isText
  rw [pieces, piecesFrom_of_not_mem h]
  exact List.forall_mem_singleton.mpr rfl

/-- Whatever it holds, an escaped text is read, and without any style. -/
theorem plain_escape (cs : List Char) : Plain (escape cs) := by
  obtain ⟨n, hescape⟩ := escape_eq_append cs
  apply plain_of_isText
  rw [hescape]
  exact isText_of_mem_piecesFrom_escapeFrom 0 n 0 [] cs

end CallGraphs.Markup
