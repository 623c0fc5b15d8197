import CallGraphs.Markup.PictographTable
import CallGraphs.Text.Blank
import CallGraphs.Text.Lower
/-!
# Pictographs by name

A name between two colons stands for a pictograph. It may end in a hyphen and one of two words that
ask for a plain or a coloured variant.
-/

namespace CallGraphs.Markup

/-- The words for variants, with the character that asks for each. -/
def variants : List (List Char × Char) :=
  [("-emoji:".toList, '\ufe0f'), ("-text:".toList, '\ufe0e')]

/-- A name between colons, the variant that it asks for, and what follows. -/
structure Code where
  name : List Char
  variant : List Char
  rest : List Char

/-- The code that goes on after a colon, up to the next colon. It holds no blank. -/
def code? : List Char → Option Code
  | [] => none
  | c :: cs =>
    match variants.find? fun v => v.1.isPrefixOf (c :: cs) with
    | some v => some ⟨[], [v.2], (c :: cs).drop v.1.length⟩
    | none =>
      if c = ':' then some ⟨[], [], cs⟩
      else if Text.isBlank c then none
      else (code? cs).map fun code => { code with name := c :: code.name }

theorem code?_length {cs : List Char} {code : Code} (h : code? cs = some code) :
    code.rest.length < cs.length := by
  induction cs generalizing code with
  | nil => simp [code?] at h
  | cons c cs ih =>
    simp only [code?] at h
    split at h
    · rename_i v hv
      have hp : v.1.isPrefixOf (c :: cs) = true := by simpa using List.find?_some hv
      have hm : v ∈ variants := List.mem_of_find?_eq_some hv
      have hl : 0 < v.1.length := by
        simp only [variants, List.mem_cons, List.not_mem_nil, or_false] at hm
        rcases hm with rfl | rfl <;> decide
      simp only [Option.some.injEq] at h
      subst h
      have := (List.isPrefixOf_iff_prefix.1 hp).length_le
      simp only [List.length_drop]
      omega
    · split at h
      · simp only [Option.some.injEq] at h
        subst h
        simp
      · split at h
        · simp at h
        · obtain ⟨code', hc, rfl⟩ := Option.map_eq_some_iff.1 h
          have := ih hc
          simp only [List.length_cons]
          omega

/-- What a code stands for: its pictograph, or itself if there is none of that name. -/
def Code.text (written : List Char) (code : Code) : List Char :=
  match pictographs.lookup (String.ofList (Text.lower code.name)) with
  | some picture => picture.toList ++ code.variant
  | none => written

/-- The text with names between colons replaced by pictographs. -/
def replaceCodes (cs : List Char) : List Char :=
  match cs with
  | [] => []
  | c :: rest =>
    if c = ':' then
      match h : code? rest with
      | some code =>
        have := code?_length h
        code.text ((c :: rest).take (rest.length + 1 - code.rest.length)) ++ replaceCodes code.rest
      | none => c :: replaceCodes rest
    else c :: replaceCodes rest
termination_by cs.length

end CallGraphs.Markup
