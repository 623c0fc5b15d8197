import CallGraphs.Layout.Wrap
/-!
# Panels

Text in a frame that takes the whole width.
-/

namespace CallGraphs.Layout

/-- The cells between the frame and the text, at each side. -/
def panelMargin : Nat := 2

/-- The lines between the upper and the lower side of a frame with `inner` cells inside: the text with
an empty line above and below. -/
def panelBody (inner : Nat) (cs : List Char) : List (List Char) :=
  let room := inner - 2 * panelMargin
  let content := if room = 0 then []
    else (wrap room .natural .fold cs).map fun line => Text.spaces panelMargin ++ line
  ([[]] ++ content ++ [[]]).map fun line => '│' :: Text.fitCells inner line ++ ['│']

/-- The lines of a text in a frame of `width` cells. Without room inside there are only corners. -/
def panel (width : Nat) (cs : List Char) : List (List Char) :=
  let inner := width - 2
  ('╭' :: List.replicate inner '─' ++ ['╮']).take width ::
    (if inner = 0 then [] else panelBody inner cs) ++
    [('╰' :: List.replicate inner '─' ++ ['╯']).take width]

end CallGraphs.Layout
