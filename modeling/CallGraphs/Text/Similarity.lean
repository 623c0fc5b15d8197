/-!
# Similar words

How alike two words are: the share of their characters that lie in common blocks, where the longest
block is taken first and then the parts to its left and right.
-/

namespace CallGraphs.Text

/-- The length of the common start of two words. -/
def commonStart : List Char → List Char → Nat
  | a :: as, b :: bs => if a = b then commonStart as bs + 1 else 0
  | _, _ => 0

/-- A block that two words have in common: where it starts in each, and its length. -/
structure Block where
  left : Nat
  right : Nat
  length : Nat

/-- The longer of two blocks, the first one if they are equally long. -/
def Block.longer (a b : Block) : Block :=
  if a.length < b.length then b else a

/-- The longest common block; of several the one that starts first on the left, then on the right. -/
def longestBlock (as bs : List Char) : Block :=
  (List.range as.length).foldl (fun best i =>
    (List.range bs.length).foldl (fun best j =>
      best.longer ⟨i, j, commonStart (as.drop i) (bs.drop j)⟩) best) ⟨0, 0, 0⟩

/-- The number of characters in common blocks, looking at most `depth` blocks deep. -/
def matching (depth : Nat) (as bs : List Char) : Nat :=
  match depth with
  | 0 => 0
  | depth + 1 =>
    let block := longestBlock as bs
    if block.length = 0 then 0
    else
      block.length + matching depth (as.take block.left) (bs.take block.right) +
        matching depth (as.drop (block.left + block.length)) (bs.drop (block.right + block.length))

/-- The characters that two words have in common. -/
def inCommon (a b : String) : Nat :=
  matching a.length a.toList b.toList

/-- Whether at least three fifths of the characters of two words are in common. -/
def isClose (a b : String) : Bool :=
  3 * (a.length + b.length) ≤ 10 * inCommon a b

/-- Whether `a` is closer to `word` than `b`, a tie going to the later one in the alphabet. -/
def isCloser (word a b : String) : Bool :=
  let left := inCommon a word * (b.length + word.length)
  let right := inCommon b word * (a.length + word.length)
  right < left || (left == right && decide (b ≤ a))

/-- The words of a list that are close to a given one, the three closest at most, in alphabetical
order. -/
def closeWords (word : String) (words : List String) : List String :=
  (((words.filter (isClose · word)).mergeSort (isCloser word)).take 3).mergeSort
    fun a b => decide (a ≤ b)

end CallGraphs.Text
