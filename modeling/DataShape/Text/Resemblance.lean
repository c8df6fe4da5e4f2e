/-!
# Resemblance of words

How much two words have in common, for suggestions: their longest common part, then in the same way
the parts in front of it and behind it.
-/

namespace DataShape.Text

/-- The length of the part that two words start with. -/
def commonFront : List Char → List Char → Nat
  | a :: as, b :: bs => if a = b then commonFront as bs + 1 else 0
  | _, _ => 0

/-- A common part of two words: where it starts in each, and its length. -/
structure CommonPart where
  first : Nat := 0
  second : Nat := 0
  length : Nat := 0

/-- The longest common part of two words, the earliest of several. -/
def longestCommon (as bs : List Char) : CommonPart :=
  (List.range as.length).foldl (fun best i =>
    (List.range bs.length).foldl (fun best j =>
      let length := commonFront (as.drop i) (bs.drop j)
      if best.length < length then ⟨i, j, length⟩ else best) best) {}

/-- The number of characters that two words share, for words of a bounded length. -/
def sharedCount : Nat → List Char → List Char → Nat
  | 0, _, _ => 0
  | bound + 1, as, bs =>
    let part := longestCommon as bs
    if part.length = 0 then 0
    else
      sharedCount bound (as.take part.first) (bs.take part.second) + part.length
        + sharedCount bound (as.drop (part.first + part.length))
          (bs.drop (part.second + part.length))

/-- Of several words those that share at least three fifths of their characters with a given one, in
ascending order. -/
def resembling (word : String) (words : List String) : List String :=
  let close (w : String) : Bool :=
    3 * (w.length + word.length) ≤ 10 * sharedCount (w.length + 1) w.toList word.toList
  (words.filter close).mergeSort fun a b => a ≤ b

end DataShape.Text
