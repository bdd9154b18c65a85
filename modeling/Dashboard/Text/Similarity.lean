/-!
# Similar words

The Jaro–Winkler measure of two words, used to guess which key a mistyped one was meant to be. Two
characters match when they are equal and not farther apart than half the longer word; half the
matches that stand in another order are transpositions; a common beginning of up to four
characters raises the score of words that are already alike.
-/

namespace Dashboard.Text

/-- Marks the first unmarked place of `b` at index `lo` or later, before `hi`, that holds `c`. -/
def markMatch (c : Char) (lo hi : Nat) : Nat → List (Char × Bool) → Option (List (Char × Bool))
  | _, [] => none
  | j, (d, used) :: rest =>
    if hi ≤ j then none
    else if lo ≤ j && c == d && !used then some ((d, true) :: rest)
    else (markMatch c lo hi (j + 1) rest).map ((d, used) :: ·)

/-- The characters of `a` from index `i` on that find a match in `b`, and `b` with the matched
places marked. -/
def matchAll (range : Nat) : Nat → List Char → List (Char × Bool) → List Char × List (Char × Bool)
  | _, [], b => ([], b)
  | i, c :: a, b =>
    match markMatch c (i - range) (i + range + 1) 0 b with
    | some b' =>
      let (matched, marked) := matchAll range (i + 1) a b'
      (c :: matched, marked)
    | none => matchAll range (i + 1) a b

/-- The Jaro similarity of two words, between 0 and 1. -/
def jaro (a b : List Char) : Float :=
  if a.isEmpty && b.isEmpty then 1
  else if a.isEmpty || b.isEmpty then 0
  else
    let range := max a.length b.length / 2 - 1
    let (matched, marked) := matchAll range 0 a (b.map (·, false))
    let opposite := (marked.filter (·.2)).map (·.1)
    let transpositions := ((matched.zip opposite).filter fun p => p.1 != p.2).length / 2
    if matched.isEmpty then 0
    else
      let m := matched.length.toFloat
      (m / a.length.toFloat + m / b.length.toFloat
        + (matched.length - transpositions).toFloat / m) / 3

/-- The Jaro–Winkler similarity of two words, between 0 and 1. -/
def similarity (s t : String) : Float :=
  let a := s.toList
  let b := t.toList
  let score := jaro a b
  if score > 0.7 then
    let common := ((a.take 4).zip b).takeWhile fun p => p.1 == p.2
    score + 0.1 * common.length.toFloat * (1 - score)
  else score

end Dashboard.Text
