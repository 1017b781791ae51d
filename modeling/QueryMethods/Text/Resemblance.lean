/-
How much two words resemble each other, for suggesting the name that was meant.

Two characters match when they are equal and not too far apart, each character matching
at most once.  The resemblance is the mean of the share of matched characters on either
side and the share of matches that are in order; a common beginning of up to four
characters moves it towards one.  Everything is computed as an exact fraction.
-/

namespace QueryMethods.Text

/-- A fraction of natural numbers with a positive denominator. -/
structure Fraction where
  num : Nat
  den : Nat

namespace Fraction

/-- Whether one fraction is strictly smaller than another. -/
def lt (a b : Fraction) : Bool := a.num * b.den < b.num * a.den

end Fraction

/-- The first position in `low … high - 1` that holds `c` and is still free. -/
def freeMatch (c : Char) (low : Nat) (free : List (Nat × Char)) (high : Nat) : Option Nat :=
  (free.find? (fun (j, d) => low ≤ j && j < high && d == c)).map (·.1)

/-- Matches the characters of the first word, in order, with free ones of the second;
answers the matched characters of both words. -/
def matchChars (range : Nat) : Nat → List Char → List (Nat × Char) → List Char × List (Nat × Char)
  | _, [], free => ([], free)
  | i, c :: rest, free =>
    match freeMatch c (i - range) free (i + range + 1) with
    | some j =>
      let (matched, left) := matchChars range (i + 1) rest (free.filter (·.1 != j))
      (c :: matched, left)
    | none => matchChars range (i + 1) rest free

/-- The resemblance without regard to a common beginning. -/
def plainResemblance (a b : List Char) : Fraction :=
  if a.isEmpty && b.isEmpty then ⟨1, 1⟩
  else
    let range := max a.length b.length / 2 - 1
    let numbered := b.zipIdx.map (fun (c, j) => (j, c))
    let (left, unmatched) := matchChars range 0 a numbered
    let right := (numbered.filter (fun (j, _) => !unmatched.any (·.1 == j))).map (·.2)
    let matched := left.length
    if matched = 0 then ⟨0, 1⟩
    else
      let swapped := ((left.zip right).filter (fun (c, d) => c != d)).length / 2
      ⟨matched * matched * b.length + matched * matched * a.length
          + (matched - swapped) * a.length * b.length,
        3 * a.length * b.length * matched⟩

/-- The resemblance of two words, from zero to one. -/
def resemblance (a b : String) : Fraction :=
  let plain := plainResemblance a.toList b.toList
  if Fraction.lt ⟨7, 10⟩ plain then
    let common := (((a.toList.take 4).zip b.toList).takeWhile (fun (c, d) => c == d)).length
    ⟨plain.num * 10 + common * (plain.den - plain.num), plain.den * 10⟩
  else plain

/-- The word that resembles `meant` most, the first of equals, if any resembles it by
more than four fifths. -/
def closest (meant : String) (words : List String) : Option String :=
  (words.foldl
    (fun best word =>
      let score := resemblance meant word
      let better := match best with
        | none => true
        | some (_, top) => Fraction.lt top score
      if Fraction.lt ⟨4, 5⟩ score && better then some (word, score) else best)
    (none : Option (String × Fraction))).map (·.1)

end QueryMethods.Text
