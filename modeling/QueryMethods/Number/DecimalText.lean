/-
Numbers read from decimal text.

A natural number is an optional plus sign and digits.  A real is an optional sign and
either digits with an optional point and an optional exponent, or one of the words `inf`,
`infinity` and `nan` in any case.  A real is rounded once, from its exact value.
-/
import QueryMethods.Number.Binary
import QueryMethods.Text.Case

namespace QueryMethods

/-- The number that a row of digits writes. -/
def digitsValue (cs : List Char) : Nat :=
  cs.foldl (fun n c => 10 * n + (c.toNat - '0'.toNat)) 0

/-- A natural number of at most 64 bits, with an optional plus sign. -/
def readNatural (s : String) : Option Nat :=
  let digits := match s.toList with
    | '+' :: rest => rest
    | cs => cs
  if digits.isEmpty || !digits.all Char.isDigit then none
  else
    let n := digitsValue digits
    if n < powerOfTwo 64 then some n else none

/-- An exponent after its letter: an optional sign and at least one digit. -/
def readExponent (cs : List Char) : Option Int :=
  let (negative, digits) := match cs with
    | '-' :: rest => (true, rest)
    | '+' :: rest => (false, rest)
    | _ => (false, cs)
  if digits.isEmpty || !digits.all Char.isDigit then none
  else
    let n : Int := digitsValue digits
    some (if negative then -n else n)

/-- The double nearest to `digits · 10^exponent`.  Exponents so large or so small that
the answer is infinity or zero are answered without computing the power. -/
def roundDecimal (digits : Nat) (exponent : Int) : Nat :=
  let size : Int := (Nat.toDigits 10 digits).length
  if digits = 0 then 0
  else if 400 < size + exponent then BinaryFormat.double.infinity
  else if size + exponent < -400 then 0
  else if exponent < 0 then BinaryFormat.double.round digits (powerOfTen exponent.natAbs)
  else BinaryFormat.double.round (digits * powerOfTen exponent.natAbs) 1

/-- The magnitude that unsigned decimal text writes. -/
def readMagnitude (cs : List Char) : Option Nat :=
  let whole := cs.takeWhile Char.isDigit
  let afterWhole := cs.dropWhile Char.isDigit
  let (part, afterPart) := match afterWhole with
    | '.' :: rest => (rest.takeWhile Char.isDigit, rest.dropWhile Char.isDigit)
    | rest => ([], rest)
  if whole.isEmpty && part.isEmpty then none
  else
    let exponent : Option Int := match afterPart with
      | [] => some 0
      | c :: rest => if c == 'e' || c == 'E' then readExponent rest else none
    exponent.map (fun e => roundDecimal (digitsValue (whole ++ part)) (e - part.length))

/-- A double from its text. -/
def Double.ofText (s : String) : Option Double :=
  let (negative, rest) := match s.toList with
    | '-' :: rest => (true, rest)
    | '+' :: rest => (false, rest)
    | cs => (false, cs)
  let word := String.ofList (rest.map Char.toLower)
  let magnitude :=
    if word == "inf" || word == "infinity" then some BinaryFormat.double.infinity
    else if word == "nan" then some BinaryFormat.double.notANumber
    else readMagnitude rest
  magnitude.map (fun m => ⟨UInt64.ofNat (BinaryFormat.double.signed negative m)⟩)

end QueryMethods
