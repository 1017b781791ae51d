/-
Binary floating-point numbers, as their bits.

A finite number is `m · 2^q` with a sign.  Its bits are the sign, then one natural number
in which the exponent and the fraction stand side by side: because a fraction that
overflows carries into the exponent, that number is `(q - least) · 2^fraction + m` for
normal and subnormal numbers alike.

Every conversion here is one act of rounding a ratio of natural numbers to the nearest
number of the format, a tie going to the even one.  From integers, between widths and
from decimal text the ratio differs and the rounding is the same.
-/

namespace QueryMethods

/-- The widths of a binary format: stored fraction bits and exponent bits. -/
structure BinaryFormat where
  fraction : Nat
  exponent : Nat

/-- A power of two. -/
def powerOfTwo (n : Nat) : Nat := Nat.pow 2 n

/-- A power of ten. -/
def powerOfTen (n : Nat) : Nat := Nat.pow 10 n

namespace BinaryFormat

/-- Numbers of 64 bits. -/
def double : BinaryFormat := ⟨52, 11⟩

/-- Numbers of 32 bits. -/
def single : BinaryFormat := ⟨23, 8⟩

/-- The exponent of the last bit of the smallest numbers. -/
def least (f : BinaryFormat) : Int := 2 - (powerOfTwo (f.exponent - 1) : Int) - f.fraction

/-- The bits of infinity without the sign. -/
def infinity (f : BinaryFormat) : Nat := (powerOfTwo f.exponent - 1) * powerOfTwo f.fraction

/-- The bit of the sign. -/
def signBit (f : BinaryFormat) : Nat := powerOfTwo (f.fraction + f.exponent)

/-- The bits of the number that stands for all that are not numbers. -/
def notANumber (f : BinaryFormat) : Nat := f.infinity + powerOfTwo (f.fraction - 1)

end BinaryFormat

/-- `num / den` rounded to the nearest natural number, a tie to the even one. -/
def roundHalfEven (num den : Nat) : Nat :=
  let down := num / den
  let twice := 2 * (num % den)
  if twice < den then down
  else if den < twice then down + 1
  else if down % 2 = 0 then down else down + 1

/-- The largest `e` with `2^e ≤ num / den`. -/
def ratioLog2 (num den : Nat) : Int :=
  let guess : Int := (Nat.log2 num : Int) - Nat.log2 den
  let power := powerOfTwo guess.natAbs
  let reached := if guess < 0 then den ≤ num * power else den * power ≤ num
  if reached then guess else guess - 1

/-- The bits, without a sign, of the number nearest to `num / den`. -/
def BinaryFormat.round (f : BinaryFormat) (num den : Nat) : Nat :=
  if num = 0 then 0
  else
    let q := max (ratioLog2 num den - f.fraction) f.least
    let m := if q < 0 then roundHalfEven (num * powerOfTwo q.natAbs) den
      else roundHalfEven num (den * powerOfTwo q.natAbs)
    min ((q - f.least).toNat * powerOfTwo f.fraction + m) f.infinity

/-- What the bits of a number say. -/
inductive BinaryValue
  | notANumber
  | infinite (negative : Bool)
  | finite (negative : Bool) (m : Nat) (q : Int)

/-- Reads the bits of a number. -/
def BinaryFormat.read (f : BinaryFormat) (bits : Nat) : BinaryValue :=
  let negative := f.signBit ≤ bits
  let magnitude := bits % f.signBit
  let scale := magnitude / powerOfTwo f.fraction
  let low := magnitude % powerOfTwo f.fraction
  if magnitude = f.infinity then .infinite negative
  else if f.infinity < magnitude then .notANumber
  else if scale = 0 then .finite negative low f.least
  else .finite negative (powerOfTwo f.fraction + low) (f.least + scale - 1)

/-- Writes a magnitude with its sign. -/
def BinaryFormat.signed (f : BinaryFormat) (negative : Bool) (magnitude : Nat) : Nat :=
  if negative then f.signBit + magnitude else magnitude

/-- The nearest number of the format to a number read from any other. -/
def BinaryFormat.convert (f : BinaryFormat) : BinaryValue → Nat
  | .notANumber => f.notANumber
  | .infinite negative => f.signed negative f.infinity
  | .finite negative m q =>
    let power := powerOfTwo q.natAbs
    f.signed negative (if q < 0 then f.round m power else f.round (m * power) 1)

/-- A number of 64 bits. -/
structure Double where
  bits : UInt64
  deriving DecidableEq, Repr, Inhabited

/-- A number of 32 bits. -/
structure Single where
  bits : UInt32
  deriving DecidableEq, Repr, Inhabited

namespace Double

/-- What the number is. -/
def read (x : Double) : BinaryValue := BinaryFormat.double.read x.bits.toNat

/-- The nearest number to an integer. -/
def ofInt (n : Int) : Double :=
  let magnitude := BinaryFormat.double.round n.natAbs 1
  ⟨UInt64.ofNat (BinaryFormat.double.signed (n < 0) magnitude)⟩

/-- The nearest number of 32 bits. -/
def toSingle (x : Double) : Single := ⟨UInt32.ofNat (BinaryFormat.single.convert x.read)⟩

/-- Whether the bits stand for no number. -/
def isNotANumber (x : Double) : Bool :=
  match x.read with
  | .notANumber => true
  | _ => false

end Double

namespace Single

/-- What the number is. -/
def read (x : Single) : BinaryValue := BinaryFormat.single.read x.bits.toNat

/-- The same number with 64 bits. -/
def toDouble (x : Single) : Double := ⟨UInt64.ofNat (BinaryFormat.double.convert x.read)⟩

/-- Whether the bits stand for no number. -/
def isNotANumber (x : Single) : Bool :=
  match x.read with
  | .notANumber => true
  | _ => false

end Single

end QueryMethods
