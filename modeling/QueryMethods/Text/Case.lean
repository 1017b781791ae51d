/-
Upper and lower case of characters and of texts.

Case is the full mapping of the standard: one character may become several, as `ß`
becomes `SS`.  The letters of ASCII are answered directly, so that what is said about
them does not rest on the tables.

Lowering a text knows one rule that looks around: a capital sigma becomes the final form `ς`
when a letter stands before it and none after it, accents not counted.
-/
import QueryMethods.Text.Property.Lower
import QueryMethods.Text.Property.Upper
import QueryMethods.Text.Property.Cased
import QueryMethods.Text.Property.CaseIgnorable

namespace QueryMethods.Text

/-- The lower-case form of one character. -/
def lower (c : Char) : List Char :=
  if c.toNat < 128 then [c.toLower] else mapCase Property.lowerRuns Property.lowerSeveral c

/-- The upper-case form of one character. -/
def upper (c : Char) : List Char :=
  if c.toNat < 128 then [c.toUpper] else mapCase Property.upperRuns Property.upperSeveral c

/-- Raises character by character. -/
def upperEach (cs : List Char) : List Char := cs.flatMap upper

/-- Lowers the first character and keeps the rest. -/
def lowerFirst (s : String) : String :=
  match s.toList with
  | [] => ""
  | c :: rest => String.ofList (lower c ++ rest)

/-- Raises the first character and keeps the rest. -/
def upperFirst (s : String) : String :=
  match s.toList with
  | [] => ""
  | c :: rest => String.ofList (upper c ++ rest)

/-- Lowers the letters of ASCII and keeps everything else. -/
def lowerAscii (s : String) : String := String.ofList (s.toList.map Char.toLower)

/-- Two texts that differ at most in the case of ASCII letters. -/
def sameIgnoringCase (a b : String) : Bool := lowerAscii a == lowerAscii b

/-! ### The sigma at the end of a word -/

/-- Whether a character is a letter with a case. -/
def isCased (c : Char) : Bool :=
  if c.toNat < 128 then c.isAlpha else Property.cased.contains c

/-- Whether case rules look through a character. -/
def isCaseIgnorable (c : Char) : Bool :=
  if c.toNat < 128 then c ∈ ['\'', '.', ':', '^', '`'] else Property.caseIgnorable.contains c

/-- Whether the first character that case rules do not look through is a letter. -/
def meetsCased : List Char → Bool
  | [] => false
  | c :: rest => if isCaseIgnorable c then meetsCased rest else isCased c

/-- Lowers a text whose characters before it stand, nearest first, in `before`. -/
def lowerAfter (before : List Char) : List Char → List Char
  | [] => []
  | c :: rest =>
    let lowered :=
      if c = 'Σ' then (if meetsCased before && !meetsCased rest then ['ς'] else ['σ']) else lower c
    lowered ++ lowerAfter (c :: before) rest

/-- Lowers a text, with the final form of sigma where it belongs. -/
def lowerText (cs : List Char) : List Char := lowerAfter [] cs

end QueryMethods.Text
