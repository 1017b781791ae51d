/-
Reading a literal at the beginning of a source.

A text stands between quotes with escapes, or raw between quotes with hashes.  Bytes and
texts that end with a zero are written the same way behind `b` and `c`, with rules of
their own for escapes.  A number goes as far as its digits, its fraction and its exponent
do.  Every literal may have a suffix, an identifier that follows it directly.
-/
import QueryMethods.Syntax.Token
import QueryMethods.Text.Identifier
import QueryMethods.Text.Blank

namespace QueryMethods.Syntax

/-- The identifier at the beginning of a text, and what follows it. -/
def splitIdentifier : List Char → Option (List Char × List Char)
  | [] => none
  | c :: rest =>
    if Text.isIdentifierStart c then
      some (c :: rest.takeWhile Text.isIdentifierPart, rest.dropWhile Text.isIdentifierPart)
    else none

/-- What follows the suffix of a literal, if it has one. -/
def afterSuffix (cs : List Char) : List Char :=
  match splitIdentifier cs with
  | some (_, rest) => rest
  | none => cs

/-! ### Escapes -/

/-- Which escapes a quoted literal may have. -/
structure EscapeRule where
  /-- The two-digit codes that may be written. -/
  code : Nat → Bool
  /-- The characters that may be written by their number. -/
  number : Nat → Bool
  /-- Whether the short escape for zero may be written. -/
  zero : Bool
  /-- Whether a line may be continued on the next one. -/
  joinsLines : Bool
  /-- Which characters may stand for themselves. -/
  plain : Char → Bool

/-- The escapes of texts. -/
def textEscapes : EscapeRule := ⟨(· < 128), fun _ => true, true, true, fun _ => true⟩

/-- The escapes of single characters. -/
def charEscapes : EscapeRule := { textEscapes with joinsLines := false }

/-- The escapes of rows of bytes. -/
def byteEscapes : EscapeRule := ⟨fun _ => true, fun _ => false, true, true, (·.toNat < 128)⟩

/-- The escapes of texts that end with a zero, and so have none inside. -/
def cTextEscapes : EscapeRule := ⟨(· != 0), (· != 0), false, true, (·.toNat != 0)⟩

/-- The value of a digit in base sixteen. -/
def hexValue? (c : Char) : Option Nat :=
  if '0' ≤ c ∧ c ≤ '9' then some (c.toNat - '0'.toNat)
  else if 'a' ≤ c ∧ c ≤ 'f' then some (c.toNat - 'a'.toNat + 10)
  else if 'A' ≤ c ∧ c ≤ 'F' then some (c.toNat - 'A'.toNat + 10)
  else none

/-- Reads the number of a character up to the closing brace: one to six digits, with
underscores anywhere behind the first. -/
def readCharNumber (digits value : Nat) : List Char → Option (Nat × List Char)
  | [] => none
  | c :: rest =>
    match hexValue? c with
    | some d => if digits < 6 then readCharNumber (digits + 1) (16 * value + d) rest else none
    | none =>
      if digits = 0 then none
      else if c = '_' then readCharNumber digits value rest
      else if c = '\x7d' then some (value, rest)
      else none

/-- The character with a number, if there is one. -/
def charOfNumber? (n : Nat) : Option Char := if n.isValidChar then some (Char.ofNat n) else none

/-- The text behind the line ends and blanks at its beginning; a carriage return must
stand before a line feed, and something must follow. -/
def afterLineGap : List Char → Option (List Char)
  | '\r' :: '\n' :: rest => afterLineGap rest
  | '\n' :: rest => afterLineGap rest
  | ' ' :: rest => afterLineGap rest
  | '\t' :: rest => afterLineGap rest
  | [] => none
  | c :: rest => if c = '\r' then none else some (c :: rest)

/-- Reads an escape behind its backslash; it stands for at most one character. -/
def readEscape (rule : EscapeRule) : List Char → Option (List Char × List Char)
  | 'n' :: rest => some (['\n'], rest)
  | 'r' :: rest => some (['\r'], rest)
  | 't' :: rest => some (['\t'], rest)
  | '\\' :: rest => some (['\\'], rest)
  | '\'' :: rest => some (['\''], rest)
  | '"' :: rest => some (['"'], rest)
  | '0' :: rest => if rule.zero then some (['\x00'], rest) else none
  | 'x' :: a :: b :: rest => do
    let code := 16 * (← hexValue? a) + (← hexValue? b)
    if rule.code code then some ([Char.ofNat code], rest) else none
  | 'u' :: '\x7b' :: rest => do
    let (n, rest) ← readCharNumber 0 0 rest
    let c ← charOfNumber? n
    if rule.number n then some ([c], rest) else none
  | c :: rest =>
    if rule.joinsLines && (c == '\n' || c == '\r') then
      (afterLineGap (c :: rest)).map (fun behind => ([], behind.dropWhile Text.isBlank))
    else none
  | [] => none

/-! ### Quoted literals -/

/-- Reads up to the closing quote and answers the value and what follows; `fuel` bounds
the number of characters and escapes. -/
def readQuoted (rule : EscapeRule) : Nat → List Char → Option (List Char × List Char)
  | 0, _ => none
  | _ + 1, '"' :: rest => some ([], rest)
  | fuel + 1, '\\' :: rest => do
    let (value, rest) ← readEscape rule rest
    let (values, rest) ← readQuoted rule fuel rest
    some (value ++ values, rest)
  | fuel + 1, '\r' :: '\n' :: rest =>
    (readQuoted rule fuel rest).map (fun (values, rest) => ('\n' :: values, rest))
  | fuel + 1, c :: rest =>
    if c == '\r' || !rule.plain c then none
    else (readQuoted rule fuel rest).map (fun (values, rest) => (c :: values, rest))
  | _, [] => none

/-- Reads a raw literal up to a quote with its hashes. -/
def readRawBody (plain : Char → Bool) (hashes : List Char) :
    List Char → Option (List Char × List Char)
  | [] => none
  | c :: rest =>
    if c = '"' ∧ hashes.isPrefixOf rest then some ([], rest.drop hashes.length)
    else if (c = '\r' ∧ rest.head? ≠ some '\n') ∨ plain c = false then none
    else (readRawBody plain hashes rest).map (fun (values, rest) => (c :: values, rest))

/-- Reads a raw literal behind its letter: hashes, a quote, and the body. -/
def readRaw (plain : Char → Bool) (cs : List Char) : Option (List Char × List Char) :=
  let hashes := cs.takeWhile (· == '#')
  match cs.dropWhile (· == '#') with
  | '"' :: rest => if hashes.length ≤ 255 then readRawBody plain hashes rest else none
  | _ => none

/-- Reads one character between single quotes, behind the first. -/
def readSingle (rule : EscapeRule) : List Char → Option (List Char × List Char)
  | '\\' :: rest => do
    let (value, rest) ← readEscape rule rest
    match rest with
    | '\'' :: rest => some (value, rest)
    | _ => none
  | c :: '\'' :: rest => if rule.plain c then some ([c], rest) else none
  | _ => none

/-! ### Numbers -/

/-- What follows the digits of a whole number in a base; `any` says that there was a digit
already. -/
def afterDigits (base : Nat) (any : Bool) : List Char → Option (List Char)
  | [] => if any then some [] else none
  | c :: rest =>
    if c = '_' then (if !any && base == 10 then none else afterDigits base any rest)
    else
      match hexValue? c with
      | some d =>
        if d < base then afterDigits base true rest
        else if d < 10 then none
        else if any then some (c :: rest) else none
      | none => if any then some (c :: rest) else none

/-- What follows a whole number. -/
def afterInteger (cs : List Char) : Option (List Char) :=
  match cs with
  | '0' :: 'x' :: rest => afterDigits 16 false rest
  | '0' :: 'o' :: rest => afterDigits 8 false rest
  | '0' :: 'b' :: rest => afterDigits 2 false rest
  | cs => afterDigits 10 false cs

/-- Whether a character is a digit or an underscore between digits. -/
def inDigits (c : Char) : Bool := c.isDigit || c == '_'

/-- What follows the exponent of a number, behind its letter: at most one sign, then at
least one digit. -/
def afterExponent (cs : List Char) : Option (List Char) :=
  let digits := match cs.dropWhile (· == '_') with
    | '+' :: rest => rest
    | '-' :: rest => rest
    | rest => rest
  if (digits.takeWhile inDigits).any Char.isDigit then some (digits.dropWhile inDigits) else none

/-- What follows a number with a fraction or an exponent.  A point before another point
or before an identifier is none of the number. -/
def afterFloat (cs : List Char) : Option (List Char) :=
  let exponent (rest : List Char) : Option (List Char) :=
    match rest with
    | 'e' :: digits => afterExponent digits
    | 'E' :: digits => afterExponent digits
    | _ => none
  if (cs.head?.any Char.isDigit) then
    match cs.dropWhile inDigits with
    | '.' :: rest =>
      if rest.head?.any (fun c => c == '.' || Text.isIdentifierStart c) then none
      else
        let fraction := rest.dropWhile inDigits
        some ((exponent fraction).getD fraction)
    | rest => exponent rest
  else none

/-- What follows a number with its suffix; an identifier may not go on behind it. -/
def afterNumber (number : Option (List Char)) : Option (List Char) :=
  (number.map afterSuffix).filter (fun rest => !rest.head?.any Text.isIdentifierPart)

/-! ### Any literal -/

/-- The kind of the literal at the beginning of a text, and what follows it. -/
def readLiteralKind (cs : List Char) : Option (LiteralKind × List Char) :=
  let fuel := cs.length + 1
  let plain (kind : List Char → LiteralKind) (r : Option (List Char × List Char)) :
      Option (LiteralKind × List Char) :=
    r.map (fun (value, rest) => (kind value, afterSuffix rest))
  let text := plain (fun value => .text (String.ofList value))
  match cs with
  | '"' :: rest => text (readQuoted textEscapes fuel rest)
  | 'r' :: rest => text (readRaw (fun _ => true) rest)
  | 'b' :: '"' :: rest => plain (fun _ => .bytes) (readQuoted byteEscapes fuel rest)
  | 'b' :: 'r' :: rest => plain (fun _ => .bytes) (readRaw byteEscapes.plain rest)
  | 'b' :: '\'' :: rest =>
    plain (fun _ => .byte) (readSingle { byteEscapes with joinsLines := false } rest)
  | 'c' :: '"' :: rest => plain (fun _ => .cText) (readQuoted cTextEscapes fuel rest)
  | 'c' :: 'r' :: rest => plain (fun _ => .cText) (readRaw cTextEscapes.plain rest)
  | '\'' :: rest => plain (fun _ => .char) (readSingle charEscapes rest)
  | cs =>
    match afterNumber (afterFloat cs) with
    | some rest => some (.float, rest)
    | none => (afterNumber (afterInteger cs)).map (fun rest => (.integer, rest))

/-- The literal at the beginning of a text, and what follows it. -/
def readLiteral (cs : List Char) : Option (Literal × List Char) :=
  (readLiteralKind cs).map (fun (kind, rest) =>
    (⟨String.ofList (cs.take (cs.length - rest.length)), kind⟩, rest))

end QueryMethods.Syntax
