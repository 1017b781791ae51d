/-
Texts written between quotes in source code.

A quote and a backslash get a backslash before them, the usual controls get their short
names, and a character that has no mark of its own is written by its number.  Everything
else stands as it is.
-/
import QueryMethods.Text.Property.Hidden

namespace QueryMethods.Text

/-- The digits of a number in base sixteen. -/
def hexadecimal (n : Nat) : List Char := Nat.toDigits 16 n

/-- Whether a character is shown by its number. -/
def isHidden (c : Char) : Bool :=
  if c.toNat < 128 then c.toNat < 32 || c.toNat == 127 else Property.hidden.contains c

/-- How a character is written between quotes when `next` follows it. -/
def quotedChar (c : Char) (next : Option Char) : List Char :=
  if c == '\x00' then
    (if next.any (fun d => '0' ≤ d && d ≤ '7') then ['\\', 'x', '0', '0'] else ['\\', '0'])
  else if c == '\t' then ['\\', 't']
  else if c == '\r' then ['\\', 'r']
  else if c == '\n' then ['\\', 'n']
  else if c == '"' || c == '\\' then ['\\', c]
  else if isHidden c then ['\\', 'u', '\x7b'] ++ hexadecimal c.toNat ++ ['\x7d']
  else [c]

/-- How a row of characters is written between quotes. -/
def quotedChars : List Char → List Char
  | [] => []
  | c :: rest => quotedChar c rest.head? ++ quotedChars rest

/-- A text as a quoted literal. -/
def quoted (s : String) : String := String.ofList ('"' :: quotedChars s.toList ++ ['"'])

end QueryMethods.Text
