/-
Which characters identifiers are made of.

An identifier opens with a letter or an underscore and goes on with letters, digits,
marks and underscores, where letters and marks are those of any script.
-/
import QueryMethods.Text.Property.IdentifierStart
import QueryMethods.Text.Property.IdentifierPart

namespace QueryMethods.Text

/-- Whether an identifier may open with this character. -/
def isIdentifierStart (c : Char) : Bool :=
  if c.toNat < 128 then c.isAlpha || c == '_' else Property.identifierStart.contains c

/-- Whether an identifier may go on with this character. -/
def isIdentifierPart (c : Char) : Bool :=
  if c.toNat < 128 then c.isAlphanum || c == '_' else Property.identifierPart.contains c

end QueryMethods.Text
