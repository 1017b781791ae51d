/-
The classes of SQL statements, and the class of a text by its first word.

A text whose first word, after blanks, is none of the three that change rows is taken to
read rows.  Only the beginning of the text is looked at, and only the case of ASCII
letters is ignored.
-/
import QueryMethods.Text.Blank
import QueryMethods.Text.Case

namespace QueryMethods

/-- What a statement does to rows. -/
inductive StatementKind
  | select
  | insert
  | update
  | delete
  deriving DecidableEq, Repr, Inhabited

namespace StatementKind

/-- Whether statements of this kind change rows. -/
def isMutation : StatementKind → Bool
  | select => false
  | insert | update | delete => true

end StatementKind

/-- Whether a text begins with a word, up to the case of ASCII letters. -/
def opensWith (word : List Char) (s : List Char) : Bool :=
  (s.take word.length).map Char.toUpper == word

/-- The kind of a statement from its first word. -/
def StatementKind.ofSql (sql : String) : StatementKind :=
  let head := sql.toList.dropWhile Text.isBlank
  if opensWith "INSERT".toList head then .insert
  else if opensWith "UPDATE".toList head then .update
  else if opensWith "DELETE".toList head then .delete
  else .select

end QueryMethods
