/-
Reading what a method name says.  Reading never fails: a name that begins with no known
operation has the operation `unknown`.

The part behind `By` is cut into segments before every `And` or `Or` that is not at its
very start and that an upper-case letter of ASCII follows, so `OrderNumber` and
`BrandName` are single fields.  A segment is a connector, a field, and the longest
comparison word that it ends with, as long as a field is left.
-/
import QueryMethods.MethodName
import QueryMethods.Naming

namespace QueryMethods

/-- The rest of a text behind a beginning, if it has that beginning. -/
def afterPrefix? : List Char → List Char → Option (List Char)
  | [], s => some s
  | _ :: _, [] => none
  | p :: ps, c :: s => if p = c then afterPrefix? ps s else none

/-- Whether the text begins with an upper-case letter of ASCII. -/
def opensUpper : List Char → Bool
  | [] => false
  | c :: _ => isAsciiUpper c

/-- The rest behind a connector word that an upper-case letter follows. -/
def afterConnector? (word s : List Char) : Option (List Char) :=
  (afterPrefix? word s).filter opensUpper

/-- The connector words. -/
def andWord : List Char := ['A', 'n', 'd']

@[inherit_doc andWord]
def orWord : List Char := ['O', 'r']

/-- Whether a segment may begin here. -/
def opensSegment (s : List Char) : Bool :=
  (afterConnector? andWord s).isSome || (afterConnector? orWord s).isSome

/-- Cuts the conditions into segments; a connector word stays with the segment it opens. -/
def segments : List Char → List (List Char)
  | [] => [[]]
  | c :: rest =>
    if opensSegment rest then [c] :: segments rest
    else
      match segments rest with
      | [] => [[c]]
      | segment :: others => (c :: segment) :: others

/-- The connector a segment opens with, and what follows it. -/
def splitConnector (segment : List Char) : Connector × List Char :=
  match afterConnector? andWord segment with
  | some rest => (.and, rest)
  | none =>
    match afterConnector? orWord segment with
    | some rest => (.or, rest)
    | none => (.none, segment)

/-- Whether a text ends with the word of a comparison and has a field before it. -/
def endsWithComparison (s : List Char) (comparison : Comparison) : Bool :=
  let word := comparison.keyword.toList
  word.length < s.length && word.isSuffixOf s

/-- The comparison with the longest word that the text ends with. -/
def longestComparison? (s : List Char) : Option Comparison :=
  (Comparison.all.filter (endsWithComparison s)).foldl
    (fun best comparison =>
      match best with
      | some b =>
        if comparison.keyword.length < b.keyword.length then some b else some comparison
      | none => some comparison)
    none

/-- The field and the comparison of a segment without its connector. -/
def splitComparison (s : List Char) : List Char × Comparison :=
  match longestComparison? s with
  | some comparison => (s.take (s.length - comparison.keyword.length), comparison)
  | none => (s, .equal)

/-- The condition that a segment states; an empty segment states none. -/
def readSegment (segment : List Char) : Option Condition :=
  let (connector, rest) := splitConnector segment
  if rest.isEmpty then none
  else
    let (field, comparison) := splitComparison rest
    some ⟨Text.lowerFirst (String.ofList field), comparison, connector⟩

/-- The conditions that the text behind `By` states. -/
def readConditions (s : List Char) : List Condition := (segments s).filterMap readSegment

/-- The operations that conditions must follow, with the beginnings of their names. -/
def conditionalOperations : List (String × Operation) :=
  [("findBy", .find), ("countBy", .count), ("deleteBy", .delete), ("existsBy", .exist)]

/-- The operations that are followed by no conditions. -/
def plainOperations : List (String × Operation) := [("save", .save), ("update", .update)]

/-- The operation of a name, and the text of its conditions if it may have some. -/
def splitOperation (name : List Char) : Operation × Option (List Char) :=
  match afterPrefix? "findAll".toList name with
  | some rest => (.findAll, afterPrefix? "By".toList rest)
  | none =>
    let behind := conditionalOperations.findSome? (fun (word, operation) =>
      (afterPrefix? word.toList name).map (fun rest => (operation, some rest)))
    match behind with
    | some found => found
    | none =>
      match plainOperations.find? (fun (word, _) => (afterPrefix? word.toList name).isSome) with
      | some (_, operation) => (operation, none)
      | none => (.unknown, none)

/-- Reads a camel-cased method name. -/
def MethodName.ofText (name : String) : MethodName :=
  let (operation, conditions) := splitOperation name.toList
  ⟨operation, (conditions.map readConditions).getD [], name⟩

end QueryMethods
