/-
The markers in hand-written SQL.

A named marker is a colon and a name of ASCII letters, digits and underscores that does
not open with a digit.  Two colons side by side are a cast and are read as one piece, so
a colon opens a marker only when an even number of colons stands directly before it.
Nothing is known of quotes and comments: a marker inside them counts.

The text is cut into pieces once.  Every reader of markers goes over these pieces, and
putting the pieces back together gives the text.
-/

namespace QueryMethods

/-- A character that may open the name of a marker. -/
def opensMarkerName (c : Char) : Bool := c.isAlpha || c == '_'

/-- A character that may stand in the name of a marker. -/
def inMarkerName (c : Char) : Bool := c.isAlphanum || c == '_'

/-- One piece of hand-written SQL. -/
inductive SqlPiece
  /-- Any single character that opens nothing. -/
  | plain (c : Char)
  /-- The two colons of a cast. -/
  | cast
  /-- A marker with this name. -/
  | named (name : List Char)
  deriving DecidableEq, Repr

namespace SqlPiece

/-- The text of a piece. -/
def text : SqlPiece → List Char
  | plain c => [c]
  | cast => [':', ':']
  | named name => ':' :: name

/-- Cuts a text into pieces. -/
def scan : List Char → List SqlPiece
  | [] => []
  | [c] => [plain c]
  | ':' :: ':' :: rest => cast :: scan rest
  | c :: d :: rest =>
    if c = ':' ∧ opensMarkerName d then
      named (d :: rest.takeWhile inMarkerName) :: scan (rest.dropWhile inMarkerName)
    else plain c :: scan (d :: rest)
  termination_by s => s.length
  decreasing_by
    · simp only [List.length_cons]; omega
    · have := (List.dropWhile_sublist inMarkerName (l := rest)).length_le
      simp only [List.length_cons]; omega
    · simp only [List.length_cons]; omega

/-- How many bytes a row of characters takes. -/
def bytes (cs : List Char) : Nat := cs.foldr (fun c n => c.utf8Size + n) 0

end SqlPiece

/-- A named marker and the bytes it takes, its colon included. -/
structure Marker where
  name : String
  start : Nat
  stop : Nat
  deriving DecidableEq, Repr

/-- The markers among pieces that begin at a byte. -/
def markersAt (start : Nat) : List SqlPiece → List Marker
  | [] => []
  | piece :: rest =>
    let stop := start + SqlPiece.bytes piece.text
    match piece with
    | .named name => ⟨String.ofList name, start, stop⟩ :: markersAt stop rest
    | _ => markersAt stop rest

/-- The named markers of a text, in order, repeats included. -/
def namedMarkers (sql : String) : List Marker := markersAt 0 (SqlPiece.scan sql.toList)

/-- Each element once, where it occurs first. -/
def firstOccurrences : List String → List String
  | [] => []
  | name :: rest => name :: (firstOccurrences rest).filter (· != name)

/-- The names of the markers, each once, in the order they occur first. -/
def markerNames (sql : String) : List String := firstOccurrences ((namedMarkers sql).map (·.name))

/-- How many positional markers a text has. -/
def positionalMarkers (sql : String) : Nat := sql.toList.count '?'

end QueryMethods
