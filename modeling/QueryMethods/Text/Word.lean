/-
The words inside an identifier, and its camel-cased form.

An identifier is read letter by letter, where a letter comes with the accents written
behind it.  It is cut into words at every underscore, hyphen and space, which are
dropped, and between two letters

  * where a lower-case letter meets an upper-case one,
  * where a row of capitals ends, before its last capital when a lower-case letter
    follows (`HTTPServer` is `HTTP` and `Server`),
  * where a letter meets a digit, or a digit a letter.

A word may be empty: `_private` is an empty word and `private`.  The camel-cased form
lowers the first word, capitalises the others, and joins them, so that of `_private` is
`Private`.
-/
import QueryMethods.Text.Case
import QueryMethods.Text.Identifier

namespace QueryMethods.Text

/-! ### Letters with their accents -/

/-- Whether a character is written over or under the one before it: case rules look
through it, an identifier may hold it, but none begins with it.  The two points between
letters that meet this as well stand for themselves. -/
def isAccent (c : Char) : Bool :=
  128 ≤ c.toNat && c != '\u00b7' && c != '\u0387' &&
    isCaseIgnorable c && isIdentifierPart c && !isIdentifierStart c

/-- Cuts a text into letters, each with its accents. -/
def letters : List Char → List (List Char)
  | [] => []
  | c :: rest =>
    match letters rest with
    | (d :: accents) :: others =>
      if isAccent d then (c :: d :: accents) :: others else [c] :: (d :: accents) :: others
    | others => [c] :: others

/-- A letter that is its own upper-case form and has another lower-case form. -/
def isCapital (letter : List Char) : Bool :=
  upperEach letter != lowerText letter && upperEach letter == letter

/-- A letter that is its own lower-case form and has another upper-case form. -/
def isSmall (letter : List Char) : Bool :=
  upperEach letter != lowerText letter && lowerText letter == letter

/-- A digit of ASCII without accents. -/
def isFigure (letter : List Char) : Bool := letter.all Char.isDigit

/-- A character that separates words and belongs to none. -/
def isWordGap (letter : List Char) : Bool := letter == ['_'] || letter == ['-'] || letter == [' ']

/-! ### Words -/

/-- Whether a word ends between `a` and `b`, when `next` follows them. -/
def endsWord (a b : List Char) (next : Option (List Char)) : Bool :=
  (isSmall a && isCapital b) ||
  (isCapital a && isCapital b && next.any isSmall) ||
  ((isSmall a || isCapital a) && isFigure b) ||
  (isFigure a && (isSmall b || isCapital b))

/-- Puts a letter at the front of the first word. -/
def extendFirst (letter : List Char) : List (List Char) → List (List Char)
  | [] => [letter]
  | word :: words => (letter ++ word) :: words

/-- Cuts a row of letters into words. -/
def wordsOfLetters : List (List Char) → List (List Char)
  | [] => [[]]
  | [a] => if isWordGap a then [[], []] else [a]
  | a :: b :: rest =>
    let later := wordsOfLetters (b :: rest)
    if isWordGap a then [] :: later
    else if endsWord a b rest.head? then a :: later
    else extendFirst a later

/-- The words of a text, in order. -/
def words (cs : List Char) : List (List Char) := wordsOfLetters (letters cs)

/-- The word with its first letter raised and the others lowered. -/
def capitalise (word : List Char) : List Char :=
  match letters word with
  | [] => []
  | letter :: rest => upperEach letter ++ lowerText rest.flatten

/-- The camel-cased form of an identifier: `user_token` becomes `userToken`. -/
def camelCase (s : String) : String :=
  match words s.toList with
  | [] => ""
  | first :: others => String.ofList (lowerText first ++ others.flatMap capitalise)

end QueryMethods.Text
