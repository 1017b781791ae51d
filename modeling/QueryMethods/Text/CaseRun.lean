/-
Runs of characters that change case by the same distance.

Letters of one script are usually laid out so that a whole block, or every second
character of a block, moves by one fixed distance when its case changes.  A case
mapping is then a short list of such runs and the few characters that become several.
-/

namespace QueryMethods.Text

/-- Every `step`-th code point from `first` to `last` moves by `shift`. -/
structure CaseRun where
  first : Nat
  last : Nat
  step : Nat
  shift : Int

namespace CaseRun

/-- Whether the run moves this code point. -/
def covers (r : CaseRun) (code : Nat) : Bool :=
  r.first ≤ code && code ≤ r.last && (code - r.first) % r.step == 0

/-- Where the run moves a code point that it covers. -/
def target (r : CaseRun) (code : Nat) : Char := Char.ofNat (code + r.shift).toNat

end CaseRun

/-- What a character becomes under a mapping given by runs and by the characters that
become several; every other character stays. -/
def mapCase (runs : List CaseRun) (several : List (Nat × List Nat)) (c : Char) : List Char :=
  match several.lookup c.toNat with
  | some codes => codes.map Char.ofNat
  | none =>
    match runs.find? (·.covers c.toNat) with
    | some run => [run.target c.toNat]
    | none => [c]

end QueryMethods.Text
