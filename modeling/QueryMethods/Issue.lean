/-
What can be wrong with a method.

An issue is advice: it never stops the generation by itself.  Whoever shows it decides
whether it is a warning or an error.
-/

namespace QueryMethods

/-- A problem found with one method. -/
inductive Issue
  /-- A condition names a field that the entity does not declare. -/
  | unknownField (method field : String)
  /-- The parameters are not as many as the markers. -/
  | parameterCount (method : String) (expected found : Nat)
  /-- A named marker has no parameter. -/
  | parameterName (method name : String)
  /-- The name follows no convention. -/
  | unsupportedName (method : String)
  /-- No rule says how rows become the declared type. -/
  | ambiguousMapping (method target : String)
  /-- A stage failed and the next way was tried, if there is one. -/
  | emissionFailed (method stage reason : String)
  /-- The method does not wait for the executor. -/
  | notAsync (method : String)
  /-- The declared return type cannot carry a result. -/
  | unsupportedReturn (method reason : String)
  deriving DecidableEq, Repr

namespace Issue

/-- The method an issue belongs to. -/
def method : Issue → String
  | unknownField m _ | parameterCount m _ _ | parameterName m _ | unsupportedName m
  | ambiguousMapping m _ | emissionFailed m _ _ | notAsync m | unsupportedReturn m _ => m

/-- The name of the kind of issue. -/
def code : Issue → String
  | unknownField .. => "unknown_field"
  | parameterCount .. => "parameter_count_mismatch"
  | parameterName .. => "parameter_name_mismatch"
  | unsupportedName .. => "unsupported_method_pattern"
  | ambiguousMapping .. => "ambiguous_mapping"
  | emissionFailed .. => "emission_failed"
  | notAsync .. => "not_async"
  | unsupportedReturn .. => "unsupported_return"

/-- What is said of the method. -/
def complaint : Issue → String
  | unknownField _ field => s!"field `{field}` is not declared on the entity"
  | parameterCount _ expected found =>
    s!"SQL expects {toString expected} parameter(s) but {toString found} declared"
  | parameterName _ name => s!"named parameter `:{name}` has no matching method parameter"
  | unsupportedName _ => "method name does not match any supported query pattern"
  | ambiguousMapping _ target =>
    s!"cannot infer a result mapping for `{target}`, mapping a single row"
  | emissionFailed _ stage reason => s!"{stage} failed: {reason}"
  | notAsync _ => "generated methods must be `async`"
  | unsupportedReturn _ reason => s!"unsupported return type: {reason}"

/-- The whole message: the method, then what is said of it. -/
def message (issue : Issue) : String := s!"`{issue.method}`: {issue.complaint}"

end Issue

end QueryMethods
