/-
The statement that a plan is run as.

A plan says where its values come from, not what they are.  `Plan.statement` puts a value
in the place of each binding: in the order of the bindings, or under their names.  The code
that is generated from a plan builds its statement from operands and arguments, and
`CodeSource.exists_statement_eq` says that this is one of those statements.  What holds of
a plan with any values therefore holds of whatever its code hands to an executor.
-/
import QueryMethods.Code.Emitter
import QueryMethods.Code.Run
import QueryMethods.Proofs.Generation.Coverage

namespace QueryMethods

/-- The statement of a plan with a value for each binding. -/
def Plan.statement (plan : Plan) (values : List Value) : BoundStatement :=
  ⟨plan.sql, match plan.style with
    | .positional => .positional values
    | .named => .named ((plan.bindings.map (·.name)).zip values)⟩

theorem Plan.statement_of_positional {plan : Plan} (h : plan.style = .positional)
    (values : List Value) : plan.statement values = ⟨plan.sql, .positional values⟩ := by
  rw [statement, h]

theorem Plan.statement_of_named {plan : Plan} (h : plan.style = .named) (values : List Value) :
    plan.statement values = ⟨plan.sql, .named ((plan.bindings.map (·.name)).zip values)⟩ := by
  rw [statement, h]

/-! ### Names kept on the way -/

/-- The statement of a query binds a value under the name of each operand. -/
theorem Query.statement_eq_some {q : Query} {arguments : List (String × Datum)}
    {st : BoundStatement} (h : q.statement arguments = some st) :
    ∃ values : List (String × Value), values.map (·.1) = q.operands.map (·.1) ∧
      st = ⟨q.sql, match q.style with
        | .positional => .positional (values.map (·.2))
        | .named => .named values⟩ := by
  obtain ⟨values, hvalues, h⟩ := Option.bind_eq_some_iff.mp h
  refine ⟨values, map_eq_map_of_forall₂ (mapM_eq_some_iff.mp hvalues) ?_,
    (Option.some.inj h).symm⟩
  intro o v hv
  obtain ⟨datum, -, hv⟩ := Option.bind_eq_some_iff.mp hv
  obtain ⟨value, -, hv⟩ := Option.bind_eq_some_iff.mp hv
  rw [← Option.some.inj hv]

/-- **Generated code runs a statement of its plan.** -/
theorem CodeSource.exists_statement_eq {s : CodeSource} {call : Call} {plan : Plan} {q : Query}
    {arguments : List (String × Datum)} {st : BoundStatement}
    (hq : s.query call plan = .ok q) (hst : q.statement arguments = some st) :
    ∃ values, values.length = plan.bindings.length ∧ st = plan.statement values := by
  obtain ⟨hsql, hstyle, hoperands⟩ := query_eq_ok hq
  obtain ⟨values, hnames, rfl⟩ := Query.statement_eq_some hst
  rw [hoperands] at hnames
  refine ⟨values.map (·.2), ?_, ?_⟩
  · have hlength := congrArg List.length hnames
    simpa using hlength
  · rw [Plan.statement, hsql, hstyle, ← List.zip_of_prod hnames rfl]

end QueryMethods
