/-
Doing everything and collecting all problems.
-/

namespace QueryMethods

variable {ε α β : Type}

/-- Both values, or the problems of both. -/
def both : Except (List ε) α → Except (List ε) β → Except (List ε) (α × β)
  | .ok x, .ok y => .ok (x, y)
  | .ok _, .error ps => .error ps
  | .error ps, .ok _ => .error ps
  | .error ps, .error qs => .error (ps ++ qs)

/-- All values, or the problems of all. -/
def gather : List (Except (List ε) α) → Except (List ε) (List α)
  | [] => .ok []
  | r :: rs => (both r (gather rs)).map (fun (x, xs) => x :: xs)

/-- A value, or its one problem. -/
def alone : Except ε α → Except (List ε) α := Except.mapError ([·])

end QueryMethods
