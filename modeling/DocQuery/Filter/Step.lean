import DocQuery.Filter.Basic

/-!
# Building filters step by step

The operations on filters as data. A step that names an unknown operator or connective is at fault
and leaves the filter as it was.
-/

namespace DocQuery.Filter

/-- One operation on a filter. -/
inductive Step where
  /-- A condition keyed by the name of its operator. -/
  | condition (name : String) (operand : Option Operand)
  | compare (operator : Operator) (operand : Operand)
  | undefined (operator : Operator)
  /-- The connective by its name. -/
  | mode (name : String)
  deriving Repr

/-- The filter after one more step, if the step is not at fault. -/
def apply (f : Filter) : Step → Except CompileError Filter
  | .condition name operand => f.condition name operand
  | .compare operator operand => .ok (f.compare operator operand)
  | .undefined operator => .ok (f.undefined operator)
  | .mode name => (Mode.ofName name).map f.setMode

/-- The filter after more steps, without those at fault. -/
def run (f : Filter) : List Step → Filter
  | [] => f
  | step :: rest =>
    match f.apply step with
    | .ok next => run next rest
    | .error _ => run f rest

end DocQuery.Filter
