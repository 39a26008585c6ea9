import DocQuery.Filter.Operator
import DocQuery.Operand

/-!
# Filters

A filter is any number of conditions on one parameter, in the order in which they were added, and
the connective between them. A condition may lack its operand; it is kept, and leaves no trace in
the query. `Filter.text` writes the defined conditions as one Boolean expression, which is empty
if there are none.

In JSON a filter is an object keyed by operator names, as in `{"gt": 5, "mode": "OR"}`. The key
`mode` may stand anywhere among them. Entries are read in order and the first one at fault is
reported.
-/

namespace DocQuery

/-- A comparison with an operand, or with nothing yet. -/
structure Condition where
  operator : Operator
  operand : Option Operand
  deriving BEq, Repr

/-- The comparison of a parameter, if the operand is there. -/
def Condition.text? (param : String) (c : Condition) : Option String :=
  c.operand.map fun operand => param ++ " " ++ c.operator.symbol ++ " " ++ operand.text

/-- Conditions on one parameter and their connective. -/
structure Filter where
  conditions : List Condition := []
  mode : Mode := .and
  deriving BEq, Inhabited, Repr

namespace Filter

/-- Adds a condition at the end. -/
def push (f : Filter) (c : Condition) : Filter :=
  { f with conditions := f.conditions ++ [c] }

/-- Adds a comparison with an operand. -/
def compare (f : Filter) (operator : Operator) (operand : Operand) : Filter :=
  f.push ⟨operator, some operand⟩

/-- Adds a comparison that has no operand. -/
def undefined (f : Filter) (operator : Operator) : Filter :=
  f.push ⟨operator, none⟩

/-- Adds a condition keyed by the name of its operator. -/
def condition (f : Filter) (name : String) (operand : Option Operand) :
    Except CompileError Filter :=
  (Operator.ofName name).map fun operator => f.push ⟨operator, operand⟩

/-- Chooses the connective. -/
def setMode (f : Filter) (mode : Mode) : Filter :=
  { f with mode }

/-- The defined conditions on a parameter, joined by the connective. -/
def text (param : String) (f : Filter) : String :=
  String.intercalate (" " ++ f.mode.word ++ " ") (f.conditions.filterMap (·.text? param))

/-! ### Filters in JSON -/

/-- The key of the connective. -/
def modeKey : String := "mode"

/-- Adds what one entry says. -/
def addEntry (f : Filter) (entry : String × Json) : Except CompileError Filter :=
  if entry.1 = modeKey then
    (Mode.ofJson entry.2).map f.setMode
  else do
    let operator ← Operator.ofName entry.1
    let operand ← Operand.ofJson entry.2
    return f.compare operator operand

/-- The filter of an object's entries. -/
def ofEntries (entries : List (String × Json)) : Except CompileError Filter :=
  entries.foldlM addEntry {}

/-- The filter of a JSON object. -/
def ofJson : Json → Except CompileError Filter
  | .obj entries => ofEntries entries
  | got => .error (.notFilter got)

end Filter

end DocQuery
