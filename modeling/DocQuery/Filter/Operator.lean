import DocQuery.CompileError

/-!
# Comparison operators and connectives

Each operator has a name, under which conditions are keyed, and a symbol, which stands in the
query. `mode` is no operator: it is the key under which a filter names its connective, which says
whether its conditions hold together or one of them does.
-/

namespace DocQuery

/-- A comparison between a document's field and an operand. -/
inductive Operator where
  | eq | gt | gte | isIn | like | lt | lte | neq | notIn | notLike | notMatching | isMatching
  deriving DecidableEq, Repr

namespace Operator

/-- All operators, in the order of their names. -/
def all : List Operator :=
  [eq, gt, gte, isIn, like, lt, lte, neq, notIn, notLike, notMatching, isMatching]

/-- The word that keys a condition. -/
def name : Operator → String
  | eq => "eq"
  | gt => "gt"
  | gte => "gte"
  | isIn => "in"
  | like => "like"
  | lt => "lt"
  | lte => "lte"
  | neq => "neq"
  | notIn => "nin"
  | notLike => "nlike"
  | notMatching => "nreg"
  | isMatching => "reg"

/-- The sign in the query. -/
def symbol : Operator → String
  | eq => "=="
  | gt => ">"
  | gte => ">="
  | isIn => "IN"
  | like => "LIKE"
  | lt => "<"
  | lte => "<="
  | neq => "!="
  | notIn => "NOT IN"
  | notLike => "NOT LIKE"
  | notMatching => "!~"
  | isMatching => "=~"

/-- The operator of this name. -/
def find? (name : String) : Option Operator :=
  all.find? fun op => op.name == name

/-- Whether some operator has this name. -/
def isName (name : String) : Bool :=
  (find? name).isSome

/-- The operator of this name; any other word is an error. -/
def ofName (name : String) : Except CompileError Operator :=
  match find? name with
  | some op => .ok op
  | none => .error (.unknownOperator name)

/-- Different operators have different names, so the name leads back to the operator. -/
@[simp]
theorem find?_name (op : Operator) : find? op.name = some op := by
  cases op <;> rfl

@[simp]
theorem ofName_name (op : Operator) : ofName op.name = .ok op := by
  simp [ofName]

/-- The names of all operators. -/
def names : List String :=
  all.map name

/-- The table of names and symbols. -/
def table : List (String × String) :=
  all.map fun op => (op.name, op.symbol)

end Operator

/-- How the conditions of a filter are joined. -/
inductive Mode where
  | and
  | or
  deriving DecidableEq, Inhabited, Repr

namespace Mode

/-- The connective in the query, and its only spelling. -/
def word : Mode → String
  | .and => "AND"
  | .or => "OR"

/-- The connective that a word spells. -/
def ofName (name : String) : Except CompileError Mode :=
  if name = "AND" then .ok .and
  else if name = "OR" then .ok .or
  else .error (.unknownMode name)

@[simp]
theorem ofName_word (mode : Mode) : ofName mode.word = .ok mode := by
  cases mode <;> rfl

/-- The connective that a JSON string spells. A value of another kind is reported by its text. -/
def ofJson : Json → Except CompileError Mode
  | .str name => ofName name
  | got => .error (.unknownMode got.text)

end Mode

end DocQuery
