import DocQuery.CompileError

/-!
# Operands of conditions

The right-hand side of a condition is a scalar or a flat list of scalars. `Operand.text` writes it
as a query literal. Strings go between quotation marks as they are: nothing is escaped, so a
string that holds a quotation mark ends early, and callers keep such strings out.
-/

namespace DocQuery

/-- A single value that a condition compares with. -/
inductive Scalar where
  | null
  | bool (b : Bool)
  | int (n : Int)
  | float (x : Float)
  | str (s : String)
  deriving BEq, Inhabited, Repr

/-- The right-hand side of a condition. -/
inductive Operand where
  | scalar (value : Scalar)
  | list (items : List Scalar)
  deriving BEq, Inhabited, Repr

instance : Coe Bool Scalar := ⟨.bool⟩
instance : Coe Int Scalar := ⟨.int⟩
instance : Coe Float Scalar := ⟨.float⟩
instance : Coe String Scalar := ⟨.str⟩
instance : Coe Scalar Operand := ⟨.scalar⟩
instance : Coe (List Scalar) Operand := ⟨.list⟩

namespace Scalar

open Decimal

/-- Floats are written without exponent, and whole ones without a point. -/
def floatLayout : Layout where
  tie := .away
  positional _ := true
  pointZero := false
  notANumber := "NaN"
  infinity := "inf"

/-- A missing value is the null of the query language. -/
def ofOption (value : Option Scalar) : Scalar :=
  value.getD .null

/-- The literal of a scalar. -/
def text : Scalar → String
  | .null => "null"
  | .bool b => if b then "true" else "false"
  | .int n => n.repr
  | .float x => floatLayout.write x
  | .str s => "\"" ++ s ++ "\""

/-- Whether a whole number fits 64 bits with sign. -/
def fits (n : Int) : Bool :=
  -0x8000000000000000 ≤ n && n < 0x8000000000000000

/-- The float that is nearest to a JSON number. -/
def nearestFloat? : Json → Option Float
  | .int n => some (.ofInt n)
  | .double x => some x
  | _ => none

/-- A number as a float. -/
def ofNumber (number : Json) : Except CompileError Scalar :=
  match nearestFloat? number with
  | some x => .ok (.float x)
  | none => .error (.notRepresentable number)

/-- The scalar of a JSON value. A number that is not whole, or does not fit 64 bits with sign,
becomes the nearest float; lists and objects are no scalars. -/
def ofJson : Json → Except CompileError Scalar
  | .null => .ok .null
  | .bool b => .ok (.bool b)
  | .int n => if fits n then .ok (.int n) else ofNumber (.int n)
  | .double x => ofNumber (.double x)
  | .str s => .ok (.str s)
  | got => .error (.notScalar got)

/-- Every whole number has a nearest float, so all of them are carried. -/
theorem ofJson_int (n : Int) :
    ofJson (.int n) = .ok (if fits n then .int n else .float (.ofInt n)) := by
  rw [ofJson]
  split <;> rfl

/-- No number is found to be without a float. -/
theorem ofJson_ne_notRepresentable (value number : Json) :
    ofJson value ≠ .error (.notRepresentable number) := by
  cases value with
  | int n =>
    rw [ofJson_int]
    exact nofun
  | _ => exact nofun

end Scalar

namespace Operand

/-- The literal of an operand. -/
def text : Operand → String
  | .scalar value => value.text
  | .list items => "[" ++ String.intercalate "," (items.map Scalar.text) ++ "]"

/-- The operand of a JSON value: a list of scalars, or else a scalar. -/
def ofJson : Json → Except CompileError Operand
  | .arr items => (items.mapM Scalar.ofJson).map .list
  | value => (Scalar.ofJson value).map .scalar

theorem ofJson_of_not_arr {value : Json} (h : ∀ items, value ≠ .arr items) :
    ofJson value = (Scalar.ofJson value).map .scalar := by
  cases value with
  | arr items => exact absurd rfl (h items)
  | _ => rfl

end Operand

end DocQuery
