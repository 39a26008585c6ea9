/-!
# JSON values

Objects keep their entries in the order in which they were written. Whole numbers and floats are
different values, so `1` and `1.0` differ. Two objects are equal (`Json.beq`) if they have as many
entries and each key of the one leads to an equal value in the other; the order of the entries
does not count. Floats compare as numbers: both zeros are equal and nothing equals a value that is
not a number.
-/

namespace DocQuery

/-- A JSON value. -/
inductive Json where
  | null
  | bool (b : Bool)
  | int (n : Int)
  | double (x : Float)
  | str (s : String)
  | arr (items : List Json)
  | obj (entries : List (String × Json))
  deriving Inhabited, Repr

namespace Json

/-- The value under a key. -/
def lookup (key : String) : List (String × Json) → Option Json
  | [] => none
  | (k, v) :: rest => if k = key then some v else lookup key rest

mutual

/-- Equality of values, without regard to the order of object entries. -/
def beq : Json → Json → Bool
  | .null, .null => true
  | .bool a, .bool b => a == b
  | .int m, .int n => m == n
  | .double x, .double y => x == y
  | .str s, .str t => s == t
  | .arr xs, .arr ys => beqItems xs ys
  | .obj xs, .obj ys => xs.length == ys.length && beqEntries xs ys
  | _, _ => false

def beqItems : List Json → List Json → Bool
  | [], [] => true
  | x :: xs, y :: ys => beq x y && beqItems xs ys
  | _, _ => false

/-- Every entry has an equal one among `ys`. -/
def beqEntries : List (String × Json) → List (String × Json) → Bool
  | [], _ => true
  | (k, v) :: rest, ys =>
    (match lookup k ys with
      | some w => beq v w
      | none => false) && beqEntries rest ys

end

instance : BEq Json := ⟨beq⟩

end Json

end DocQuery
