import DocQuery.Json.Printer
import DocQuery.Text

/-!
# Decoding documents

A decoder turns a row into a document of some type, or says what it found in place of what it
expected.
-/

namespace DocQuery

/-- Why a row is no document of the wanted type. -/
inductive DecodeError where
  | invalidType (got : Json) (expected : String)
  | invalidValue (got : Json) (expected : String)
  | invalidLength (length : Nat) (expected : String)
  | missingField (name : String)

namespace DecodeError

/-- What a value is, for a reader of the message. -/
def describe : Json → String
  | .null => "null"
  | .bool b => "boolean `" ++ (Json.bool b).text ++ "`"
  | .int n => "integer `" ++ (Json.int n).text ++ "`"
  | .double x => "floating point `" ++ (Json.double x).text ++ "`"
  | .str s => "string " ++ Text.quoted s
  | .arr _ => "sequence"
  | .obj _ => "map"

def message : DecodeError → String
  | .invalidType got expected => "invalid type: " ++ describe got ++ ", expected " ++ expected
  | .invalidValue got expected => "invalid value: " ++ describe got ++ ", expected " ++ expected
  | .invalidLength length expected => "invalid length " ++ length.repr ++ ", expected " ++ expected
  | .missingField name => "missing field `" ++ name ++ "`"

end DecodeError

/-- A way to read documents of type `α` off rows. -/
abbrev Decoder (α : Type) := Json → Except DecodeError α

namespace Decoder

/-- Any value is a document. -/
def json : Decoder Json :=
  .ok

/-- A string. -/
def text : Decoder String
  | .str s => .ok s
  | got => .error (.invalidType got "a string")

/-- A whole number of 64 bits without sign. A double never counts as one. -/
def word : Decoder Nat
  | .int n =>
    if 0 ≤ n ∧ n < 0x10000000000000000 then .ok n.toNat
    else .error (.invalidValue (.int n) "u64")
  | got => .error (.invalidType got "u64")

/-- The fields of a record by their keys. A field of the wrong type is reported before one that is
missing; other keys are passed over. -/
def fieldsOfEntries (fields : List String) (entries : List (String × Json)) :
    Except DecodeError (List String) := do
  entries.forM fun entry => if fields.contains entry.1 then discard (text entry.2) else pure ()
  fields.mapM fun field =>
    match Json.lookup field entries with
    | some value => text value
    | none => .error (.missingField field)

/-- The fields of a record by their position in a list of `length` items; `index` of them are read
already. -/
def fieldsOfItems (expected : String) (length : Nat) :
    (index : Nat) → (fields : List String) → (items : List Json) →
      Except DecodeError (List String)
  | _, [], [] => .ok []
  | _, [], _ :: _ => .error (.invalidLength length "fewer elements in array")
  | index, _ :: _, [] => .error (.invalidLength index expected)
  | index, _ :: fields, item :: items => do
    let value ← text item
    let values ← fieldsOfItems expected length (index + 1) fields items
    return value :: values

/-- A record of strings, as an object or as a list in the order of the fields. -/
def record (name : String) (fields : List String) : Decoder (List String)
  | .obj entries => fieldsOfEntries fields entries
  | .arr items =>
    let count := fields.length.repr ++ if fields.length = 1 then " element" else " elements"
    fieldsOfItems ("struct " ++ name ++ " with " ++ count) items.length 0 fields items
  | got => .error (.invalidType got ("struct " ++ name))

end Decoder

end DocQuery
