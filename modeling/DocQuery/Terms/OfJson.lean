import DocQuery.Terms.Basic
import DocQuery.Filter.Basic

/-!
# Search terms in JSON

Terms are an object keyed by field names. An empty value (`null`, `false`, a zero or the empty
string) declares a field without matching on it. Any other value has to be an object, and its
keys tell what it is: with a key that is neither an operator's name nor `mode` it holds terms on
inner fields, otherwise it is a filter. The first entry at fault is reported.
-/

namespace DocQuery

/-- The values that stand for no term. -/
def Json.isFalsy : Json → Bool
  | .null => true
  | .bool b => !b
  | .int n => n == 0
  | .double x => x == 0
  | .str s => s == ""
  | .arr _ => false
  | .obj _ => false

/-- Whether a key may stand in a filter. -/
def Filter.isKey (key : String) : Bool :=
  key == Filter.modeKey || Operator.isName key

/-- Whether the entries of an object belong to inner fields rather than to a filter. -/
def Terms.areFields (entries : List (String × Json)) : Bool :=
  entries.any fun entry => !Filter.isKey entry.1

mutual

/-- The term that a JSON value gives a field. -/
def Term.ofJson (field : String) : Json → Except CompileError Term
  | .obj entries =>
    if Terms.areFields entries then (Terms.ofEntries entries).map .group
    else (Filter.ofEntries entries).map .filter
  | value => if value.isFalsy then .ok .skip else .error (.notField field value)

/-- The terms of an object's entries. -/
def Terms.ofEntries : List (String × Json) → Except CompileError Terms
  | [] => .ok []
  | (field, value) :: rest => do
    let term ← Term.ofJson field value
    let terms ← Terms.ofEntries rest
    return (field, term) :: terms

end

/-- The terms of a JSON object. -/
def Terms.ofJson : Json → Except CompileError Terms
  | .obj entries => Terms.ofEntries entries
  | got => .error (.notTerms got)

end DocQuery
