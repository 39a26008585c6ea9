import DocQuery.Filter.Basic

/-!
# Search terms

Terms name fields and say what to match on each: nothing, a filter on the field itself, or terms
on the fields of the object it holds. A field may be named more than once. `Terms.predicates`
writes the terms as a list of Boolean expressions, depth first and in order of declaration; a
filter without defined conditions adds none.
-/

namespace DocQuery

/-- What to match on one field. -/
inductive Term where
  /-- Nothing: the field is only declared. -/
  | skip
  | filter (filter : Filter)
  /-- Terms on the fields inside this one. -/
  | group (fields : List (String × Term))
  deriving Inhabited, Repr

/-- Fields and what to match on each, in order of declaration. -/
abbrev Terms := List (String × Term)

mutual

/-- Equality of what is matched. -/
def Term.beq : Term → Term → Bool
  | .skip, .skip => true
  | .filter f, .filter g => f == g
  | .group ts, .group us => Terms.beq ts us
  | _, _ => false

/-- Equality of terms, field by field. -/
def Terms.beq : Terms → Terms → Bool
  | [], [] => true
  | (f, t) :: ts, (g, u) :: us => f == g && Term.beq t u && Terms.beq ts us
  | _, _ => false

end

instance : BEq Term := ⟨Term.beq⟩

namespace Terms

/-- Declares a field without matching on it. -/
def skip (terms : Terms) (field : String) : Terms :=
  terms ++ [(field, .skip)]

/-- Adds a filter on a field. -/
def filter (terms : Terms) (field : String) (f : Filter) : Terms :=
  terms ++ [(field, .filter f)]

/-- Adds terms on the fields inside a field. -/
def group (terms : Terms) (field : String) (inner : Terms) : Terms :=
  terms ++ [(field, .group inner)]

end Terms

/-- The way to a field of a document or of an object in it. -/
def fieldPath (parent field : String) : String :=
  parent ++ "." ++ field

mutual

/-- The predicates of one term, where `param` is the way to its field. -/
def Term.predicates (param : String) : Term → List String
  | .skip => []
  | .filter f => if f.text param = "" then [] else [f.text param]
  | .group fields => Terms.predicates param fields

/-- The predicates of terms on the fields of `parent`. -/
def Terms.predicates (parent : String) : Terms → List String
  | [] => []
  | (field, term) :: rest =>
    Term.predicates (fieldPath parent field) term ++ Terms.predicates parent rest

end

/-- Terms that are declared later give later predicates. -/
theorem Terms.predicates_append (parent : String) (ts us : Terms) :
    Terms.predicates parent (ts ++ us) =
      Terms.predicates parent ts ++ Terms.predicates parent us := by
  induction ts with
  | nil => rfl
  | cons entry ts ih => simp [Terms.predicates, ih]

end DocQuery
