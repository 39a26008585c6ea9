import DocQuery.Proofs.Filter.Defined
import DocQuery.Terms.Basic

/-!
# Terms as leaves with paths

The filters of nested terms, each with the fields that lead to it, in order of declaration:
`Terms.leaves` forgets everything else about the nesting, and so do the predicates. Compiling
terms is writing down the leaves that compare something (`Terms.predicates_eq_leaves`), each on
the parameter that its path spells (`pathText`).
-/

namespace DocQuery

/-- A filter and the fields that lead to it, outermost first. -/
structure Leaf where
  path : List String
  filter : Filter

mutual

/-- The leaves of a term that `path` leads to. -/
def Term.leavesFrom (path : List String) : Term → List Leaf
  | .skip => []
  | .filter f => [⟨path, f⟩]
  | .group fields => Terms.leavesFrom path fields

/-- The leaves of terms inside the object that `path` leads to. -/
def Terms.leavesFrom (path : List String) : Terms → List Leaf
  | [] => []
  | (field, term) :: rest =>
    Term.leavesFrom (path ++ [field]) term ++ Terms.leavesFrom path rest

end

/-- The leaves of terms on the fields of a document. -/
def Terms.leaves (terms : Terms) : List Leaf :=
  terms.leavesFrom []

/-- The parameter that a path spells. -/
def pathText (parent : String) (path : List String) : String :=
  path.foldl fieldPath parent

theorem pathText_append_singleton (parent : String) (path : List String) (field : String) :
    pathText parent (path ++ [field]) = fieldPath (pathText parent path) field := by
  rw [pathText, List.foldl_append]
  rfl

/-- The parts of a path stand between points. -/
theorem pathText_eq_intercalate (parent : String) (path : List String) :
    pathText parent path = ".".intercalate (parent :: path) := by
  induction path generalizing parent with
  | nil => simp [pathText]
  | cons field path ih =>
    have hstep : pathText parent (field :: path) = pathText (fieldPath parent field) path := rfl
    rw [hstep, ih, fieldPath, String.intercalate_cons_append, String.intercalate_cons_cons]

namespace Leaf

/-- Some condition of the leaf is defined. -/
def isDefined (leaf : Leaf) : Bool :=
  !leaf.filter.comparisons.isEmpty

/-- The predicate that a leaf gives. -/
def text (parent : String) (leaf : Leaf) : String :=
  leaf.filter.text (pathText parent leaf.path)

/-- A leaf that compares nothing gives no text, and only such a leaf. -/
theorem text_eq_empty_iff {parent : String} {leaf : Leaf} :
    leaf.text parent = "" ↔ leaf.isDefined = false := by
  rw [text, Filter.text_eq_empty_iff]
  simp [isDefined]

end Leaf

/-- The predicates that leaves give. -/
def leafTexts (parent : String) (leaves : List Leaf) : List String :=
  (leaves.filter Leaf.isDefined).map (Leaf.text parent)

theorem leafTexts_append (parent : String) (ls ms : List Leaf) :
    leafTexts parent (ls ++ ms) = leafTexts parent ls ++ leafTexts parent ms := by
  rw [leafTexts, List.filter_append, List.map_append]
  rfl

private theorem leafTexts_singleton (parent : String) (leaf : Leaf) :
    leafTexts parent [leaf] = if leaf.text parent = "" then [] else [leaf.text parent] := by
  have hempty := @Leaf.text_eq_empty_iff parent leaf
  cases hdefined : leaf.isDefined with
  | false => simp [leafTexts, hdefined, hempty.mpr hdefined]
  | true =>
    have hne : leaf.text parent ≠ "" := fun h => by simp [hempty.mp h] at hdefined
    simp [leafTexts, hdefined, hne]

mutual

private theorem Term.predicates_eq_leafTexts (parent : String) (path : List String) :
    ∀ term : Term, term.predicates (pathText parent path) =
      leafTexts parent (term.leavesFrom path)
  | .skip => rfl
  | .filter f => by
    rw [Term.predicates, Term.leavesFrom, leafTexts_singleton]
    rfl
  | .group fields => by
    rw [Term.predicates, Term.leavesFrom]
    exact Terms.predicates_eq_leafTexts parent path fields

private theorem Terms.predicates_eq_leafTexts (parent : String) (path : List String) :
    ∀ terms : Terms, terms.predicates (pathText parent path) =
      leafTexts parent (terms.leavesFrom path)
  | [] => rfl
  | (field, term) :: rest => by
    rw [Terms.predicates, Terms.leavesFrom, leafTexts_append, ← pathText_append_singleton,
      Term.predicates_eq_leafTexts parent _ term, Terms.predicates_eq_leafTexts parent path rest]

end

/-- **Terms compile leaf by leaf.** -/
theorem Terms.predicates_eq_leaves (parent : String) (terms : Terms) :
    terms.predicates parent = leafTexts parent terms.leaves :=
  Terms.predicates_eq_leafTexts parent [] terms

end DocQuery
