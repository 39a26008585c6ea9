import DocQuery.Collection.Plan
import DocQuery.Proofs.Operand.Literal
import DocQuery.Proofs.Terms.Path

/-!
# The outline of a search

What the query of a search says, apart from how it is written: what it calls a document, the
predicates with the field, operators and operands of each, the order and the limit. Operands
count up to the texts of their scalars (`Operand.Form`), and the connective of a predicate counts
only if it joins something.

An outline is written as a list of words (`Outline.words`). If its names are identifiers and its
scalars have literals for texts (`Outline.IsLegible`), these are words in the sense of
`Text.IsWord` (`Outline.isWord_of_mem_words`), and the query of the search joins them
(`Collection.searchQuery_text`).
-/

namespace DocQuery

open Text

/-! ### The parts of an outline -/

/-- What the text of a predicate says. -/
structure Predicate where
  /-- The fields that lead to the parameter, outermost first. -/
  path : List String
  comparisons : List (Operator × Operand.Form)
  /-- The connective, if there are at least two comparisons to join. -/
  mode? : Option Mode
  deriving DecidableEq, Repr

/-- What the predicate of a leaf says. -/
def Leaf.predicate (leaf : Leaf) : Predicate where
  path := leaf.path
  comparisons := leaf.filter.comparisons.map fun c => (c.operator, c.operand.form)
  mode? := if 2 ≤ leaf.filter.comparisons.length then some leaf.filter.mode else none

/-- What the query of a search says. -/
structure Outline where
  /-- What the query calls a document. -/
  root : String
  predicates : List Predicate
  sort : List SortKey
  limit : Option Limit
  deriving DecidableEq, Repr

/-- The outline of a search: the leaves of the terms that compare something, the order that is in
effect and the limit. -/
def Collection.outline {α : Type} (c : Collection α) (r : Request) : Outline where
  root := c.config.rootAlias
  predicates := ((r.terms.getD []).leaves.filter Leaf.isDefined).map Leaf.predicate
  sort := r.sort.getD c.config.searchSort
  limit := r.limit

/-! ### Words -/

/-- The words of an operator's symbol. -/
def Operator.words : Operator → List String
  | .notIn => ["NOT", "IN"]
  | .notLike => ["NOT", "LIKE"]
  | op => [op.symbol]

/-- The words of a comparison with a parameter. -/
def comparisonWords (param : String) (c : Operator × Operand.Form) : List String :=
  param :: c.1.words ++ [c.2.text]

/-- The words of a predicate on the fields of `root`. -/
def Predicate.words (root : String) (p : Predicate) : List String :=
  [(p.mode?.getD .and).word].intercalate
    (p.comparisons.map (comparisonWords (pathText root p.path)))

/-- The words of the clause of filters. -/
def filterClauseWords (root : String) (ps : List Predicate) : List String :=
  ps.flatMap fun p => "FILTER" :: p.words root

/-- The words of a list of fields to order by. A comma goes with the word in front of it. -/
def sortWords (root : String) : List SortKey → List String
  | [] => []
  | [key] => [fieldOf key, key.direction.word]
  | key :: next :: rest => fieldOf key :: (key.direction.word ++ ",") :: sortWords root (next :: rest)
where
  fieldOf (key : SortKey) : String :=
    match key.target with
    | .field name => fieldPath root name
    | .expression text => text

/-- The words of the clause that orders documents. -/
def sortClauseWords (root : String) (keys : List SortKey) : List String :=
  if keys = [] then [] else "SORT" :: sortWords root keys

/-- The words of the clause that limits the number of documents. -/
def limitClauseWords : Option Limit → List String
  | none => []
  | some ⟨count, none⟩ => ["LIMIT", count.toNat.repr]
  | some ⟨count, some offset⟩ => ["LIMIT", offset.toNat.repr ++ ",", count.toNat.repr]

namespace Outline

/-- The clauses of the query, each as its words. -/
def clauses (o : Outline) : List (List String) :=
  [["FOR", o.root, "IN"], ["@@value0"], filterClauseWords o.root o.predicates,
    sortClauseWords o.root o.sort, limitClauseWords o.limit, ["RETURN", o.root]]

/-- All words of the query. -/
def words (o : Outline) : List String :=
  o.clauses.flatten

end Outline

/-! ### Legible outlines -/

/-- The key is a field that goes by an identifier. -/
def SortKey.isField (key : SortKey) : Bool :=
  match key.target with
  | .field name => isIdentifier name
  | .expression _ => false

theorem SortKey.exists_of_isField {key : SortKey} (h : key.isField) :
    ∃ name, isIdentifier name ∧ key.target = .field name := by
  obtain ⟨target, direction⟩ := key
  cases target with
  | field name => exact ⟨name, h, rfl⟩
  | expression text => exact absurd h (by simp [isField])

/-- The fields are identifiers, the scalars have literals for texts, something is compared, and
there is a connective exactly if there is something to join. -/
structure Predicate.IsLegible (p : Predicate) : Prop where
  path : ∀ field ∈ p.path, isIdentifier field
  comparisons_ne_nil : p.comparisons ≠ []
  operands : ∀ c ∈ p.comparisons, c.2.IsLegible
  isSome_mode? : p.mode?.isSome ↔ 2 ≤ p.comparisons.length

/-- The names are identifiers, the predicates are legible, and documents are ordered by fields. -/
structure Outline.IsLegible (o : Outline) : Prop where
  root : isIdentifier o.root
  predicates : ∀ p ∈ o.predicates, p.IsLegible
  sort : ∀ key ∈ o.sort, key.isField

private theorem forall_mem_intercalate {P : String → Prop} {sep : List String}
    (hsep : ∀ w ∈ sep, P w) {gs : List (List String)} (hgs : ∀ g ∈ gs, ∀ w ∈ g, P w) :
    ∀ w ∈ sep.intercalate gs, P w := by
  induction gs with
  | nil => simp
  | cons g gs ih =>
    obtain ⟨hg, hrest⟩ := List.forall_mem_cons.mp hgs
    cases gs with
    | nil => simpa using hg
    | cons g' gs =>
      rw [List.intercalate_cons_cons]
      exact List.forall_mem_append.mpr ⟨List.forall_mem_append.mpr ⟨hg, hsep⟩, ih hrest⟩

theorem Operator.isWord_of_mem_words (op : Operator) : ∀ w ∈ op.words, IsWord w := by
  have hwords : ∀ w ∈ op.words, isSolid w.toList ∧ isClosed ' ' false w.toList := by
    cases op <;> decide
  exact fun w hw => ⟨(hwords w hw).1, (hwords w hw).2⟩

theorem isWord_of_mem_comparisonWords {param : String} (hparam : IsToken param)
    {c : Operator × Operand.Form} (hc : c.2.IsLegible) :
    ∀ w ∈ comparisonWords param c, IsWord w := by
  rw [comparisonWords, List.cons_append]
  refine List.forall_mem_cons.mpr ⟨hparam.isWord, List.forall_mem_append.mpr ⟨?_, ?_⟩⟩
  · exact c.1.isWord_of_mem_words
  · simpa using Operand.Form.isWord_text hc

theorem Mode.isWord_word (mode : Mode) : IsWord mode.word := by
  cases mode <;> exact ⟨by decide, by decide⟩

theorem Predicate.isWord_of_mem_words {root : String} (hroot : isIdentifier root) {p : Predicate}
    (hp : p.IsLegible) : ∀ w ∈ p.words root, IsWord w := by
  have hparam : IsToken (pathText root p.path) :=
    isToken_pathText (isToken_of_isIdentifier hroot) hp.path
  refine forall_mem_intercalate ?_ fun g hg => ?_
  · simpa using Mode.isWord_word _
  · obtain ⟨c, hc, rfl⟩ := List.mem_map.mp hg
    exact isWord_of_mem_comparisonWords hparam (hp.operands c hc)

private theorem isWord_comma : IsWord "," :=
  ⟨by decide, by decide⟩

theorem Direction.isWord_word (direction : Direction) : IsWord direction.word := by
  cases direction <;> exact ⟨by decide, by decide⟩

theorem isWord_of_mem_sortWords {root : String} (hroot : isIdentifier root) {keys : List SortKey}
    (hkeys : ∀ key ∈ keys, key.isField) :
    ∀ w ∈ sortWords root keys, IsWord w := by
  have hfield : ∀ key ∈ keys, IsWord (sortWords.fieldOf root key) := by
    intro key hkey
    obtain ⟨name, hname, htarget⟩ := SortKey.exists_of_isField (hkeys key hkey)
    rw [sortWords.fieldOf, htarget]
    exact (isToken_fieldPath (isToken_of_isIdentifier hroot) (isToken_of_isIdentifier hname)).isWord
  -- from here on only the words of the keys matter, so that the rest of a list is as good
  clear hkeys
  induction keys with
  | nil => simp [sortWords]
  | cons key keys ih =>
    obtain ⟨hkey, hrest⟩ := List.forall_mem_cons.mp hfield
    cases keys with
    | nil => simpa [sortWords] using ⟨hkey, key.direction.isWord_word⟩
    | cons next rest =>
      rw [sortWords]
      exact List.forall_mem_cons.mpr ⟨hkey, List.forall_mem_cons.mpr
        ⟨key.direction.isWord_word.append isWord_comma, ih hrest⟩⟩

theorem isWord_of_mem_limitClauseWords (limit : Option Limit) :
    ∀ w ∈ limitClauseWords limit, IsWord w := by
  have hlimit : IsWord "LIMIT" := ⟨by decide, by decide⟩
  have hnumber : ∀ n : Nat, IsWord n.repr := fun n => (Decimal.isToken_repr n).isWord
  rcases limit with _ | ⟨count, _ | offset⟩
  · simp [limitClauseWords]
  · simpa [limitClauseWords] using ⟨hlimit, hnumber _⟩
  · simpa [limitClauseWords] using ⟨hlimit, (hnumber _).append isWord_comma, hnumber _⟩

/-- **A legible outline is written in words.** -/
theorem Outline.isWord_of_mem_words {o : Outline} (ho : o.IsLegible) : ∀ w ∈ o.words, IsWord w := by
  have hroot : IsWord o.root := (isToken_of_isIdentifier ho.root).isWord
  -- the keywords are fixed texts, so their characters are looked at
  have hkeyword : ∀ w ∈ ["FOR", "IN", "@@value0", "FILTER", "SORT", "RETURN"], IsWord w := by
    have hwords : ∀ w ∈ ["FOR", "IN", "@@value0", "FILTER", "SORT", "RETURN"],
        isSolid w.toList ∧ isClosed ' ' false w.toList := by decide
    exact fun w hw => ⟨(hwords w hw).1, (hwords w hw).2⟩
  have hclauses : ∀ g ∈ o.clauses, ∀ w ∈ g, IsWord w := by
    simp only [clauses, List.forall_mem_cons, List.not_mem_nil, false_imp_iff, implies_true, and_true]
    refine ⟨⟨hkeyword _ (by simp), hroot, hkeyword _ (by simp)⟩, hkeyword _ (by simp), ?_, ?_,
      isWord_of_mem_limitClauseWords o.limit, hkeyword _ (by simp), hroot⟩
    · intro w hw
      obtain ⟨p, hp, hw⟩ := List.mem_flatMap.mp hw
      rcases List.mem_cons.mp hw with rfl | hw
      · exact hkeyword _ (by simp)
      · exact Predicate.isWord_of_mem_words ho.root (ho.predicates p hp) w hw
    · rw [sortClauseWords]
      split
      · simp
      · exact List.forall_mem_cons.mpr ⟨hkeyword _ (by simp), isWord_of_mem_sortWords ho.root ho.sort⟩
  intro w hw
  obtain ⟨g, hg, hwg⟩ := List.mem_flatten.mp hw
  exact hclauses g hg w hwg

end DocQuery
