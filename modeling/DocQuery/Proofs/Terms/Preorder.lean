import DocQuery.Proofs.Terms.Leaves
import Mathlib.Data.List.Lex

/-!
# The order of predicates

Terms are a tree whose leaves are filters. A leaf stands at an address: the positions of the fields
that lead to it, each counted from the first field of its object. `Terms.LeafAt` says what stands at
an address, by looking up one position after another. Fields may have the same name, and no two of
them have the same address. Addresses in lexicographic order are the order of declaration, depth
first.

Compiling visits the leaves in this order and writes down those that compare something
(`Terms.predicates_in_preorder`). So the predicates of a group stand together, in the place of the
group, and fields that compare nothing at any depth may come and go (`Terms.Pads`).
-/

namespace DocQuery

/-! ### Leaves at addresses -/

/-- Some condition has its operand. -/
def Filter.Compares (f : Filter) : Prop :=
  ∃ c ∈ f.conditions, c.operand.isSome

/-- What stands at an address, with the names of the fields on the way. -/
inductive Terms.LeafAt : Terms → List Nat → Leaf → Prop
  | filter {terms : Terms} {i : Nat} {field : String} {f : Filter}
      (h : terms[i]? = some (field, .filter f)) : LeafAt terms [i] ⟨[field], f⟩
  | group {terms inner : Terms} {i : Nat} {field : String} {address : List Nat} {leaf : Leaf}
      (h : terms[i]? = some (field, .group inner)) (hleaf : LeafAt inner address leaf) :
      LeafAt terms (i :: address) ⟨field :: leaf.path, leaf.filter⟩

/-- A leaf together with its address. -/
structure PlacedLeaf where
  address : List Nat
  leaf : Leaf

/-- The leaf as it is seen from outside of the group that field number `i` holds. -/
def PlacedLeaf.inside (i : Nat) (field : String) (x : PlacedLeaf) : PlacedLeaf :=
  ⟨i :: x.address, ⟨field :: x.leaf.path, x.leaf.filter⟩⟩

mutual

/-- The leaves of the term that field number `i` has, in order. -/
def Term.placedAt (i : Nat) (field : String) : Term → List PlacedLeaf
  | .skip => []
  | .filter f => [⟨[i], ⟨[field], f⟩⟩]
  | .group inner => (Terms.placedFrom 0 inner).map (.inside i field)

/-- The leaves of terms with `i` fields in front of them, in order. -/
def Terms.placedFrom (i : Nat) : Terms → List PlacedLeaf
  | [] => []
  | (field, term) :: rest => Term.placedAt i field term ++ Terms.placedFrom (i + 1) rest

end

/-! ### Looking up addresses -/

namespace Terms.LeafAt

variable {terms others : Terms} {i j : Nat} {address : List Nat} {leaf : Leaf}

private theorem exists_eq_cons (h : terms.LeafAt address leaf) : ∃ i rest, address = i :: rest := by
  rcases h with @⟨_, i, _, _, -⟩ | @⟨_, _, i, _, rest, _, -, -⟩
  · exact ⟨i, [], rfl⟩
  · exact ⟨i, rest, rfl⟩

/-- No address is empty. -/
theorem iff_exists_cons : terms.LeafAt address leaf ↔
    ∃ j rest, address = (0 + j) :: rest ∧ terms.LeafAt (j :: rest) leaf := by
  constructor
  · intro hleaf
    obtain ⟨j, rest, rfl⟩ := hleaf.exists_eq_cons
    exact ⟨j, rest, by rw [Nat.zero_add], hleaf⟩
  · rintro ⟨j, rest, haddress, hleaf⟩
    rwa [haddress, Nat.zero_add]

theorem not_nil : ¬ Terms.LeafAt [] address leaf := by
  rintro (⟨h⟩ | ⟨h, -⟩)
  · simp at h
  · simp at h

/-- Only the field at the first position matters. -/
private theorem of_getElem?_eq (h : terms[i]? = others[j]?)
    (hleaf : terms.LeafAt (i :: address) leaf) : others.LeafAt (j :: address) leaf := by
  cases hleaf with
  | filter hi => exact .filter (h ▸ hi)
  | group hi hinner => exact .group (h ▸ hi) hinner

theorem iff_of_getElem?_eq (h : terms[i]? = others[j]?) :
    terms.LeafAt (i :: address) leaf ↔ others.LeafAt (j :: address) leaf :=
  ⟨of_getElem?_eq h, of_getElem?_eq h.symm⟩

theorem not_of_skip {field : String} (h : terms[i]? = some (field, .skip)) :
    ¬ terms.LeafAt (i :: address) leaf := by
  intro hleaf
  cases hleaf with
  | filter hi => simp [h] at hi
  | group hi _ => simp [h] at hi

theorem iff_of_filter {field : String} {f : Filter} (h : terms[i]? = some (field, .filter f)) :
    terms.LeafAt (i :: address) leaf ↔ address = [] ∧ leaf = ⟨[field], f⟩ := by
  constructor
  · intro hleaf
    cases hleaf with
    | filter hi =>
      obtain ⟨rfl, rfl⟩ : field = _ ∧ f = _ := by simpa [h] using hi
      exact ⟨rfl, rfl⟩
    | group hi _ => simp [h] at hi
  · rintro ⟨rfl, rfl⟩
    exact .filter h

theorem iff_of_group {field : String} {inner : Terms} (h : terms[i]? = some (field, .group inner)) :
    terms.LeafAt (i :: address) leaf ↔
      ∃ l : Leaf, inner.LeafAt address l ∧ leaf = ⟨field :: l.path, l.filter⟩ := by
  constructor
  · intro hleaf
    cases hleaf with
    | filter hi => simp [h] at hi
    | group hi hinner =>
      obtain ⟨rfl, rfl⟩ : field = _ ∧ inner = _ := by simpa [h] using hi
      exact ⟨_, hinner, rfl⟩
  · rintro ⟨l, hl, rfl⟩
    exact .group h hl

end Terms.LeafAt

mutual

private theorem Term.mem_placedAt_iff (i : Nat) (field : String) (x : PlacedLeaf) :
    ∀ term : Term, x ∈ term.placedAt i field ↔
      ∃ rest, x.address = i :: rest ∧ Terms.LeafAt [(field, term)] (0 :: rest) x.leaf
  | .skip => by
    refine iff_of_false List.not_mem_nil ?_
    rintro ⟨rest, -, hleaf⟩
    exact Terms.LeafAt.not_of_skip rfl hleaf
  | .filter f => by
    have hleaf (rest : List Nat) : Terms.LeafAt [(field, .filter f)] (0 :: rest) x.leaf ↔
        rest = [] ∧ x.leaf = ⟨[field], f⟩ := Terms.LeafAt.iff_of_filter rfl
    obtain ⟨address, leaf⟩ := x
    simp [Term.placedAt, hleaf]
  | .group inner => by
    have hleaf (rest : List Nat) : Terms.LeafAt [(field, .group inner)] (0 :: rest) x.leaf ↔
        ∃ l, Terms.LeafAt inner rest l ∧ x.leaf = ⟨field :: l.path, l.filter⟩ :=
      Terms.LeafAt.iff_of_group rfl
    have hinner (y : PlacedLeaf) :
        y ∈ Terms.placedFrom 0 inner ↔ Terms.LeafAt inner y.address y.leaf :=
      (Terms.mem_placedFrom_iff 0 y inner).trans Terms.LeafAt.iff_exists_cons.symm
    simp only [Term.placedAt, List.mem_map, hinner, hleaf]
    constructor
    · rintro ⟨y, hy, rfl⟩
      exact ⟨y.address, rfl, y.leaf, hy, rfl⟩
    · rintro ⟨rest, haddress, l, hl, hx⟩
      refine ⟨⟨rest, l⟩, hl, ?_⟩
      rw [PlacedLeaf.inside, ← haddress, ← hx]

private theorem Terms.mem_placedFrom_iff (k : Nat) (x : PlacedLeaf) :
    ∀ terms : Terms, x ∈ terms.placedFrom k ↔
      ∃ j rest, x.address = (k + j) :: rest ∧ terms.LeafAt (j :: rest) x.leaf
  | [] => by
    refine iff_of_false List.not_mem_nil ?_
    rintro ⟨j, rest, -, hleaf⟩
    exact Terms.LeafAt.not_nil hleaf
  | (field, term) :: terms => by
    have hfirst (rest : List Nat) : Terms.LeafAt ((field, term) :: terms) (0 :: rest) x.leaf ↔
        Terms.LeafAt [(field, term)] (0 :: rest) x.leaf := Terms.LeafAt.iff_of_getElem?_eq rfl
    have hlater (j : Nat) (rest : List Nat) :
        Terms.LeafAt ((field, term) :: terms) ((j + 1) :: rest) x.leaf ↔
          Terms.LeafAt terms (j :: rest) x.leaf := Terms.LeafAt.iff_of_getElem?_eq rfl
    rw [Terms.placedFrom, List.mem_append, Term.mem_placedAt_iff k field x term,
      Terms.mem_placedFrom_iff (k + 1) x terms]
    constructor
    · rintro (⟨rest, haddress, hleaf⟩ | ⟨j, rest, haddress, hleaf⟩)
      · exact ⟨0, rest, haddress, (hfirst rest).mpr hleaf⟩
      · refine ⟨j + 1, rest, ?_, (hlater j rest).mpr hleaf⟩
        rw [haddress, Nat.add_right_comm, Nat.add_assoc]
    · rintro ⟨j, rest, haddress, hleaf⟩
      rcases j with - | j
      · exact .inl ⟨rest, haddress, (hfirst rest).mp hleaf⟩
      · refine .inr ⟨j, rest, ?_, (hlater j rest).mp hleaf⟩
        rw [haddress, Nat.add_right_comm, Nat.add_assoc]

end

/-! ### The order of leaves -/

private theorem PlacedLeaf.inside_lt_inside {i : Nat} {field : String} {x y : PlacedLeaf}
    (h : x.address < y.address) : (x.inside i field).address < (y.inside i field).address :=
  List.cons_lt_cons_iff.mpr (.inr ⟨rfl, h⟩)

mutual

private theorem Term.pairwise_placedAt (i : Nat) (field : String) :
    ∀ term : Term, (term.placedAt i field).Pairwise fun x y => x.address < y.address
  | .skip => .nil
  | .filter _ => List.pairwise_singleton _ _
  | .group inner => by
    rw [Term.placedAt, List.pairwise_map]
    exact (Terms.pairwise_placedFrom 0 inner).imp PlacedLeaf.inside_lt_inside

private theorem Terms.pairwise_placedFrom (k : Nat) :
    ∀ terms : Terms, (terms.placedFrom k).Pairwise fun x y => x.address < y.address
  | [] => .nil
  | (field, term) :: terms => by
    rw [Terms.placedFrom, List.pairwise_append]
    refine ⟨Term.pairwise_placedAt k field term, Terms.pairwise_placedFrom (k + 1) terms, ?_⟩
    -- later fields have larger positions
    intro x hx y hy
    obtain ⟨rest, hrest, -⟩ := (Term.mem_placedAt_iff k field x term).mp hx
    obtain ⟨j, rest', hrest', -⟩ := (Terms.mem_placedFrom_iff (k + 1) y terms).mp hy
    rw [hrest, hrest', List.cons_lt_cons_iff]
    exact .inl (by omega)

end

namespace Terms

/-- The leaves of terms, in order. -/
def placed (terms : Terms) : List PlacedLeaf :=
  terms.placedFrom 0

/-- The leaves of terms are what stands at their addresses. -/
theorem mem_placed_iff {terms : Terms} {x : PlacedLeaf} :
    x ∈ terms.placed ↔ terms.LeafAt x.address x.leaf :=
  (mem_placedFrom_iff 0 x terms).trans LeafAt.iff_exists_cons.symm

/-- **Leaves are in preorder.** -/
theorem pairwise_placed (terms : Terms) :
    terms.placed.Pairwise fun x y => x.address < y.address :=
  pairwise_placedFrom 0 terms

end Terms

mutual

private theorem Term.leavesFrom_eq_map (path : List String) (i : Nat) (field : String) :
    ∀ term : Term, term.leavesFrom (path ++ [field]) =
      (term.placedAt i field).map fun x => ⟨path ++ x.leaf.path, x.leaf.filter⟩
  | .skip => rfl
  | .filter _ => rfl
  | .group inner => by
    rw [Term.leavesFrom, Term.placedAt, List.map_map,
      Terms.leavesFrom_eq_map (path ++ [field]) 0 inner]
    simp only [List.append_assoc]
    rfl

private theorem Terms.leavesFrom_eq_map (path : List String) (k : Nat) :
    ∀ terms : Terms, terms.leavesFrom path =
      (terms.placedFrom k).map fun x => ⟨path ++ x.leaf.path, x.leaf.filter⟩
  | [] => rfl
  | (field, term) :: terms => by
    rw [Terms.leavesFrom, Terms.placedFrom, List.map_append,
      Term.leavesFrom_eq_map path k field term, Terms.leavesFrom_eq_map path (k + 1) terms]

end

/-- Forgetting the addresses leaves the leaves. -/
theorem Terms.map_leaf_placed (terms : Terms) : terms.placed.map PlacedLeaf.leaf = terms.leaves :=
  (Terms.leavesFrom_eq_map [] 0 terms).symm

/-! ### Leaves that compare something -/

theorem Filter.compares_iff {f : Filter} : f.Compares ↔ f.comparisons ≠ [] := by
  rw [Compares, comparisons, Ne, List.filterMap_eq_nil_iff]
  simp [Condition.comparison?, Option.isSome_iff_ne_none]

theorem Leaf.isDefined_iff {leaf : Leaf} : leaf.isDefined ↔ leaf.filter.Compares := by
  rw [Filter.compares_iff, isDefined]
  simp

namespace Terms

/-- The leaves that compare something are written down one by one. -/
theorem predicates_eq_placed (terms : Terms) (parent : String) :
    terms.predicates parent =
      (terms.placed.filter fun x => x.leaf.isDefined).map fun x => x.leaf.text parent := by
  rw [predicates_eq_leaves, ← map_leaf_placed, leafTexts, List.filter_map, List.map_map]
  rfl

theorem ne_empty_of_mem_predicates {terms : Terms} {parent p : String}
    (h : p ∈ terms.predicates parent) : p ≠ "" := by
  rw [predicates_eq_placed] at h
  obtain ⟨x, hx, rfl⟩ := List.mem_map.mp h
  have hdefined : x.leaf.isDefined := (List.mem_filter.mp hx).2
  intro hempty
  rw [Leaf.text_eq_empty_iff, hdefined] at hempty
  exact Bool.noConfusion hempty

end Terms

/-! ### Fields that compare nothing -/

/-- Terms without a leaf that compares something. -/
inductive Term.IsIdle : Term → Prop
  | skip : IsIdle .skip
  | filter {f : Filter} (h : ¬ f.Compares) : IsIdle (.filter f)
  | group {fields : Terms} (h : ∀ entry ∈ fields, IsIdle entry.2) : IsIdle (.group fields)

/-- The second terms are the first with idle fields put in anywhere, in groups as well. -/
inductive Terms.Pads : Terms → Terms → Prop
  | nil : Pads [] []
  | keep {terms padded : Terms} (entry : String × Term) (h : Pads terms padded) :
      Pads (entry :: terms) (entry :: padded)
  | inside {inner inner' terms padded : Terms} (field : String) (hinner : Pads inner inner')
      (h : Pads terms padded) :
      Pads ((field, .group inner) :: terms) ((field, .group inner') :: padded)
  | put {terms padded : Terms} (field : String) {term : Term} (hidle : term.IsIdle)
      (h : Pads terms padded) : Pads terms ((field, term) :: padded)

private theorem Terms.predicates_eq_nil_of_forall {terms : Terms} {parent : String}
    (h : ∀ entry ∈ terms, entry.2.predicates (fieldPath parent entry.1) = []) :
    terms.predicates parent = [] := by
  induction terms with
  | nil => rfl
  | cons entry terms ih =>
    obtain ⟨hentry, hterms⟩ := List.forall_mem_cons.mp h
    rw [predicates, hentry, ih hterms]
    rfl

theorem Term.IsIdle.predicates_eq_nil {term : Term} (h : term.IsIdle) (param : String) :
    term.predicates param = [] := by
  induction h generalizing param with
  | skip => rfl
  | @filter f hf =>
    have hempty : f.text param = "" := by
      rw [Filter.text_eq_empty_iff]
      exact not_not.mp (mt Filter.compares_iff.mpr hf)
    rw [predicates, if_pos hempty]
  | group _ ih =>
    exact Terms.predicates_eq_nil_of_forall fun entry hentry => ih entry hentry _

/-- **Idle fields leave no trace.** -/
theorem Terms.Pads.predicates_eq {terms padded : Terms} (h : terms.Pads padded) (parent : String) :
    padded.predicates parent = terms.predicates parent := by
  induction h generalizing parent with
  | nil => rfl
  | keep entry _ ih => rw [predicates, predicates, ih]
  | inside field _ _ ihinner ih =>
    rw [predicates, predicates, Term.predicates, Term.predicates, ihinner, ih]
  | put field hidle _ ih => rw [predicates, hidle.predicates_eq_nil, ih, List.nil_append]

/-- **Compiling flattens terms in preorder.** The predicates are the texts of the leaves that have a
condition with an operand, one for each, in the order of their addresses. The parameter of a leaf is
spelled by the names of all fields on the way to it, and no predicate is empty. The predicates of a
group are those of the terms in it, and stand where the group stands. Fields that are skipped,
filters without an operand and groups of nothing else can be put in or taken out at any place. -/
theorem Terms.predicates_in_preorder (terms : Terms) (parent : String) :
    (∃ leaves : List PlacedLeaf,
      leaves.Pairwise (fun x y => x.address < y.address) ∧
      (∀ x, x ∈ leaves ↔ terms.LeafAt x.address x.leaf ∧ x.leaf.filter.Compares) ∧
      terms.predicates parent =
        leaves.map fun x => x.leaf.filter.text (".".intercalate (parent :: x.leaf.path))) ∧
    (∀ p ∈ terms.predicates parent, p ≠ "") ∧
    (∀ before after field inner, terms = before ++ (field, .group inner) :: after →
      terms.predicates parent = Terms.predicates parent before ++
        Terms.predicates (parent ++ "." ++ field) inner ++ Terms.predicates parent after) ∧
    ∀ others, terms.Pads others ∨ Terms.Pads others terms →
      others.predicates parent = terms.predicates parent := by
  refine ⟨⟨terms.placed.filter fun x => x.leaf.isDefined, ?_, fun x => ?_, ?_⟩,
    fun p => ne_empty_of_mem_predicates, ?_, ?_⟩
  · exact terms.pairwise_placed.filter _
  · rw [List.mem_filter, mem_placed_iff, Leaf.isDefined_iff]
  · rw [predicates_eq_placed]
    simp only [Leaf.text, pathText_eq_intercalate]
  · rintro before after field inner rfl
    rw [predicates_append, predicates, Term.predicates, List.append_assoc]
    rfl
  · rintro others (hpads | hpads)
    · exact hpads.predicates_eq parent
    · exact (hpads.predicates_eq parent).symm

/-- A field may be declared twice, and its second group says nothing. -/
example :
    let cat : Filter := ({} : Filter).compare .eq (.scalar (.str "cat"))
    let terms : Terms := [
      ("pet", .group [("kind", .filter (cat.undefined .neq)), ("age", .skip)]),
      ("pet", .group [("kind", .filter (({} : Filter).undefined .eq)), ("home", .group [])]),
      ("kind", .filter cat)]
    terms.predicates "i" = ["i.pet.kind == \"cat\"", "i.kind == \"cat\""] := by
  decide

end DocQuery
