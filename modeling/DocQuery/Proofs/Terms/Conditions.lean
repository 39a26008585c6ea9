import DocQuery.Proofs.Filter.Defined
import DocQuery.Proofs.Terms.Grammar
import Mathlib.Data.List.Induction

/-!
# JSON terms without conditions

JSON terms may name fields and state no condition on any of them. Their values are then idle
(`Json.IsIdle`): empty, a filter that at most names its connective, or a group of idle values again.
A comparison in a filter always comes with an operand, so an accepted filter without comparisons has
no other entries (`Filter.comparisons_eq_nil_iff`).

The terms of an accepted value give no predicates exactly if it declares nothing but idle fields, to
any depth (`Terms.predicates_eq_nil_iff`).
-/

namespace DocQuery

namespace Json

/-- Values that state no condition on a field. -/
inductive IsIdle : Json → Prop
  | falsy {value : Json} (h : value.IsFalsy) : IsIdle value
  /-- A filter without comparisons. -/
  | filter {entries : List (String × Json)} (h : ∀ entry ∈ entries, entry.1 = "mode") :
      IsIdle (.obj entries)
  | group {entries : List (String × Json)} (hkey : HasFieldKey entries)
      (h : ∀ entry ∈ entries, IsIdle entry.2) : IsIdle (.obj entries)

/-- Objects that declare fields and state no condition on any. -/
def DeclaresNothing (value : Json) : Prop :=
  ∃ entries, value = .obj entries ∧ ∀ entry ∈ entries, entry.2.IsIdle

theorem isIdle_iff_of_hasFieldKey {entries : List (String × Json)} (hkey : HasFieldKey entries) :
    (Json.obj entries).IsIdle ↔ ∀ entry ∈ entries, entry.2.IsIdle := by
  refine ⟨?_, .group hkey⟩
  rintro (h | h | ⟨-, h⟩)
  · exact nomatch h
  · obtain ⟨entry, hentry, hmode, -⟩ := hkey
    exact absurd (h entry hentry) hmode
  · exact h

theorem isIdle_iff_of_isFilter {entries : List (String × Json)}
    (hfilter : (Json.obj entries).IsFilter) :
    (Json.obj entries).IsIdle ↔ ∀ entry ∈ entries, entry.1 = "mode" := by
  refine ⟨?_, .filter⟩
  rintro (h | h | ⟨hkey, -⟩)
  · exact nomatch h
  · exact h
  · exact absurd hkey hfilter.not_hasFieldKey

end Json

/-! ### Filters -/

namespace Filter

@[simp]
theorem comparisons_setMode (f : Filter) (mode : Mode) :
    (f.setMode mode).comparisons = f.comparisons := rfl

@[simp]
theorem comparisons_compare (f : Filter) (op : Operator) (operand : Operand) :
    (f.compare op operand).comparisons = f.comparisons ++ [⟨op, operand⟩] := by
  simp [comparisons, compare, push, Condition.comparison?]

/-- An accepted filter compares nothing if it has no entries but connectives. -/
theorem comparisons_eq_nil_iff {entries : List (String × Json)} {f : Filter}
    (h : ofEntries entries = .ok f) :
    f.comparisons = [] ↔ ∀ entry ∈ entries, entry.1 = "mode" := by
  -- from the right: an entry acts on the filter of the entries before it
  induction entries using List.reverseRecOn generalizing f with
  | nil =>
    obtain rfl := Except.ok.inj h
    exact iff_of_true rfl (by simp)
  | append_singleton entries entry ih =>
    obtain ⟨key, value⟩ := entry
    obtain ⟨g, hg, hlast⟩ := ofEntries_append_singleton h
    rw [List.forall_mem_append, List.forall_mem_singleton]
    obtain ⟨mode, rfl, rfl, rfl⟩ | ⟨op, operand, hkey, -, -, rfl⟩ := addEntry_eq_ok hlast
    · rw [comparisons_setMode, ih hg, and_iff_left rfl]
    · rw [comparisons_compare]
      exact iff_of_false (by simp) fun hmode => hkey hmode.2

end Filter

/-! ### Terms -/

/-- A filter gives no predicate if it compares nothing. -/
theorem Term.predicates_filter_eq_nil_iff {f : Filter} {param : String} :
    (Term.filter f).predicates param = [] ↔ f.comparisons = [] := by
  have hempty : f.text param = "" ↔ f.comparisons = [] := Filter.text_eq_empty_iff
  rw [predicates, ← hempty]
  simp

private theorem Terms.predicates_eq_nil_iff_of_ofEntries {entries : List (String × Json)}
    {terms : Terms} {parent : String}
    (hinner : ∀ entry ∈ entries, ∀ {term}, Term.ofJson entry.1 entry.2 = .ok term →
      (term.predicates (fieldPath parent entry.1) = [] ↔ entry.2.IsIdle))
    (h : Terms.ofEntries entries = .ok terms) :
    terms.predicates parent = [] ↔ ∀ entry ∈ entries, entry.2.IsIdle := by
  induction entries generalizing terms with
  | nil =>
    obtain rfl := Except.ok.inj h
    exact iff_of_true rfl (by simp)
  | cons entry entries ih =>
    rw [ofEntries] at h
    obtain ⟨term, hterm, hmore⟩ := Except.bind_eq_ok_iff.mp h
    obtain ⟨others, hothers, hterms⟩ := Except.bind_eq_ok_iff.mp hmore
    obtain rfl := Except.ok.inj hterms
    rw [List.forall_mem_cons] at hinner
    rw [predicates, List.append_eq_nil_iff, hinner.1 hterm, ih hinner.2 hothers,
      List.forall_mem_cons]

/-- The term of an accepted value gives no predicates if the value is idle. -/
theorem Term.predicates_eq_nil_iff {field : String} {value : Json} {term : Term} {param : String}
    (h : Term.ofJson field value = .ok term) : term.predicates param = [] ↔ value.IsIdle := by
  induction value using Json.induction_on_entries generalizing field term param with
  | flat value hflat =>
    rcases ofJson_eq_ok_iff.mp h with hfalsy | - | -
    · exact iff_of_true rfl (.falsy hfalsy)
    · exact absurd rfl (hflat _)
    · exact absurd rfl (hflat _)
  | obj entries ih =>
    rcases ofJson_eq_ok_iff.mp h with hfalsy | hf | ⟨hkey, hfields⟩
    · exact iff_of_true rfl (.falsy hfalsy)
    · rw [predicates_filter_eq_nil_iff, Filter.comparisons_eq_nil_iff hf,
        Json.isIdle_iff_of_isFilter (Filter.exists_ofEntries_iff.mp ⟨_, hf⟩)]
    · rw [predicates, Json.isIdle_iff_of_hasFieldKey hkey]
      exact Terms.predicates_eq_nil_iff_of_ofEntries (fun entry hentry _ => ih entry hentry) hfields

/-- **Terms give no predicates** exactly if they declare nothing but idle fields. -/
theorem Terms.predicates_eq_nil_iff {value : Json} {terms : Terms} (root : String)
    (h : Terms.ofJson value = .ok terms) :
    terms.predicates root = [] ↔ value.DeclaresNothing := by
  rcases value with _ | _ | _ | _ | _ | _ | entries
  case obj =>
    rw [predicates_eq_nil_iff_of_ofEntries (fun _ _ _ => Term.predicates_eq_nil_iff) h]
    simp [Json.DeclaresNothing]
  all_goals exact absurd h (by simp [ofJson])

/-- Connectives state no condition, and groups may be nested. -/
example :
    let filter : Json := .obj [("mode", .str "OR")]
    let terms := Terms.ofJson (.obj [("a", filter), ("b", .obj [("c", filter), ("d", .null)])])
    terms.toOption.map (Terms.predicates "i") = some [] := by
  decide

end DocQuery
