import DocQuery.Proofs.Filter.Accepted
import DocQuery.Terms.OfJson
import Mathlib.Data.List.Induction

/-!
# Compiling JSON terms in one pass

A compiler that goes from JSON to predicates without terms in between. It visits the entries of an
object in order, passes over empty values, tells filters from terms on inner fields by their keys,
and writes each comparison where it finds it. It has its own table of operators, its own test for
empty values and its own literals, and shares only the layout of floats with the decoder.

`Terms.predicates_ofJson` says that decoding terms and then compiling them gives the same list
whenever the JSON is accepted. The filter part is by induction on the entries from the right,
because the decoder collects conditions at the end and lets a later connective replace an earlier
one; the rest follows the nesting of objects.
-/

namespace DocQuery

namespace OnePass

/-! ### Literals -/

/-- The literal of a value in a list or on its own. Lists and objects have none here. -/
def scalarLiteral : Json → String
  | .null => "null"
  | .bool true => "true"
  | .bool false => "false"
  | .int n =>
    -- beyond 64 bits with sign, numbers are floats
    if -9223372036854775808 ≤ n ∧ n ≤ 9223372036854775807 then n.repr
    else Scalar.floatLayout.write (.ofInt n)
  | .double x => Scalar.floatLayout.write x
  | .str s => "\"" ++ s ++ "\""
  | .arr _ => ""
  | .obj _ => ""

/-- The literal of a scalar or of a flat list of scalars. -/
def literal : Json → String
  | .arr items => "[" ++ ",".intercalate (items.map scalarLiteral) ++ "]"
  | value => scalarLiteral value

/-! ### Filters -/

/-- The symbols of the operators by their names in JSON. -/
def symbols : List (String × String) :=
  [("eq", "=="), ("gt", ">"), ("gte", ">="), ("in", "IN"), ("like", "LIKE"), ("lt", "<"),
    ("lte", "<="), ("neq", "!="), ("nin", "NOT IN"), ("nlike", "NOT LIKE"), ("nreg", "!~"),
    ("reg", "=~")]

/-- The comparison that an entry of a filter makes. The connective makes none. -/
def comparison? (param : String) (entry : String × Json) : Option String :=
  if entry.1 = "mode" then none
  else (symbols.lookup entry.1).map fun symbol =>
    param ++ " " ++ symbol ++ " " ++ literal entry.2

/-- The connective of a filter: `AND`, unless the last entry that names one says `OR`. -/
def connective (entries : List (String × Json)) : String :=
  match entries.reverse.lookup "mode" with
  | some (.str "OR") => "OR"
  | _ => "AND"

/-- The comparisons of a filter with the connective in between. -/
def filterText (param : String) (entries : List (String × Json)) : String :=
  (" " ++ connective entries ++ " ").intercalate (entries.filterMap (comparison? param))

/-! ### Terms -/

/-- The values that only declare a field. -/
def isEmpty : Json → Bool
  | .null | .bool false | .int 0 | .str "" => true
  | .double x => x == 0
  | _ => false

/-- Some key belongs to no filter, so the keys are names of inner fields. -/
def holdsFields (entries : List (String × Json)) : Bool :=
  entries.any fun entry => entry.1 ≠ "mode" && (symbols.lookup entry.1).isNone

mutual

/-- The predicates of the value of a field, where `param` is the way to the field. -/
def ofValue (param : String) : Json → List String
  | .obj entries =>
    if holdsFields entries then ofFields param entries
    else if filterText param entries = "" then [] else [filterText param entries]
  | _ => []

/-- The predicates of the entries of an object, where `parent` is the way to the object. -/
def ofFields (parent : String) : List (String × Json) → List String
  | [] => []
  | (field, value) :: rest =>
    (if isEmpty value then [] else ofValue (parent ++ "." ++ field) value) ++
      ofFields parent rest

end

/-- The predicates of JSON terms on the fields of `parent`. -/
def compile (parent : String) : Json → List String
  | .obj entries => ofFields parent entries
  | _ => []

/-! ### Agreement with the decoder -/

/-- Both tables of operators hold the same symbols under the same names. -/
theorem lookup_symbols (key : String) :
    symbols.lookup key = (Operator.find? key).map Operator.symbol := by
  have htable : symbols = Operator.all.map fun op => (op.name, op.symbol) := rfl
  rw [htable, Operator.find?]
  induction Operator.all with
  | nil => rfl
  | cons op ops ih =>
    by_cases hkey : key = op.name
    · simp [hkey]
    · have hlookup : (key == op.name) = false := by simpa using hkey
      have hfind : (op.name == key) = false := by simpa using Ne.symm hkey
      simp [List.lookup_cons, hlookup, hfind, ih]

theorem scalarLiteral_eq {value : Json} {scalar : Scalar} (h : Scalar.ofJson value = .ok scalar) :
    scalarLiteral value = scalar.text := by
  cases value with
  | null =>
    obtain rfl := Except.ok.inj h
    rfl
  | bool b =>
    obtain rfl := Except.ok.inj h
    cases b <;> rfl
  | int n =>
    rw [Scalar.ofJson_int] at h
    obtain rfl := Except.ok.inj h
    have hfits : Scalar.fits n ↔ -9223372036854775808 ≤ n ∧ n ≤ 9223372036854775807 := by
      rw [Scalar.fits, Bool.and_eq_true, decide_eq_true_eq, decide_eq_true_eq]
      omega
    by_cases hn : -9223372036854775808 ≤ n ∧ n ≤ 9223372036854775807
    · rw [if_pos (hfits.mpr hn), scalarLiteral, if_pos hn]
      rfl
    · rw [if_neg (mt hfits.mp hn), scalarLiteral, if_neg hn]
      rfl
  | double x =>
    obtain rfl := Except.ok.inj h
    rfl
  | str s =>
    obtain rfl := Except.ok.inj h
    rfl
  | arr items => exact absurd h (by simp [Scalar.ofJson])
  | obj entries => exact absurd h (by simp [Scalar.ofJson])

/-- The operand of an accepted value has the value's literal for a text. -/
theorem literal_eq {value : Json} {operand : Operand} (h : Operand.ofJson value = .ok operand) :
    literal value = operand.text := by
  have hscalar (v : Json) (hv : (Scalar.ofJson v).map Operand.scalar = .ok operand) :
      scalarLiteral v = operand.text := by
    obtain ⟨scalar, hscalar, rfl⟩ := Except.map_eq_ok_iff.mp hv
    exact scalarLiteral_eq hscalar
  cases value with
  | arr items =>
    obtain ⟨scalars, hitems, rfl⟩ := Except.map_eq_ok_iff.mp h
    have htexts : items.map scalarLiteral = scalars.map Scalar.text := by
      have hall := (List.mapM_eq_ok_iff.mp hitems).imp fun _ _ => scalarLiteral_eq
      rwa [← List.forall₂_eq_eq_eq, List.forall₂_map_left_iff, List.forall₂_map_right_iff]
    rw [literal, htexts]
    rfl
  | null => exact hscalar .null h
  | bool b => exact hscalar (.bool b) h
  | int n => exact hscalar (.int n) h
  | double x => exact hscalar (.double x) h
  | str s => exact hscalar (.str s) h
  | obj entries => exact hscalar (.obj entries) h

/-- **An accepted filter** has the comparisons and the connective that its entries spell. -/
theorem filter_eq {entries : List (String × Json)} {f : Filter}
    (h : Filter.ofEntries entries = .ok f) (param : String) :
    f.conditions.filterMap (·.text? param) = entries.filterMap (comparison? param) ∧
      f.mode.word = connective entries := by
  -- from the right: an entry acts on the filter of the entries before it
  induction entries using List.reverseRecOn generalizing f with
  | nil =>
    obtain rfl := Except.ok.inj h
    exact ⟨rfl, rfl⟩
  | append_singleton entries entry ih =>
    obtain ⟨key, value⟩ := entry
    obtain ⟨g, hg, hlast⟩ := Filter.ofEntries_append_singleton h
    obtain ⟨htexts, hmode⟩ := ih hg
    rw [List.filterMap_append, ← htexts]
    obtain ⟨mode, rfl, rfl, rfl⟩ | ⟨op, operand, hkey, hop, hoperand, rfl⟩ :=
      Filter.addEntry_eq_ok hlast
    · -- a connective replaces the one before and leaves the comparisons alone
      refine ⟨by simp [Filter.setMode, comparison?], ?_⟩
      cases mode <;> simp [Filter.setMode, connective, Mode.word]
    · have hlookup : symbols.lookup key = some op.symbol := by
        rw [lookup_symbols, hop]
        rfl
      refine ⟨?_, ?_⟩
      · simp [Filter.compare, Filter.push, comparison?, hkey, hlookup, Condition.text?,
          literal_eq hoperand]
      · have hmodeKey : ("mode" == key) = false := by simpa using Ne.symm hkey
        rw [connective, List.reverse_append, List.reverse_singleton, List.singleton_append,
          List.lookup_cons, hmodeKey]
        exact hmode

theorem filterText_eq {entries : List (String × Json)} {f : Filter}
    (h : Filter.ofEntries entries = .ok f) (param : String) :
    filterText param entries = f.text param := by
  obtain ⟨htexts, hmode⟩ := filter_eq h param
  rw [filterText, Filter.text, htexts, hmode]

/-- Both tell filters from terms on inner fields in the same way. -/
theorem holdsFields_eq (entries : List (String × Json)) :
    holdsFields entries = Terms.areFields entries := by
  have htest : (fun entry : String × Json => decide (entry.1 ≠ "mode") &&
      (symbols.lookup entry.1).isNone) = fun entry => !Filter.isKey entry.1 := by
    funext entry
    rw [lookup_symbols]
    simp [Filter.isKey, Filter.modeKey, Operator.isName, Bool.beq_eq_decide_eq]
  rw [holdsFields, Terms.areFields, htest]

theorem isEmpty_eq (value : Json) : isEmpty value = value.isFalsy := by
  cases value with
  | bool b => cases b <;> rfl
  | int n =>
    by_cases hn : n = 0
    · subst hn
      rfl
    · simp [isEmpty, Json.isFalsy, hn]
  | str s =>
    by_cases hs : s = ""
    · subst hs
      rfl
    · simp [isEmpty, Json.isFalsy, hs]
  | _ => rfl

/-- A value that is no object is accepted only if it is empty. -/
private theorem skipped_eq (field : String) {value : Json} {term : Term} (param : String)
    (h : (if value.isFalsy then .ok .skip else .error (.notField field value)) =
      (.ok term : Except CompileError Term)) :
    (if isEmpty value then [] else ofValue param value) = term.predicates param := by
  split_ifs at h with hfalsy
  obtain rfl := Except.ok.inj h
  rw [isEmpty_eq, if_pos hfalsy]
  rfl

mutual

private theorem ofValue_eq (field : String) : ∀ {value : Json} {term : Term} (param : String),
    Term.ofJson field value = .ok term →
      (if isEmpty value then [] else ofValue param value) = term.predicates param
  | .obj entries, term, param, h => by
    rw [Term.ofJson] at h
    rw [ofValue, holdsFields_eq]
    split_ifs at h with hfields
    · obtain ⟨terms, hterms, rfl⟩ := Except.map_eq_ok_iff.mp h
      simp [isEmpty, hfields, Term.predicates, ofFields_eq param hterms]
    · obtain ⟨f, hf, rfl⟩ := Except.map_eq_ok_iff.mp h
      simp [isEmpty, hfields, Term.predicates, filterText_eq hf param]
  | .null, _, param, h | .bool _, _, param, h | .int _, _, param, h | .double _, _, param, h
  | .str _, _, param, h | .arr _, _, param, h => skipped_eq field param h

private theorem ofFields_eq (parent : String) : ∀ {entries : List (String × Json)} {terms : Terms},
    Terms.ofEntries entries = .ok terms → ofFields parent entries = terms.predicates parent
  | [], terms, h => by
    obtain rfl := Except.ok.inj h
    rfl
  | (field, value) :: rest, terms, h => by
    rw [Terms.ofEntries] at h
    obtain ⟨term, hterm, hmore⟩ := Except.bind_eq_ok_iff.mp h
    obtain ⟨others, hothers, hterms⟩ := Except.bind_eq_ok_iff.mp hmore
    obtain rfl := Except.ok.inj hterms
    rw [ofFields, Terms.predicates, ofValue_eq field (parent ++ "." ++ field) hterm,
      ofFields_eq parent hothers]
    rfl

end

end OnePass

/-- **Decoding and compiling agree with compiling in one pass**, on all JSON terms that are
accepted, however deeply nested and wherever their fields belong. -/
theorem Terms.predicates_ofJson {j : Json} {terms : Terms} (h : Terms.ofJson j = .ok terms)
    (parent : String) : terms.predicates parent = OnePass.compile parent j := by
  cases j with
  | obj entries => exact (OnePass.ofFields_eq parent h).symm
  | _ => exact absurd h (by simp [ofJson])

/-- Names of operators and `mode` also go for fields, and a late connective counts for all. -/
theorem Terms.predicates_ofJson_fields_named_like_keys :
    let j : Json := .obj [
      ("mode", .obj [("gt", .int 5), ("in", .arr [.null, .str "a b"]), ("mode", .str "OR")]),
      ("gone", .double (-0.0)),
      ("eq", .obj [("mode", .obj [("reg", .str "^x")]), ("lt", .obj []), ("inner", .null)])]
    ∃ terms, Terms.ofJson j = .ok terms ∧
      terms.predicates "i" = OnePass.compile "i" j ∧
      OnePass.compile "i" j =
        ["i.mode > 5 OR i.mode IN [null,\"a b\"]", "i.eq.mode =~ \"^x\""] :=
  ⟨_, rfl, Terms.predicates_ofJson rfl "i", rfl⟩

end DocQuery
