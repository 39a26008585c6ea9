import DocQuery.Collection.Plan
import Mathlib.Data.List.Forall2

/-!
# Requests that differ in bound data

Fragments are alike if they have the same text and pass as many values and names of collections in
the same places, whatever these are. Requests are alike if they ask for the same and their
fragments are alike, and collections are alike if they differ in their names. Alike requests on
alike collections give queries with the same text and the same variables, so bound data shows up
in the contents of variables and nowhere else (`Collection.countQuery_alike`,
`Collection.findQuery_alike`, `Collection.searchQuery_alike`).

What is numbered is the place of a part, not what is in it. So the variables of alike sequences of
parts agree from any number on (`wordsFrom_eq`, `names_bindingsFrom_eq`), and every operation on
fragments keeps them alike.
-/

namespace DocQuery

/-! ### Parts -/

/-- Parts that differ at most in what they pass beside the text. -/
inductive Part.Alike : Part → Part → Prop
  | literal (text : String) : Alike (.literal text) (.literal text)
  | value (v w : Json) : Alike (.value v) (.value w)
  | collection (m n : String) : Alike (.collection m) (.collection n)

namespace Part.Alike

variable {p q : Part}

theorem next_eq (h : p.Alike q) (n : Nat) : p.next n = q.next n := by
  cases h <;> rfl

/-- Alike parts put the same word into the text. -/
theorem word_eq (h : p.Alike q) (n : Nat) : p.word n = q.word n := by
  cases h <;> rfl

/-- Alike parts pass something under the same name. -/
theorem name_binding?_eq (h : p.Alike q) (n : Nat) :
    (p.binding? n).map Prod.fst = (q.binding? n).map Prod.fst := by
  cases h <;> rfl

end Part.Alike

/-! ### Fragments and their queries -/

/-- Queries with the same text and the same variables, in the same order. -/
structure Query.Alike (q q' : Query) : Prop where
  text : q.text = q'.text
  names : q.bindVars.map Prod.fst = q'.bindVars.map Prod.fst

theorem Query.Alike.length_bindVars {q q' : Query} (h : q.Alike q') :
    q.bindVars.length = q'.bindVars.length := by
  have hnames := congrArg List.length h.names
  rwa [List.length_map, List.length_map] at hnames

/-- Fragments with alike parts, one by one. -/
def Fragment.Alike (f g : Fragment) : Prop :=
  List.Forall₂ Part.Alike f.parts g.parts

namespace Fragment

theorem wordsFrom_eq {ps qs : List Part} (h : List.Forall₂ Part.Alike ps qs) (n : Nat) :
    wordsFrom n ps = wordsFrom n qs := by
  induction h generalizing n with
  | nil => rfl
  | cons hpart hrest ih => rw [wordsFrom, wordsFrom, hpart.word_eq, hpart.next_eq, ih]

theorem names_bindingsFrom_eq {ps qs : List Part} (h : List.Forall₂ Part.Alike ps qs) (n : Nat) :
    (bindingsFrom n ps).map Prod.fst = (bindingsFrom n qs).map Prod.fst := by
  induction h generalizing n with
  | nil => rfl
  | cons hpart hrest ih =>
    rw [bindingsFrom, bindingsFrom, List.map_append, List.map_append, ← Option.toList_map,
      ← Option.toList_map, hpart.name_binding?_eq, hpart.next_eq, ih]

namespace Alike

variable {f g : Fragment}

/-- **Alike fragments stand for alike queries.** -/
theorem query (h : f.Alike g) : f.query.Alike g.query where
  text := by rw [Fragment.query, Fragment.query, wordsFrom_eq h]
  names := names_bindingsFrom_eq h 0

theorem append {f' g' : Fragment} (h : f.Alike g) (h' : f'.Alike g') :
    (f.append f').Alike (g.append g') :=
  List.rel_append h h'

theorem appendOption {o o' : Option Fragment} (h : f.Alike g)
    (ho : Option.Rel Fragment.Alike o o') : (f.appendOption o).Alike (g.appendOption o') := by
  cases ho with
  | none => exact h
  | some h' => exact h.append h'

theorem literal (h : f.Alike g) (text : String) : (f.literal text).Alike (g.literal text) := by
  rw [Alike, parts_literal, parts_literal]
  refine List.rel_append h ?_
  split_ifs
  · exact .nil
  · exact .cons (.literal _) .nil

theorem collection (h : f.Alike g) (m n : String) :
    (f.collection m).Alike (g.collection n) :=
  List.rel_append h (.cons (.collection m n) .nil)

end Alike

end Fragment

/-! ### Requests -/

/-- Injected fragments that are alike in each place. -/
structure Injection.Alike (i j : Injection) : Prop where
  beforeFilter : Option.Rel Fragment.Alike i.beforeFilter j.beforeFilter
  beforeSort : Option.Rel Fragment.Alike i.beforeSort j.beforeSort
  beforeLimit : Option.Rel Fragment.Alike i.beforeLimit j.beforeLimit
  after : Option.Rel Fragment.Alike i.after j.after

/-- Requests for the same, with alike fragments. -/
structure Request.Alike (r r' : Request) : Prop where
  terms : r.terms = r'.terms
  sort : r.sort = r'.sort
  limit : r.limit = r'.limit
  injection : r.injection.Alike r'.injection

namespace Collection

variable {α : Type} {c d : Collection α} {r r' : Request}

/-- Collections that differ at most in their names. -/
structure Alike (c d : Collection α) : Prop where
  config : c.config = d.config
  decode : c.decode = d.decode

theorem matching_alike (hc : c.Alike d) (hr : r.Alike r') :
    (c.matching r).Alike (d.matching r') := by
  rw [matching, matching, hc.config, hr.terms]
  have hempty : ({} : Fragment).Alike {} := .nil
  have hnamed := (hempty.literal (forClause d.config.rootAlias)).collection c.name d.name
  exact (hnamed.appendOption hr.injection.beforeFilter).literal _

theorem countQuery_alike (hc : c.Alike d) (hr : r.Alike r') :
    (c.countQuery r).Alike (d.countQuery r') := by
  rw [countQuery, countQuery, hc.config]
  have hlimited := (matching_alike hc hr).appendOption hr.injection.beforeLimit
  exact ((hlimited.appendOption hr.injection.after).literal _).query

theorem fetchQuery_alike (hc : c.Alike d) (hr : r.Alike r') (keys : List SortKey)
    (limit : String) : (c.fetchQuery r keys limit).Alike (d.fetchQuery r' keys limit) := by
  rw [fetchQuery, fetchQuery, hc.config]
  have hsorted := ((matching_alike hc hr).appendOption hr.injection.beforeSort).literal
    (sortClause d.config.rootAlias keys)
  have hlimited := (hsorted.appendOption hr.injection.beforeLimit).literal limit
  exact ((hlimited.appendOption hr.injection.after).literal _).query

theorem findQuery_alike (hc : c.Alike d) (hr : r.Alike r') :
    (c.findQuery r).Alike (d.findQuery r') := by
  rw [findQuery, findQuery, hc.config, hr.sort]
  exact fetchQuery_alike hc hr _ _

theorem searchQuery_alike (hc : c.Alike d) (hr : r.Alike r') :
    (c.searchQuery r).Alike (d.searchQuery r') := by
  rw [searchQuery, searchQuery, hc.config, hr.sort, hr.limit]
  exact fetchQuery_alike hc hr _ _

end Collection

end DocQuery
