import DocQuery.Json.Basic
import DocQuery.Text

/-!
# Queries and their fragments

A query is what a database receives: text, and the values of the variables that occur in it.

A fragment is a sequence of parts: trusted text that goes into the query as it is, values, and
names of collections. Values and names never become text. `Fragment.query` puts a variable in
their place, `@valueN` for a value and `@@valueN` for a collection, where `N` counts the values
and names before it, and hands their contents over beside the text.

Each operation is described by what it does to the parts (`parts_literal`, `parts_append`), and
words and variables of two sequences of parts are those of the first and then those of the second,
counted on from the first (`wordsFrom_append`, `bindingsFrom_append`).
-/

namespace DocQuery

/-- A query as it is sent. The variables keep the order in which the text mentions them. -/
structure Query where
  text : String
  bindVars : List (String × Json)
  deriving Inhabited, Repr

/-- Equal text and equal variables, in whatever order. -/
instance : BEq Query :=
  ⟨fun a b => a.text == b.text && Json.obj a.bindVars == Json.obj b.bindVars⟩

/-- The query as an object. -/
def Query.toJson (q : Query) : Json :=
  .obj [("query", .str q.text), ("bindVars", .obj q.bindVars)]

/-- A piece of a fragment. -/
inductive Part where
  /-- Trusted text. -/
  | literal (text : String)
  /-- A value, passed beside the text. -/
  | value (v : Json)
  /-- The name of a collection, passed beside the text. -/
  | collection (name : String)
  deriving BEq, Inhabited, Repr

namespace Part

/-- Whether a variable stands for the part. -/
def isBound : Part → Bool
  | .literal _ => false
  | .value _ => true
  | .collection _ => true

/-- The number of variables after a part with `n` before it. -/
def next (n : Nat) (p : Part) : Nat :=
  if p.isBound then n + 1 else n

/-- The name that the variables of number `n` share. -/
def variableName (n : Nat) : String :=
  "value" ++ n.repr

/-- What the part puts into the text, with `n` variables before it. -/
def word (n : Nat) : Part → String
  | .literal text => text
  | .value _ => "@" ++ variableName n
  | .collection _ => "@@" ++ variableName n

/-- What the part passes beside the text, with `n` variables before it. -/
def binding? (n : Nat) : Part → Option (String × Json)
  | .literal _ => none
  | .value v => some (variableName n, v)
  | .collection name => some ("@" ++ variableName n, .str name)

end Part

/-- A sequence of parts. -/
structure Fragment where
  parts : List Part := []
  deriving BEq, Inhabited, Repr

namespace Fragment

/-- Adds trusted text, without blanks at its ends. Blank text adds nothing. -/
def literal (f : Fragment) (text : String) : Fragment :=
  if Text.trim text = "" then f else ⟨f.parts ++ [.literal (Text.trim text)]⟩

/-- Adds a value. -/
def value (f : Fragment) (v : Json) : Fragment :=
  ⟨f.parts ++ [.value v]⟩

/-- Adds the name of a collection. -/
def collection (f : Fragment) (name : String) : Fragment :=
  ⟨f.parts ++ [.collection name]⟩

/-- The parts of one fragment and then those of another. -/
def append (f g : Fragment) : Fragment :=
  ⟨f.parts ++ g.parts⟩

/-- Appends a fragment if there is one. -/
def appendOption (f : Fragment) : Option Fragment → Fragment
  | some g => f.append g
  | none => f

instance : Append Fragment := ⟨append⟩

def isEmpty (f : Fragment) : Bool :=
  f.parts.isEmpty

theorem parts_literal (f : Fragment) (text : String) :
    (f.literal text).parts =
      f.parts ++ if Text.trim text = "" then [] else [.literal (Text.trim text)] := by
  unfold literal
  split <;> simp

@[simp]
theorem parts_value (f : Fragment) (v : Json) : (f.value v).parts = f.parts ++ [.value v] := rfl

@[simp]
theorem parts_collection (f : Fragment) (name : String) :
    (f.collection name).parts = f.parts ++ [.collection name] := rfl

@[simp]
theorem parts_append (f g : Fragment) : (f.append g).parts = f.parts ++ g.parts := rfl

@[simp]
theorem parts_appendOption_some (f g : Fragment) :
    (f.appendOption (some g)).parts = f.parts ++ g.parts := rfl

@[simp]
theorem parts_appendOption_none (f : Fragment) : (f.appendOption none).parts = f.parts := rfl

/-! ### Words and variables -/

/-- The number of variables after parts with `n` before them. -/
def countFrom (n : Nat) (parts : List Part) : Nat :=
  parts.foldl Part.next n

/-- The words of parts with `n` variables before them. -/
def wordsFrom (n : Nat) : List Part → List String
  | [] => []
  | p :: rest => p.word n :: wordsFrom (p.next n) rest

/-- The variables of parts with `n` variables before them. -/
def bindingsFrom (n : Nat) : List Part → List (String × Json)
  | [] => []
  | p :: rest => (p.binding? n).toList ++ bindingsFrom (p.next n) rest

theorem wordsFrom_append (n : Nat) (ps qs : List Part) :
    wordsFrom n (ps ++ qs) = wordsFrom n ps ++ wordsFrom (countFrom n ps) qs := by
  induction ps generalizing n with
  | nil => rfl
  | cons p ps ih => simp [wordsFrom, countFrom, ih]

theorem bindingsFrom_append (n : Nat) (ps qs : List Part) :
    bindingsFrom n (ps ++ qs) = bindingsFrom n ps ++ bindingsFrom (countFrom n ps) qs := by
  induction ps generalizing n with
  | nil => rfl
  | cons p ps ih => simp [bindingsFrom, countFrom, ih]

/-- Parts add one to the count of variables for each variable they pass. -/
theorem countFrom_eq (n : Nat) (parts : List Part) :
    countFrom n parts = n + (bindingsFrom n parts).length := by
  induction parts generalizing n with
  | nil => rfl
  | cons p parts ih =>
    rw [countFrom, List.foldl_cons, ← countFrom, ih, bindingsFrom, List.length_append]
    cases p <;> simp [Part.next, Part.isBound, Part.binding?, Nat.add_assoc]

/-- The query that a fragment stands for: its words with single blanks between them. -/
def query (f : Fragment) : Query :=
  ⟨String.intercalate " " (wordsFrom 0 f.parts), bindingsFrom 0 f.parts⟩

end Fragment

end DocQuery
