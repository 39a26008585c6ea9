/-!
# TOML values and how tables come about

Text, lists and tables keep their content. Of numbers, truth values and dates only one thing is
kept: whether they can be represented.

Each table may be defined once. What may still be added to a table depends on how it came about,
so a document is built from items that remember it. Tables in headers and in dotted keys are found
or made on the way, and both lead through the last table that a repeated header made. A header may
return to a table that so far was only passed through, and a dotted key may add to a table that
dotted keys made.
-/

namespace DocQuery.Toml

/-- A value in a TOML document. -/
inductive Value where
  | text (s : String)
  /-- A number, truth value or date. Whole numbers beyond 128 bits, floats beyond the finite ones
  and numbers that miss digits are not representable. -/
  | plain (representable : Bool)
  | list (items : List Value)
  | table (entries : List (String × Value))
  deriving Inhabited, Repr

/-- How a table came about. -/
inductive Origin where
  /-- It has a header of its own. -/
  | header
  /-- The header of a table inside it passed through it. -/
  | passed
  /-- It stands in front of a dot in a key. -/
  | dotted
  deriving DecidableEq, Repr

/-- What stands under a key while a document is built. -/
inductive Item where
  /-- A value, to which nothing can be added. -/
  | value (v : Value)
  | table (origin : Origin) (entries : List (String × Item))
  /-- The tables with one repeated header, the last one first. -/
  | tables (elements : List (List (String × Item)))
  deriving Inhabited, Repr

/-- Keys and what stands under them. -/
abbrev Items := List (String × Item)

namespace Items

/-- What stands under a key. -/
def lookup (key : String) : Items → Option Item
  | [] => none
  | (k, item) :: rest => if k = key then some item else lookup key rest

/-- Puts another item under a key. -/
def replace (key : String) (item : Item) (items : Items) : Items :=
  items.map fun entry => if entry.1 = key then (key, item) else entry

/-- Changes the table that a header leads to. Tables on the way are made if they are missing, and
a repeated header leads to the last table it made. -/
def inTable (change : Items → Option Items) : List String → Items → Option Items
  | [], items => change items
  | key :: path, items =>
    match items.lookup key with
    | none => (inTable change path []).map fun inner => items ++ [(key, .table .passed inner)]
    | some (.table origin inner) =>
      (inTable change path inner).map fun inner => items.replace key (.table origin inner)
    | some (.tables (last :: others)) =>
      (inTable change path last).map fun last => items.replace key (.tables (last :: others))
    | some _ => none

/-- Gives a table a header of its own. -/
def define (key : String) (items : Items) : Option Items :=
  match items.lookup key with
  | none => some (items ++ [(key, .table .header [])])
  | some (.table .passed inner) => some (items.replace key (.table .header inner))
  | some _ => none

/-- Begins one more table under a repeated header. -/
def addElement (key : String) (items : Items) : Option Items :=
  match items.lookup key with
  | none => some (items ++ [(key, .tables [[]])])
  | some (.tables elements) => some (items.replace key (.tables ([] :: elements)))
  | some _ => none

/-- Puts a value under a dotted key. The tables on the way must not have a header of their own, and
the last of them must have been made by dotted keys. -/
def assign (v : Value) (key : String) : List String → Items → Option Items
  | [], items =>
    match items.lookup key with
    | none => some (items ++ [(key, .value v)])
    | some _ => none
  | first :: path, items =>
    match items.lookup first with
    | none =>
      (assign v key path []).map fun inner => items ++ [(first, .table .dotted inner)]
    | some (.table origin inner) =>
      if origin = .header || (path.isEmpty && origin = .passed) then none
      else (assign v key path inner).map fun inner => items.replace first (.table origin inner)
    | some (.tables (last :: others)) =>
      if path.isEmpty then none
      else (assign v key path last).map fun last => items.replace first (.tables (last :: others))
    | some _ => none

end Items

mutual

/-- The value that an item has in the finished document. -/
def Item.toValue : Item → Value
  | .value v => v
  | .table _ entries => .table (Items.toEntries entries)
  | .tables elements => .list (Items.toList elements).reverse

def Items.toEntries : List (String × Item) → List (String × Value)
  | [] => []
  | (key, item) :: rest => (key, item.toValue) :: Items.toEntries rest

def Items.toList : List (List (String × Item)) → List Value
  | [] => []
  | entries :: rest => .table (Items.toEntries entries) :: Items.toList rest

end

end DocQuery.Toml
