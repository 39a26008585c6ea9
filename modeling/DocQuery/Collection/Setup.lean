import DocQuery.Collection.Basic

/-!
# Setting up a collection

What can be settled about a collection before requests are made, as data. Later steps win over
earlier ones.
-/

namespace DocQuery

/-- One decision about a collection. -/
inductive Setup (α : Type) where
  /-- What queries call a document. -/
  | root (name : String)
  /-- What queries call a document and the number of documents. -/
  | aliases (root count : String)
  | config (config : Config)
  | decoder (decode : Decoder α)

namespace Collection

variable {α : Type}

/-- The collection after one more decision. -/
def apply (c : Collection α) : Setup α → Collection α
  | .root name => c.withRoot name
  | .aliases root count => c.withAliases root count
  | .config config => c.withConfig config
  | .decoder decode => c.typed decode

/-- The collection after more decisions. -/
def setUp (c : Collection α) (steps : List (Setup α)) : Collection α :=
  steps.foldl apply c

end Collection

end DocQuery
