import DocQuery.Config.Basic
import DocQuery.Document.Decoder

/-!
# Collections

A collection is known by its name, the settings of the queries on it, and the type of its
documents.
-/

namespace DocQuery

/-- A collection whose documents have type `α`. -/
structure Collection (α : Type) where
  name : String
  config : Config := {}
  decode : Decoder α

namespace Collection

variable {α β : Type}

/-- The collection of this name, with documents of any shape. -/
def named (name : String) : Collection Json :=
  ⟨name, {}, .json⟩

/-- Chooses what queries call a document. -/
def withRoot (c : Collection α) (root : String) : Collection α :=
  { c with config := { c.config with rootAlias := root } }

/-- Chooses what queries call a document and the number of documents. -/
def withAliases (c : Collection α) (root count : String) : Collection α :=
  { c with config := { c.config with rootAlias := root, countAlias := count } }

/-- Takes over all settings. -/
def withConfig (c : Collection α) (config : Config) : Collection α :=
  { c with config }

/-- Reads documents by another decoder. -/
def typed (c : Collection α) (decode : Decoder β) : Collection β :=
  { c with decode }

end Collection

end DocQuery
