import DocQuery.Config.OfTree
import DocQuery.Toml.Reader

/-!
# Settings in TOML

Settings are kept in a TOML file. A missing file means the defaults.
-/

namespace DocQuery

/-- Why there are no settings. -/
inductive ConfigError where
  /-- The file cannot be read as text. -/
  | unreadable
  /-- The text describes no settings. -/
  | malformed
  deriving DecidableEq, Repr

namespace Config

mutual

/-- A TOML value as a settings document. -/
def Tree.ofToml : Toml.Value → Tree
  | .text s => .text s
  | .plain representable => .plain representable
  | .list items => .list (Tree.ofTomlItems items)
  | .table entries => .table (Tree.ofTomlEntries entries)

def Tree.ofTomlItems : List Toml.Value → List Tree
  | [] => []
  | v :: rest => Tree.ofToml v :: Tree.ofTomlItems rest

def Tree.ofTomlEntries : List (String × Toml.Value) → List (String × Tree)
  | [] => []
  | (key, v) :: rest => (key, Tree.ofToml v) :: Tree.ofTomlEntries rest

end

/-- Extra items of a record by position are passed over, and an empty table or list stands under a
word that is meant alone. -/
def tomlDialect : Dialect where
  refusesExtra := false
  isUnit
    | .table [] => true
    | .list [] => true
    | _ => false

/-- The settings that a TOML text describes. -/
def ofToml (text : String) : Except ConfigError Config :=
  match (Toml.read? text).bind fun v => ofTree? tomlDialect (Tree.ofToml v) with
  | some config => .ok config
  | none => .error .malformed

/-- What there is under the name of a settings file. -/
inductive File where
  | missing
  | directory
  | bytes (content : ByteArray)

/-- The settings of a file. -/
def ofFile : File → Except ConfigError Config
  | .missing => .ok {}
  | .directory => .error .unreadable
  | .bytes content =>
    match String.fromUTF8? content with
    | some text => ofToml text
    | none => .error .unreadable

end Config

end DocQuery
