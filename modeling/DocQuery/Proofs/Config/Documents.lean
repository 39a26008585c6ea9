import DocQuery.Config.Json
import DocQuery.Proofs.ForMathlib
import DocQuery.Proofs.Json.Lookup
import Mathlib.Data.Finset.Basic

/-!
# Documents that name some of the settings

A document may hold any of the four settings (`Config.Field`), in any order and among keys that
are no settings; the sort keys in it may leave out that they are ascending, and may have other
keys too (`SortKey.WrittenAs`, `Config.WrittenAs`). Reading is the inverse of writing up to these
choices: what is read agrees with what was written where the document says something, and with the
defaults elsewhere (`Config.only`, `Config.read_written`).
-/

namespace DocQuery

open Config (Tree jsonDialect)

namespace Config.Tree

/-! ### Documents from JSON -/

theorem ofItems_eq_map (items : List Json) : ofItems items = items.map ofJson := by
  induction items with
  | nil => rfl
  | cons v items ih => rw [ofItems, ih, List.map_cons]

theorem ofEntries_eq_map (entries : List (String × Json)) :
    ofEntries entries = entries.map fun entry => (entry.1, ofJson entry.2) := by
  induction entries with
  | nil => rfl
  | cons first entries ih => rw [ofEntries, ih, List.map_cons]

mutual

/-- What JSON can write down can be represented. -/
theorem isReadable_ofJson : ∀ v : Json, (ofJson v).isReadable = true
  | .null | .bool _ | .int _ | .double _ | .str _ => rfl
  | .arr items => by rw [ofJson, isReadable, areReadable_ofItems items]
  | .obj entries => by rw [ofJson, isReadable, entriesReadable_ofEntries entries]

theorem areReadable_ofItems : ∀ items : List Json, areReadable (ofItems items) = true
  | [] => rfl
  | v :: items => by
    rw [ofItems, areReadable, isReadable_ofJson v, areReadable_ofItems items, Bool.and_self]

theorem entriesReadable_ofEntries :
    ∀ entries : List (String × Json), entriesReadable (ofEntries entries) = true
  | [] => rfl
  | (_, v) :: entries => by
    rw [ofEntries, entriesReadable, isReadable_ofJson v, entriesReadable_ofEntries entries,
      Bool.and_self]

end

theorem lookup_ofEntries (key : String) (entries : List (String × Json)) :
    lookup key (ofEntries entries) = (Json.lookup key entries).map ofJson := by
  induction entries with
  | nil => rfl
  | cons first entries ih =>
    obtain ⟨k, v⟩ := first
    rw [ofEntries, lookup, Json.lookup, ih]
    split <;> rfl

/-- A record in an object is what stands under its keys. -/
theorem fields?_ofJson_obj (dialect : Config.Dialect) (keys : List String)
    (entries : List (String × Json)) :
    (ofJson (.obj entries)).fields? dialect keys =
      some (keys.map fun key => (Json.lookup key entries).map ofJson) := by
  have hreadable : ∀ entry ∈ ofEntries entries,
      (keys.contains entry.1 || entry.2.isReadable) = true := by
    intro entry hentry
    rw [ofEntries_eq_map] at hentry
    obtain ⟨⟨key, v⟩, -, rfl⟩ := List.mem_map.mp hentry
    rw [isReadable_ofJson v, Bool.or_true]
  rw [ofJson, fields?, if_pos (List.all_eq_true.mpr hreadable)]
  exact congrArg some (List.map_congr_left fun key _ => lookup_ofEntries key entries)

/-- A list is read item by item. -/
theorem list?_ofJson_arr {α : Type} {read : Tree → Option α} {xs : List α} {items : List Json}
    (h : List.Forall₂ (fun x v => read (ofJson v) = some x) xs items) :
    (ofJson (.arr items)).list? read = some xs := by
  rw [ofJson, list?, ofItems_eq_map]
  refine List.mapM_eq_pure ?_
  rw [List.forall₂_map_left_iff]
  exact h.flip

end Config.Tree

/-! ### Sort keys -/

namespace SortKey

/-- The keys of the record. -/
def fieldKeys : List String :=
  ["field", "direction"]

/-- The objects that stand for a sort key: they may hold more than the sort key, and less if it is
ascending. -/
inductive WrittenAs : SortKey → Json → Prop
  | full {key : SortKey} {entries : List (String × Json)}
      (h : Json.Holds fieldKeys
        [("field", key.target.toJson), ("direction", .str key.direction.word)] entries) :
      WrittenAs key (.obj entries)
  | ascending {target : SortTarget} {entries : List (String × Json)}
      (h : Json.Holds fieldKeys [("field", target.toJson)] entries) :
      WrittenAs ⟨target, .asc⟩ (.obj entries)

/-- The arrays that stand for a list of sort keys. -/
inductive ListWrittenAs (keys : List SortKey) : Json → Prop
  | arr {items : List Json} (h : List.Forall₂ WrittenAs keys items) :
      ListWrittenAs keys (.arr items)

theorem writtenAs_toJson (key : SortKey) : key.WrittenAs key.toJson :=
  .full (.refl _ _)

theorem listWrittenAs_toJson (keys : List SortKey) :
    ListWrittenAs keys (.arr (keys.map toJson)) := by
  refine .arr ?_
  rw [List.forall₂_map_right_iff]
  exact List.forall₂_same.mpr fun key _ => key.writtenAs_toJson

end SortKey

theorem Direction.ofWord?_word (direction : Direction) :
    Direction.ofWord? direction.word = some direction := by
  cases direction <;> rfl

theorem SortTarget.ofTree?_toJson (target : SortTarget) :
    SortTarget.ofTree? (Tree.ofJson target.toJson) = some target := by
  cases target <;> rfl

namespace SortKey

/-- A sort key is read off its target and, unless it is ascending, its direction. -/
theorem ofTree?_ofJson_obj {entries : List (String × Json)} {target : SortTarget}
    (direction? : Option Direction)
    (htarget : Json.lookup "field" entries = some target.toJson)
    (hdirection : Json.lookup "direction" entries = direction?.map fun d => .str d.word) :
    SortKey.ofTree? jsonDialect (Tree.ofJson (.obj entries)) =
      some ⟨target, direction?.getD .asc⟩ := by
  have hread : Tree.orDefault (Direction.ofTree? jsonDialect) .asc
      ((direction?.map fun d => Json.str d.word).map Tree.ofJson) =
        some (direction?.getD .asc) := by
    cases direction? with
    | none => rfl
    | some d => exact d.ofWord?_word
  rw [SortKey.ofTree?, Tree.fields?_ofJson_obj, List.map_cons, List.map_cons, List.map_nil,
    htarget, hdirection]
  simp only [Option.bind_eq_bind, Option.bind_some, Option.map_some,
    SortTarget.ofTree?_toJson, hread, Option.pure_def]

/-- Every object that stands for a sort key is read as this key. -/
theorem WrittenAs.ofTree?_eq {key : SortKey} {v : Json} (h : key.WrittenAs v) :
    SortKey.ofTree? jsonDialect (Tree.ofJson v) = some key := by
  cases h with
  | @full key entries h =>
    have htarget : Json.lookup "field" entries = some key.target.toJson :=
      h.lookup_eq (by simp) (by simp [fieldKeys])
    have hdirection : Json.lookup "direction" entries = some (.str key.direction.word) :=
      h.lookup_eq (by simp) (by simp [fieldKeys])
    exact ofTree?_ofJson_obj (some key.direction) htarget hdirection
  | @ascending target entries h =>
    have htarget : Json.lookup "field" entries = some target.toJson :=
      h.lookup_eq (by simp) (by simp [fieldKeys])
    have hdirection : Json.lookup "direction" entries = none :=
      h.lookup_eq (by simp) (by simp [fieldKeys])
    exact ofTree?_ofJson_obj none htarget hdirection

/-- Every array that stands for a list of sort keys is read as this list. -/
theorem ListWrittenAs.listOfJson?_eq {keys : List SortKey} {v : Json} (h : ListWrittenAs keys v) :
    listOfJson? v = some keys := by
  obtain ⟨h⟩ := h
  exact Tree.list?_ofJson_arr (h.imp fun _ _ => WrittenAs.ofTree?_eq)

end SortKey

/-! ### Settings -/

namespace Config

/-- The settings by name. -/
inductive Field where
  | rootAlias
  | countAlias
  | findSort
  | searchSort
  deriving DecidableEq

namespace Field

/-- The key under which a document has the setting. -/
def key : Field → String
  | .rootAlias => "root_alias"
  | .countAlias => "count_alias"
  | .findSort => "find_sort"
  | .searchSort => "search_sort"

/-- All settings. -/
def all : List Field :=
  [.rootAlias, .countAlias, .findSort, .searchSort]

theorem mem_all (field : Field) : field ∈ all := by
  cases field <;> decide

theorem key_injective : Function.Injective key := by
  intro f g h
  cases f <;> cases g <;> first | rfl | exact absurd h (by decide)

end Field

/-- What may stand for a setting. -/
def Writes (config : Config) : Field → Json → Prop
  | .rootAlias, v => v = .str config.rootAlias
  | .countAlias, v => v = .str config.countAlias
  | .findSort, v => SortKey.ListWrittenAs config.findSort v
  | .searchSort, v => SortKey.ListWrittenAs config.searchSort v

/-- The entries of some settings. -/
def entriesOf (fields : Finset Field) (values : Field → Json) : List (String × Json) :=
  (Field.all.filter (· ∈ fields)).map fun field => (field.key, values field)

/-- The objects that hold some of the settings, and perhaps other things. -/
inductive WrittenAs (config : Config) (fields : Finset Field) : Json → Prop
  | intro {values : Field → Json} {entries : List (String × Json)}
      (hvalues : ∀ field ∈ fields, config.Writes field (values field))
      (h : Json.Holds (Field.all.map Field.key) (entriesOf fields values) entries) :
      WrittenAs config fields (.obj entries)

/-- Some of the settings, and the defaults of the others. -/
def only (config : Config) (fields : Finset Field) : Config where
  rootAlias := if .rootAlias ∈ fields then config.rootAlias else ({} : Config).rootAlias
  countAlias := if .countAlias ∈ fields then config.countAlias else ({} : Config).countAlias
  findSort := if .findSort ∈ fields then config.findSort else ({} : Config).findSort
  searchSort := if .searchSort ∈ fields then config.searchSort else ({} : Config).searchSort

/-- Under the key of a setting stands its value, if the setting is in the document. -/
theorem lookup_key {fields : Finset Field} {values : Field → Json} {entries : List (String × Json)}
    (h : Json.Holds (Field.all.map Field.key) (entriesOf fields values) entries) (field : Field) :
    Json.lookup field.key entries = if field ∈ fields then some (values field) else none := by
  have hkeys : (entriesOf fields values).map Prod.fst =
      (Field.all.filter (· ∈ fields)).map Field.key := by
    rw [entriesOf, List.map_map]
    rfl
  have hnodup : ((entriesOf fields values).map Prod.fst).Nodup := by
    rw [hkeys]
    exact (List.filter_sublist.map _).nodup (by decide)
  have hmem : field.key ∈ (entriesOf fields values).map Prod.fst ↔ field ∈ fields := by
    rw [hkeys, List.mem_map_of_injective Field.key_injective, List.mem_filter, decide_eq_true_iff]
    exact and_iff_right field.mem_all
  have hvalue : ∀ entry ∈ entriesOf fields values, entry.1 = field.key →
      entry.2 = values field := by
    intro entry hentry heq
    obtain ⟨other, -, rfl⟩ := List.mem_map.mp hentry
    rw [Field.key_injective heq]
  rw [h.lookup_eq hnodup (List.mem_map_of_mem field.mem_all), Json.lookup_eq_ite hvalue]
  exact if_congr hmem rfl rfl

/-- A setting is read if it is in the document, and has its default otherwise. -/
private theorem orDefault_lookup_key {fields : Finset Field} {values : Field → Json}
    {entries : List (String × Json)}
    (h : Json.Holds (Field.all.map Field.key) (entriesOf fields values) entries) (field : Field)
    {α : Type} {read : Tree → Option α} {default x : α}
    (hread : field ∈ fields → read (Tree.ofJson (values field)) = some x) :
    Tree.orDefault read default ((Json.lookup field.key entries).map Tree.ofJson) =
      some (if field ∈ fields then x else default) := by
  rw [lookup_key h field]
  by_cases hfield : field ∈ fields
  · rw [if_pos hfield, if_pos hfield, Option.map_some, Tree.orDefault, hread hfield]
  · rw [if_neg hfield, if_neg hfield, Option.map_none, Tree.orDefault]

/-- A document is read as the settings that it holds, and the defaults of the others. -/
theorem WrittenAs.ofJson?_eq {config : Config} {fields : Finset Field} {v : Json}
    (h : config.WrittenAs fields v) : ofJson? v = some (config.only fields) := by
  obtain @⟨values, entries, hvalues, h⟩ := h
  have hroot : Tree.orDefault Tree.text? ({} : Config).rootAlias
      ((Json.lookup "root_alias" entries).map Tree.ofJson) =
        some (config.only fields).rootAlias := by
    refine orDefault_lookup_key h .rootAlias fun hfield => ?_
    rw [hvalues _ hfield, Tree.ofJson, Tree.text?]
  have hcount : Tree.orDefault Tree.text? ({} : Config).countAlias
      ((Json.lookup "count_alias" entries).map Tree.ofJson) =
        some (config.only fields).countAlias := by
    refine orDefault_lookup_key h .countAlias fun hfield => ?_
    rw [hvalues _ hfield, Tree.ofJson, Tree.text?]
  have hfind : Tree.orDefault (Tree.list? (SortKey.ofTree? jsonDialect)) ({} : Config).findSort
      ((Json.lookup "find_sort" entries).map Tree.ofJson) =
        some (config.only fields).findSort :=
    orDefault_lookup_key h .findSort fun hfield => (hvalues _ hfield).listOfJson?_eq
  have hsearch : Tree.orDefault (Tree.list? (SortKey.ofTree? jsonDialect))
      ({} : Config).searchSort ((Json.lookup "search_sort" entries).map Tree.ofJson) =
        some (config.only fields).searchSort :=
    orDefault_lookup_key h .searchSort fun hfield => (hvalues _ hfield).listOfJson?_eq
  rw [ofJson?, ofTree?, Tree.fields?_ofJson_obj]
  simp only [List.map_cons, List.map_nil, Option.bind_eq_bind, Option.bind_some, hroot, hcount,
    hfind, hsearch, Option.pure_def]

/-! ### Documents with all settings -/

/-- A setting as it is written. -/
def value (config : Config) : Field → Json
  | .rootAlias => .str config.rootAlias
  | .countAlias => .str config.countAlias
  | .findSort => .arr (config.findSort.map SortKey.toJson)
  | .searchSort => .arr (config.searchSort.map SortKey.toJson)

theorem writes_value (config : Config) (field : Field) : config.Writes field (config.value field) :=
  match field with
  | .rootAlias => rfl
  | .countAlias => rfl
  | .findSort => SortKey.listWrittenAs_toJson config.findSort
  | .searchSort => SortKey.listWrittenAs_toJson config.searchSort

theorem writtenAs_toJson (config : Config) :
    config.WrittenAs Field.all.toFinset config.toJson := by
  have hentries : config.toJson = .obj (entriesOf Field.all.toFinset config.value) := rfl
  rw [hentries]
  exact .intro (fun field _ => config.writes_value field) (.refl _ _)

theorem only_all (config : Config) : config.only Field.all.toFinset = config :=
  rfl

/-- **Settings survive being written down.** A document that holds some of the settings, in any
order and among other keys, is read as these settings and the defaults of the others; in particular
the document with all settings is read as the settings that it was made from. The same goes for a
list of sort keys by itself. -/
theorem read_written :
    (∀ (config : Config) (fields : Finset Field) (v : Json), config.WrittenAs fields v →
      ofJson? v = some (config.only fields)) ∧
    (∀ config : Config, ofJson? config.toJson = some config) ∧
    (∀ (keys : List SortKey) (v : Json), SortKey.ListWrittenAs keys v →
      SortKey.listOfJson? v = some keys) ∧
    ∀ keys : List SortKey, SortKey.listOfJson? (.arr (keys.map SortKey.toJson)) = some keys := by
  refine ⟨fun _ _ _ h => h.ofJson?_eq, fun config => ?_, fun _ _ h => h.listOfJson?_eq,
    fun keys => (SortKey.listWrittenAs_toJson keys).listOfJson?_eq⟩
  rw [config.writtenAs_toJson.ofJson?_eq, config.only_all]

/-- Two settings in the opposite order, behind a key that is no setting. Of the sort keys one has a
note, and one does not say that it is ascending. -/
theorem read_written_of_two_settings :
    ofJson? (.obj
      [("version", .int 2),
        ("search_sort", .arr
          [.obj [("note", .null), ("direction", .str "DESC"),
              ("field", .obj [("field", .str "created")])],
            .obj [("field", .obj [("expression", .str "RAND()")])]]),
        ("root_alias", .str "doc")]) =
      some
        { rootAlias := "doc", searchSort := [.desc "created", ⟨.expression "RAND()", .asc⟩] } := by
  -- the aliases and sort keys that are not in the document do not matter
  let config : Config := ⟨"doc", "total", [], [.desc "created", ⟨.expression "RAND()", .asc⟩]⟩
  let values : Field → Json
    | .searchSort => .arr
      [.obj [("note", .null), ("direction", .str "DESC"),
          ("field", .obj [("field", .str "created")])],
        .obj [("field", .obj [("expression", .str "RAND()")])]]
    | _ => .str "doc"
  have hkeys : SortKey.ListWrittenAs config.searchSort (values .searchSort) :=
    .arr (.cons (.full ⟨[("note", .null)], List.reverse_perm [_, _, _], by decide⟩)
      (.cons (.ascending (.refl _ _)) .nil))
  have hvalues : ∀ field ∈ ({.rootAlias, .searchSort} : Finset Field),
      config.Writes field (values field) := by
    intro field hfield
    cases field with
    | rootAlias => rfl
    | countAlias => exact absurd hfield (by decide)
    | findSort => exact absurd hfield (by decide)
    | searchSort => exact hkeys
  exact read_written.1 config _ _
    (.intro hvalues ⟨[("version", .int 2)], List.reverse_perm [_, _, _], by decide⟩)

end Config

end DocQuery
