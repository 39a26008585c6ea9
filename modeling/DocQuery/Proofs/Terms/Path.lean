import DocQuery.Proofs.Terms.Leaves
import DocQuery.Proofs.Text.Word

/-!
# Paths through identifiers

Where the names of fields are identifiers, the parameter that a path spells is a token
(`isToken_pathText`), and it shows the path (`pathText_injective`): the points in it are the ones
between the names.
-/

namespace DocQuery

open Text

/-- A letter or an underscore, and then letters, digits and underscores. -/
def isIdentifier (s : String) : Bool :=
  match s.toList with
  | [] => false
  | c :: cs => (c.isAlpha || c == '_') && cs.all fun d => d.isAlphanum || d == '_'

private theorem isAlphanum_of_mem_identifier {s : String} (h : isIdentifier s) :
    s.toList ≠ [] ∧ ∀ c ∈ s.toList, c.isAlphanum ∨ c = '_' := by
  cases hs : s.toList with
  | nil => simp [isIdentifier, hs] at h
  | cons c cs =>
    simp only [isIdentifier, hs, Bool.and_eq_true, Bool.or_eq_true, beq_iff_eq,
      List.all_eq_true] at h
    refine ⟨by simp, List.forall_mem_cons.mpr ⟨?_, h.2⟩⟩
    exact h.1.imp_left fun halpha => by simp [Char.isAlphanum, halpha]

theorem isToken_of_isIdentifier {s : String} (h : isIdentifier s) : IsToken s := by
  obtain ⟨hne, hchars⟩ := isAlphanum_of_mem_identifier h
  refine ⟨by simpa using hne, fun c hc => ?_⟩
  rcases hchars c hc with halnum | rfl
  · simp [isTokenChar, halnum]
  · decide

/-- No point stands in an identifier. -/
theorem isClosed_of_isIdentifier {s : String} (h : isIdentifier s) : isClosed '.' false s.toList := by
  refine isClosed_of_forall fun c hc => ⟨?_, ?_⟩
  · rintro rfl
    rcases (isAlphanum_of_mem_identifier h).2 _ hc with halnum | hunderscore
    · exact absurd halnum (by decide)
    · exact absurd hunderscore (by decide)
  · exact (ne_of_isTokenChar ((isToken_of_isIdentifier h).chars c hc)).1

/-! ### Paths -/

theorem isToken_fieldPath {parent field : String} (hparent : IsToken parent)
    (hfield : IsToken field) : IsToken (fieldPath parent field) where
  ne_empty := by simp [fieldPath, String.append_eq_empty_iff]
  chars := by
    rw [fieldPath, String.toList_append, String.toList_append]
    exact List.forall_mem_append.mpr
      ⟨List.forall_mem_append.mpr ⟨hparent.chars, List.all_eq_true.mp (by decide)⟩, hfield.chars⟩

/-- A path through identifiers is a token. -/
theorem isToken_pathText {parent : String} (hparent : IsToken parent) {path : List String}
    (hpath : ∀ field ∈ path, isIdentifier field) : IsToken (pathText parent path) := by
  induction path generalizing parent with
  | nil => exact hparent
  | cons field path ih =>
    obtain ⟨hfield, hrest⟩ := List.forall_mem_cons.mp hpath
    exact ih (isToken_fieldPath hparent (isToken_of_isIdentifier hfield)) hrest

/-- **Paths can be told apart.** -/
theorem pathText_injective {root : String} {path path' : List String} (hroot : isIdentifier root)
    (hpath : ∀ field ∈ path, isIdentifier field) (hpath' : ∀ field ∈ path', isIdentifier field)
    (h : pathText root path = pathText root path') : path = path' := by
  have hclosed : ∀ {fields : List String}, (∀ field ∈ fields, isIdentifier field) →
      ∀ part ∈ root :: fields, part ≠ "" ∧ isClosed '.' false part.toList := by
    intro fields hfields part hpart
    have hident : isIdentifier part := by
      rcases List.mem_cons.mp hpart with rfl | hmem
      · exact hroot
      · exact hfields part hmem
    exact ⟨(isToken_of_isIdentifier hident).ne_empty, isClosed_of_isIdentifier hident⟩
  rw [pathText_eq_intercalate, pathText_eq_intercalate] at h
  have hparts : root :: path = root :: path' :=
    intercalate_injective rfl (hclosed hpath) (hclosed hpath') h
  exact List.tail_eq_of_cons_eq hparts

end DocQuery
