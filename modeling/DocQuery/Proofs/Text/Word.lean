import DocQuery.Proofs.Text.Pieces
import DocQuery.Proofs.Text.Solid

/-!
# The words of a query

A word is solid, and blank only between quotation marks. A text that joins words with single
blanks therefore shows which words it joins (`joined_injective`), and trimming leaves it alone
(`trim_joined`). Words that are joined group by group are joined all the same
(`joined_flatMap_clause`), as are any lists that join alike when they stand alone
(`JoinsAlike.append`).

Two kinds of words carry the variable contents of a query. **Tokens** are made of letters, digits
and the characters `_`, `.` and `-`; **literals** are the texts of scalars, each a token or
a text without quotation marks between two of them.
-/

namespace DocQuery.Text

/-- Solid, and blank only between quotation marks. -/
structure IsWord (w : String) : Prop where
  solid : isSolid w.toList
  closed : isClosed ' ' false w.toList

theorem IsWord.ne_empty {w : String} (h : IsWord w) : w ≠ "" :=
  ne_empty_of_isSolid h.solid

/-- Words without a blank between them make a word. -/
theorem IsWord.append {v w : String} (hv : IsWord v) (hw : IsWord w) : IsWord (v ++ w) where
  solid := by
    have hsolid := @isSolid_append _ _ [] hv.solid hw.solid
    rwa [List.append_nil, ← String.toList_append] at hsolid
  closed := by
    rw [String.toList_append]
    exact isClosed_append hv.closed hw.closed

/-! ### Joined words -/

/-- Words with single blanks between them. -/
def joined (ws : List String) : String :=
  " ".intercalate ws

@[simp]
theorem joined_nil : joined [] = "" := rfl

@[simp]
theorem joined_singleton (w : String) : joined [w] = w :=
  String.intercalate_singleton

theorem joined_cons (w : String) {ws : List String} (hws : ws ≠ []) :
    joined (w :: ws) = w ++ " " ++ joined ws :=
  String.intercalate_cons_of_ne_nil hws

theorem joined_append {vs ws : List String} (hvs : vs ≠ []) (hws : ws ≠ []) :
    joined (vs ++ ws) = joined vs ++ " " ++ joined ws :=
  String.intercalate_append_of_ne_nil hvs hws

/-- **Words can be told apart** in a text that joins them with blanks. -/
theorem joined_injective {vs ws : List String} (hvs : ∀ v ∈ vs, IsWord v) (hws : ∀ w ∈ ws, IsWord w)
    (h : joined vs = joined ws) : vs = ws :=
  intercalate_injective rfl (fun v hv => ⟨(hvs v hv).ne_empty, (hvs v hv).closed⟩)
    (fun w hw => ⟨(hws w hw).ne_empty, (hws w hw).closed⟩) h

theorem joined_eq_empty_iff {ws : List String} (hws : ∀ w ∈ ws, w ≠ "") :
    joined ws = "" ↔ ws = [] :=
  intercalate_eq_empty_iff " " hws

/-- Trimming does not alter a text that joins solid ones. -/
theorem trim_joined {ws : List String} (hws : ∀ w ∈ ws, isSolid w.toList) :
    trim (joined ws) = joined ws := by
  by_cases hnil : ws = []
  · rw [hnil]
    rfl
  · exact trim_of_isSolid (isSolid_intercalate " " hnil hws)

/-- A group of words as one text, and as none if the group is empty. -/
def clause (ws : List String) : List String :=
  if ws = [] then [] else [joined ws]

/-- The lists give the same text among any others that are joined. -/
structure JoinsAlike (vs ws : List String) : Prop where
  nil_iff : vs = [] ↔ ws = []
  joined_eq : joined vs = joined ws

namespace JoinsAlike

variable {us vs ws xs : List String}

theorem refl (ws : List String) : JoinsAlike ws ws :=
  ⟨Iff.rfl, rfl⟩

theorem append (h : JoinsAlike us vs) (h' : JoinsAlike ws xs) :
    JoinsAlike (us ++ ws) (vs ++ xs) where
  nil_iff := by rw [List.append_eq_nil_iff, List.append_eq_nil_iff, h.nil_iff, h'.nil_iff]
  joined_eq := by
    -- a blank stands between the two parts unless one of them is missing
    by_cases hvs : vs = []
    · rw [hvs, h.nil_iff.mpr hvs, List.nil_append, List.nil_append, h'.joined_eq]
    · by_cases hxs : xs = []
      · rw [hxs, h'.nil_iff.mpr hxs, List.append_nil, List.append_nil, h.joined_eq]
      · rw [joined_append (mt h.nil_iff.mp hvs) (mt h'.nil_iff.mp hxs), joined_append hvs hxs,
          h.joined_eq, h'.joined_eq]

end JoinsAlike

theorem joinsAlike_clause (ws : List String) : JoinsAlike (clause ws) ws := by
  rw [clause]
  split_ifs with hws
  · rw [hws]
    exact .refl []
  · exact ⟨by simp [hws], joined_singleton _⟩

/-- A text that joins words stands for them, and if it is empty, for none. -/
theorem joinsAlike_singleton_joined {ws : List String} (hws : ∀ w ∈ ws, w ≠ "") :
    JoinsAlike ws ([joined ws].filter (· ≠ "")) := by
  by_cases hnil : ws = []
  · rw [hnil]
    exact .refl []
  · have hne : joined ws ≠ "" := mt (joined_eq_empty_iff hws).mp hnil
    have hfilter : [joined ws].filter (· ≠ "") = [joined ws] := by simp [hne]
    rw [hfilter]
    exact ⟨by simp [hnil], (joined_singleton _).symm⟩

/-- **Joining clauses** is joining their words. -/
theorem joined_flatMap_clause (groups : List (List String)) :
    joined (groups.flatMap clause) = joined groups.flatten := by
  have halike : JoinsAlike (groups.flatMap clause) groups.flatten := by
    induction groups with
    | nil => exact .refl []
    | cons ws groups ih =>
      rw [List.flatMap_cons, List.flatten_cons]
      exact (joinsAlike_clause ws).append ih
  exact halike.joined_eq

/-! ### Tokens -/

/-- The characters of names and numbers. -/
def isTokenChar (c : Char) : Bool :=
  c.isAlphanum || c == '_' || c == '.' || c == '-'

private theorem toNat_of_isAlphanum {c : Char} (h : c.isAlphanum) :
    (0x41 ≤ c.toNat ∧ c.toNat ≤ 0x5a) ∨ (0x61 ≤ c.toNat ∧ c.toNat ≤ 0x7a) ∨
      (0x30 ≤ c.toNat ∧ c.toNat ≤ 0x39) := by
  have hcases : ((decide ('A'.val ≤ c.val ∧ c.val ≤ 'Z'.val) ||
      decide ('a'.val ≤ c.val) && decide (c.val ≤ 'z'.val)) ||
      decide ('0'.val ≤ c.val) && decide (c.val ≤ '9'.val)) = true := h
  simpa [UInt32.le_iff_toNat_le, or_assoc] using hcases

private theorem toNat_of_isTokenChar {c : Char} (h : isTokenChar c) :
    0x2d ≤ c.toNat ∧ c.toNat ≤ 0x7a ∧ c.toNat ≠ 0x5b := by
  simp only [isTokenChar, Bool.or_eq_true, beq_iff_eq] at h
  rcases h with ((h | rfl) | rfl) | rfl
  · have hrange := toNat_of_isAlphanum h
    omega
  all_goals decide

theorem isBlank_of_isTokenChar {c : Char} (h : isTokenChar c) : isBlank c = false := by
  obtain ⟨hlow, hhigh, -⟩ := toNat_of_isTokenChar h
  simp only [isBlank, Bool.or_eq_false_iff, Bool.and_eq_false_iff, decide_eq_false_iff_not,
    beq_eq_false_iff_ne]
  omega

/-- No character of a token is a quotation mark, a comma or an opening bracket. -/
theorem ne_of_isTokenChar {c : Char} (h : isTokenChar c) : c ≠ '"' ∧ c ≠ ',' ∧ c ≠ '[' := by
  obtain ⟨hlow, -, hbracket⟩ := toNat_of_isTokenChar h
  refine ⟨?_, ?_, ?_⟩
  · rintro rfl
    exact absurd hlow (by decide)
  · rintro rfl
    exact absurd hlow (by decide)
  · rintro rfl
    exact hbracket rfl

/-- A name or a number, or several of them with points in between. -/
structure IsToken (t : String) : Prop where
  ne_empty : t ≠ ""
  chars : ∀ c ∈ t.toList, isTokenChar c

namespace IsToken

variable {t : String}

/-- The characters of a given text can be checked one by one. -/
theorem of_all (hne : t ≠ "") (h : t.toList.all isTokenChar) : IsToken t :=
  ⟨hne, List.all_eq_true.mp h⟩

theorem isClosed (h : IsToken t) {sep : Char} (hsep : isTokenChar sep = false) :
    isClosed sep false t.toList := by
  refine isClosed_of_forall fun c hc => ⟨?_, (ne_of_isTokenChar (h.chars c hc)).1⟩
  rintro rfl
  exact absurd (h.chars c hc) (by simp [hsep])

theorem isWord (h : IsToken t) : IsWord t where
  solid := isSolid_of_forall (by simpa using h.ne_empty) fun c hc =>
    isBlank_of_isTokenChar (h.chars c hc)
  closed := h.isClosed (by decide)

end IsToken

/-! ### Literals -/

/-- The texts of scalars. -/
inductive IsLiteral : String → Prop
  | token {t : String} : IsToken t → IsLiteral t
  | quoted {s : String} : '"' ∉ s.toList → IsLiteral ("\"" ++ s ++ "\"")

namespace IsLiteral

variable {t : String}

private theorem toList_quoted (s : String) :
    ("\"" ++ s ++ "\"").toList = '"' :: (s.toList ++ ['"']) := by
  simp [String.toList_append]

theorem isSolid (h : IsLiteral t) : isSolid t.toList := by
  cases h with
  | token h => exact h.isWord.solid
  | @quoted s h =>
    rw [String.toList_append, String.toList_append]
    exact isSolid_append (by decide) (by decide)

/-- Blanks and commas in a literal stand between quotation marks. -/
theorem isClosed (h : IsLiteral t) {sep : Char} (hsep : sep ≠ '"' ∧ isTokenChar sep = false) :
    isClosed sep false t.toList := by
  cases h with
  | token h => exact h.isClosed hsep.2
  | quoted h =>
    rw [toList_quoted]
    exact isClosed_quoted hsep.1 h

theorem isWord (h : IsLiteral t) : IsWord t :=
  ⟨h.isSolid, h.isClosed (by decide)⟩

/-- A literal cannot be taken for a list. -/
theorem head?_ne (h : IsLiteral t) : t.toList.head? ≠ some '[' := by
  cases h with
  | token h =>
    intro hhead
    have hmem : '[' ∈ t.toList := List.mem_of_mem_head? hhead
    exact (ne_of_isTokenChar (h.chars _ hmem)).2.2 rfl
  | quoted h =>
    rw [toList_quoted]
    simp

end IsLiteral

end DocQuery.Text
