/-!
# Taking joined text apart

Nothing is escaped between the quotation marks of a query, so what keeps its parts apart is that
a separator counts only **outside** quotation marks. `pieces sep` cuts a text at exactly those
separators, and `pieces_intercalate` says that this undoes joining: a nonempty list of texts,
each closed (`isClosed`: all its marks come in pairs and all its separators stand between them),
comes back as it was. So two joined texts are equal only if their lists are
(`intercalate_injective`). The same statement serves blanks between words and commas between the
items of a list.
-/

namespace DocQuery.Text

/-! ### Closed texts -/

/-- Every separator stands between quotation marks, and every mark has its partner; `quoted` says
whether the text begins behind an open mark. -/
def isClosed (sep : Char) : (quoted : Bool) → List Char → Bool
  | quoted, [] => !quoted
  | quoted, c :: cs => (quoted || c != sep) && isClosed sep (quoted ^^ (c == '"')) cs

/-- The texts between the separators outside quotation marks. -/
def pieces (sep : Char) : (quoted : Bool) → List Char → List (List Char)
  | _, [] => [[]]
  | quoted, c :: cs =>
    if c == sep && !quoted then [] :: pieces sep false cs
    else (pieces sep (quoted ^^ (c == '"')) cs).modifyHead (c :: ·)

variable {sep : Char} {quoted : Bool} {v w : List Char}

/-- A closed text may follow a closed text. -/
theorem isClosed_append (hv : isClosed sep quoted v) (hw : isClosed sep false w) :
    isClosed sep quoted (v ++ w) := by
  induction v generalizing quoted with
  | nil =>
    have hq : quoted = false := by simpa [isClosed] using hv
    rw [List.nil_append, hq]
    exact hw
  | cons c v ih =>
    rw [isClosed, Bool.and_eq_true] at hv
    rw [List.cons_append, isClosed, Bool.and_eq_true]
    exact ⟨hv.1, ih hv.2⟩

/-- A text without separators and quotation marks is closed. -/
theorem isClosed_of_forall (h : ∀ c ∈ w, c ≠ sep ∧ c ≠ '"') : isClosed sep false w := by
  induction w with
  | nil => rfl
  | cons c w ih =>
    obtain ⟨hsep, hmark⟩ := h c List.mem_cons_self
    have hw : isClosed sep false w := ih fun d hd => h d (List.mem_cons_of_mem c hd)
    have hstay : (false ^^ (c == '"')) = false := by simp [hmark]
    simp [isClosed, hsep, hstay, hw]

/-- Behind an open quotation mark anything may stand up to the closing one. -/
private theorem isClosed_append_mark (h : '"' ∉ w) : isClosed sep true (w ++ ['"']) := by
  induction w with
  | nil => rfl
  | cons c w ih =>
    rw [List.mem_cons, not_or] at h
    obtain ⟨hc, hw⟩ := h
    have hstay : (true ^^ (c == '"')) = true := by simp [Ne.symm hc]
    rw [List.cons_append, isClosed, hstay, Bool.true_or, Bool.true_and]
    exact ih hw

/-- A text between quotation marks is closed if it holds none itself. -/
theorem isClosed_quoted (hsep : sep ≠ '"') (h : '"' ∉ w) :
    isClosed sep false ('"' :: (w ++ ['"'])) := by
  have hopen : ('"' != sep) = true := by simpa using hsep.symm
  rw [isClosed, hopen, Bool.or_true, Bool.true_and]
  exact isClosed_append_mark h

/-- Closed texts are joined to a closed text if what is put between them is closed. -/
theorem isClosed_intercalate {joint : String} (hjoint : isClosed sep false joint.toList)
    {ts : List String} (hts : ∀ t ∈ ts, isClosed sep false t.toList) :
    isClosed sep false (joint.intercalate ts).toList := by
  induction ts with
  | nil => rfl
  | cons t ts ih =>
    obtain ⟨ht, hrest⟩ := List.forall_mem_cons.mp hts
    cases ts with
    | nil => simpa using ht
    | cons u us =>
      rw [String.intercalate_cons_cons, String.toList_append, String.toList_append]
      exact isClosed_append (isClosed_append ht hjoint) (ih hrest)

/-! ### Cutting undoes joining -/

/-- A character that does not separate stays in its piece. -/
private theorem pieces_cons {c : Char} (hc : (quoted || c != sep) = true) (w : List Char) :
    pieces sep quoted (c :: w) = (pieces sep (quoted ^^ (c == '"')) w).modifyHead (c :: ·) := by
  have hstay : (c == sep && !quoted) = false := by
    cases quoted <;> simp_all
  rw [pieces, hstay]
  rfl

/-- The text in front of the first separator is the first piece. -/
theorem pieces_append (hw : isClosed sep quoted w) (rest : List Char) :
    pieces sep quoted (w ++ sep :: rest) = w :: pieces sep false rest := by
  induction w generalizing quoted with
  | nil =>
    have hq : quoted = false := by simpa [isClosed] using hw
    simp [pieces, hq]
  | cons c w ih =>
    rw [isClosed, Bool.and_eq_true] at hw
    rw [List.cons_append, pieces_cons hw.1, ih hw.2]
    rfl

/-- A closed text is a single piece. -/
theorem pieces_of_isClosed (hw : isClosed sep quoted w) : pieces sep quoted w = [w] := by
  induction w generalizing quoted with
  | nil => rfl
  | cons c w ih =>
    rw [isClosed, Bool.and_eq_true] at hw
    rw [pieces_cons hw.1, ih hw.2]
    rfl

/-- **Cutting undoes joining.** -/
theorem pieces_intercalate {ws : List (List Char)} (hne : ws ≠ [])
    (hws : ∀ w ∈ ws, isClosed sep false w) :
    pieces sep false ([sep].intercalate ws) = ws := by
  induction ws with
  | nil => exact absurd rfl hne
  | cons w ws ih =>
    obtain ⟨hw, hrest⟩ := List.forall_mem_cons.mp hws
    cases ws with
    | nil => rw [List.intercalate_singleton, pieces_of_isClosed hw]
    | cons v vs =>
      rw [List.intercalate_cons_cons, List.append_assoc, List.singleton_append,
        pieces_append hw, ih (by simp) hrest]

/-- The pieces of a whole text. The empty text has none. -/
def cut (sep : Char) (text : String) : List String :=
  if text = "" then [] else (pieces sep false text.toList).map String.ofList

/-- A joined text is empty only if nothing was joined. -/
theorem intercalate_ne_empty (joint : String) {t : String} {ts : List String} (ht : t ≠ "") :
    joint.intercalate (t :: ts) ≠ "" := by
  cases ts with
  | nil => simpa using ht
  | cons u us => simp [String.append_eq_empty_iff, ht]

theorem intercalate_eq_empty_iff (joint : String) {ts : List String} (hts : ∀ t ∈ ts, t ≠ "") :
    joint.intercalate ts = "" ↔ ts = [] := by
  constructor
  · intro h
    rcases ts with - | ⟨t, ts⟩
    · rfl
    · exact absurd h (intercalate_ne_empty joint (hts t List.mem_cons_self))
  · rintro rfl
    exact String.intercalate_nil

/-- Texts in two groups are joined like the texts of the groups, as far as these are not empty. -/
theorem intercalate_append (joint : String) {ts us : List String} (hts : ∀ t ∈ ts, t ≠ "")
    (hus : ∀ u ∈ us, u ≠ "") : joint.intercalate (ts ++ us) =
      joint.intercalate ([joint.intercalate ts, joint.intercalate us].filter (· ≠ "")) := by
  have hts' := intercalate_eq_empty_iff joint hts
  have hus' := intercalate_eq_empty_iff joint hus
  by_cases ht : ts = []
  · by_cases hu : us = []
    · simp [ht, hu]
    · simp [ht, hu, hus']
  · by_cases hu : us = []
    · simp [hu, ht, hts']
    · rw [String.intercalate_append_of_ne_nil ht hu]
      simp [ht, hu, hts', hus']

/-- The form of `pieces_intercalate` for strings, the empty list included. -/
theorem cut_intercalate {joint : String} (hjoint : joint.toList = [sep]) {ts : List String}
    (hts : ∀ t ∈ ts, t ≠ "" ∧ isClosed sep false t.toList) :
    cut sep (joint.intercalate ts) = ts := by
  cases ts with
  | nil => simp [cut]
  | cons t ts =>
    -- only the empty list is joined to the empty text, which `cut` treats apart
    have hne : joint.intercalate (t :: ts) ≠ "" :=
      intercalate_ne_empty joint (hts t List.mem_cons_self).1
    have hclosed : ∀ w ∈ (t :: ts).map String.toList, isClosed sep false w := by
      intro w hw
      obtain ⟨u, hu, rfl⟩ := List.mem_map.mp hw
      exact (hts u hu).2
    rw [cut, if_neg hne, String.toList_intercalate, hjoint,
      pieces_intercalate (by simp) hclosed]
    simp

/-- **Joined texts show their parts**: closed, nonempty texts that give the same text when joined
are the same. -/
theorem intercalate_injective {joint : String} (hjoint : joint.toList = [sep])
    {ts us : List String} (hts : ∀ t ∈ ts, t ≠ "" ∧ isClosed sep false t.toList)
    (hus : ∀ u ∈ us, u ≠ "" ∧ isClosed sep false u.toList)
    (h : joint.intercalate ts = joint.intercalate us) : ts = us := by
  rw [← cut_intercalate hjoint hts, h, cut_intercalate hjoint hus]

end DocQuery.Text
