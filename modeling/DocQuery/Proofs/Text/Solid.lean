import DocQuery.Text
import Mathlib.Data.List.DropRight

/-!
# Texts that trimming leaves alone

A solid text is not empty and has no blank at either end. Trimming returns it unchanged
(`trim_of_isSolid`), and texts joined from solid ones are solid (`isSolid_intercalate`), so
clauses that are written word by word survive as they are. Where a clause begins with a keyword, its
end is all that matters: what ends solid (`EndsSolid`) is solid behind a solid text
(`EndsSolid.isSolid_append`).

Of any text, trimming leaves nothing or something solid (`isSolid_trim`), and blanks around the text
do not change what it leaves (`trim_append_append`).
-/

namespace DocQuery.Text

/-- There is a first and a last character, and neither is blank. -/
def isSolid (cs : List Char) : Bool :=
  cs.head?.any (fun c => !isBlank c) && cs.getLast?.any fun c => !isBlank c

variable {a b m cs : List Char}

theorem ne_nil_of_isSolid (h : isSolid cs) : cs ≠ [] := by
  rintro rfl
  exact absurd h (by decide)

theorem ne_empty_of_isSolid {s : String} (h : isSolid s.toList) : s ≠ "" := by
  rintro rfl
  exact ne_nil_of_isSolid h rfl

/-- A text without any blank is solid. -/
theorem isSolid_of_forall (hne : cs ≠ []) (h : ∀ c ∈ cs, isBlank c = false) : isSolid cs := by
  have hhead : cs.head?.any (fun c => !isBlank c) := by
    rw [List.head?_eq_some_head hne]
    simp [h _ (List.head_mem hne)]
  have hlast : cs.getLast?.any (fun c => !isBlank c) := by
    rw [List.getLast?_eq_some_getLast hne]
    simp [h _ (List.getLast_mem hne)]
  rw [isSolid, hhead, hlast]
  rfl

/-- What stands between solid ends does not matter. -/
theorem isSolid_append (ha : isSolid a) (hb : isSolid b) : isSolid (a ++ m ++ b) := by
  rw [isSolid, Bool.and_eq_true] at ha hb ⊢
  obtain ⟨c, hc, hcsolid⟩ := (Option.any_eq_true _ _).mp ha.1
  obtain ⟨d, hd, hdsolid⟩ := (Option.any_eq_true _ _).mp hb.2
  constructor
  · rw [List.append_assoc, List.head?_append, hc]
    exact hcsolid
  · rw [List.getLast?_append, hd]
    exact hdsolid

/-- The second half of trimming drops from the right. -/
private theorem trimChars_eq (cs : List Char) :
    trimChars cs = (cs.dropWhile isBlank).rdropWhile isBlank := rfl

private theorem trimChars_of_isSolid (h : isSolid cs) : trimChars cs = cs := by
  rw [isSolid, Bool.and_eq_true] at h
  have hhead : cs.dropWhile isBlank = cs := by
    cases cs with
    | nil => rfl
    | cons c cs =>
      have hc : ¬isBlank c := by simpa using h.1
      exact List.dropWhile_cons_of_neg hc
  have hlast : cs.rdropWhile isBlank = cs := by
    refine List.rdropWhile_eq_self_iff.mpr fun hne => ?_
    have hlast := h.2
    rw [List.getLast?_eq_some_getLast hne] at hlast
    simpa using hlast
  rw [trimChars_eq, hhead, hlast]

/-- Trimming a solid text changes nothing. -/
theorem trim_of_isSolid {s : String} (h : isSolid s.toList) : trim s = s := by
  rw [trim, trimChars_of_isSolid h, String.ofList_toList]

/-! ### What trimming leaves -/

private theorem trimChars_eq_nil_iff : trimChars cs = [] ↔ ∀ c ∈ cs, isBlank c := by
  rw [trimChars_eq, List.rdropWhile_eq_nil_iff]
  refine ⟨fun h => ?_, fun h c hc => h c ((List.dropWhile_sublist isBlank).subset hc)⟩
  refine List.dropWhile_eq_nil_iff.mp ?_
  by_contra hne
  -- what stops the dropping is not blank
  have hhead := List.head_dropWhile_not isBlank hne
  rw [h _ (List.head_mem hne)] at hhead
  exact Bool.noConfusion hhead

private theorem isSolid_trimChars (h : trimChars cs ≠ []) : isSolid (trimChars cs) := by
  have hbegins : trimChars cs <+: cs.dropWhile isBlank := List.rdropWhile_prefix isBlank _
  have hne : cs.dropWhile isBlank ≠ [] := hbegins.ne_nil h
  have hhead : isBlank ((trimChars cs).head h) = false := by
    rw [hbegins.head h]
    exact List.head_dropWhile_not isBlank hne
  have hlast : isBlank ((trimChars cs).getLast h) = false :=
    Bool.eq_false_iff.mpr (List.rdropWhile_last_not isBlank (cs.dropWhile isBlank) h)
  rw [isSolid, List.head?_eq_some_head h, List.getLast?_eq_some_getLast h]
  simp [hhead, hlast]

private theorem trimChars_append_append (ha : ∀ c ∈ a, isBlank c) (hb : ∀ c ∈ b, isBlank c) :
    trimChars (a ++ m ++ b) = trimChars m := by
  rw [trimChars_eq, List.append_assoc, List.dropWhile_append_of_pos ha, List.dropWhile_append]
  by_cases hm : m.dropWhile isBlank = []
  · have hb' : b.dropWhile isBlank = [] := List.dropWhile_eq_nil_iff.mpr hb
    simp [trimChars_eq, hm, hb']
  · have hreverse : ∀ c ∈ b.reverse, isBlank c := by simpa using hb
    rw [if_neg (by simpa using hm), List.rdropWhile, List.reverse_append,
      List.dropWhile_append_of_pos hreverse]
    rfl

/-- Trimming leaves nothing of blank texts, and of no others. -/
theorem trim_eq_empty_iff {s : String} : trim s = "" ↔ ∀ c ∈ s.toList, isBlank c := by
  rw [trim, String.ofList_eq_empty_iff, trimChars_eq_nil_iff]

/-- **What trimming leaves is solid.** -/
theorem isSolid_trim {s : String} (h : trim s ≠ "") : isSolid (trim s).toList := by
  rw [trim, Ne, String.ofList_eq_empty_iff] at h
  rw [trim, String.toList_ofList]
  exact isSolid_trimChars h

/-- Blanks around a text do not matter. -/
theorem trim_append_append {before after : String} (text : String)
    (hbefore : ∀ c ∈ before.toList, isBlank c) (hafter : ∀ c ∈ after.toList, isBlank c) :
    trim (before ++ text ++ after) = trim text := by
  rw [trim, String.toList_append, String.toList_append, trimChars_append_append hbefore hafter]
  rfl

/-! ### Joined texts -/

/-- Solid texts are joined to a solid text, whatever is put between them. -/
theorem isSolid_intercalate (joint : String) {ts : List String} (hne : ts ≠ [])
    (hts : ∀ t ∈ ts, isSolid t.toList) : isSolid (joint.intercalate ts).toList := by
  induction ts with
  | nil => exact absurd rfl hne
  | cons t ts ih =>
    obtain ⟨ht, hrest⟩ := List.forall_mem_cons.mp hts
    cases ts with
    | nil => simpa using ht
    | cons u us =>
      rw [String.intercalate_cons_cons, String.toList_append, String.toList_append]
      exact isSolid_append ht (ih (by simp) hrest)

/-! ### Solid ends -/

/-- The text is some text and a solid one behind it. -/
def EndsSolid (s : String) : Prop :=
  ∃ a b : String, s = a ++ b ∧ isSolid b.toList

/-- Anything may stand in front of a solid end. -/
theorem endsSolid_append (a : String) {b : String} (hb : isSolid b.toList) : EndsSolid (a ++ b) :=
  ⟨a, b, rfl, hb⟩

theorem EndsSolid.append (a : String) {s : String} (h : EndsSolid s) : EndsSolid (a ++ s) := by
  obtain ⟨m, b, rfl, hb⟩ := h
  exact ⟨a ++ m, b, String.append_assoc.symm, hb⟩

theorem EndsSolid.ne_empty {s : String} (h : EndsSolid s) : s ≠ "" := by
  obtain ⟨m, b, rfl, hb⟩ := h
  intro hempty
  exact ne_empty_of_isSolid hb (String.append_eq_empty_iff.mp hempty).2

/-- Behind a solid text, a solid end is enough. -/
theorem EndsSolid.isSolid_append {t s : String} (h : EndsSolid s) (ht : isSolid t.toList) :
    isSolid (t ++ s).toList := by
  obtain ⟨m, b, rfl, hb⟩ := h
  rw [← String.append_assoc, String.toList_append, String.toList_append]
  exact DocQuery.Text.isSolid_append ht hb

/-- Texts are joined to a text that ends like the last of them. -/
theorem endsSolid_intercalate (joint : String) {ts : List String} (hne : ts ≠ [])
    (hts : ∀ t ∈ ts, EndsSolid t) : EndsSolid (joint.intercalate ts) := by
  induction ts with
  | nil => exact absurd rfl hne
  | cons t ts ih =>
    obtain ⟨ht, hrest⟩ := List.forall_mem_cons.mp hts
    by_cases hnil : ts = []
    · rw [hnil, String.intercalate_singleton]
      exact ht
    · rw [String.intercalate_cons_of_ne_nil hnil]
      exact (ih hnil hrest).append _

end DocQuery.Text
