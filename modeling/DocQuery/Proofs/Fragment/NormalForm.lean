import DocQuery.Proofs.Fragment.Variables
import DocQuery.Proofs.Json.Equality
import DocQuery.Proofs.Query.Alike
import DocQuery.Proofs.Text.Word

/-!
# What a query tells about its fragment

Texts that stand side by side in a fragment are joined by blanks, so the query cannot tell them from
one longer text. `Fragment.normalForm` merges them. Nothing else is lost: the query determines the
normal form as long as no text holds the mark `@`, which begins the names of variables
(`Fragment.query_eq_iff_normalForm`).

The text of a query is read from the front. What stands in front of the first mark is one text or
nothing, because texts are merged. The mark tells a value from the name of a collection by the
character behind it, and the digits of its number need no reading: both sides have counted the same
variables so far. So equal texts come from alike parts (`Fragment.alike_of_joined_eq`), and then the
variables, which stand in the same order, tell the values and the names.

Equality may be meant exactly, or as values of JSON are compared, where the entries of objects may
stand in any order and both zeros are equal. The keys of variables are distinct, so queries are
compared variable by variable either way (`Json.beq_obj_of_keys_eq`).
-/

namespace DocQuery

open Text (joined joined_cons)

/-! ### Merging texts -/

/-- The parts with one more in front. Texts that meet are joined by a blank. -/
def Part.mergeInto : Part → List Part → List Part
  | .literal t, .literal u :: rest => .literal (t ++ " " ++ u) :: rest
  | p, rest => p :: rest

/-- The part is no text that holds the mark of variables. -/
def Part.isMarkFree : Part → Bool
  | .literal text => !text.toList.contains '@'
  | _ => true

namespace Fragment

/-- The parts with every run of texts merged into one. -/
def merge : List Part → List Part
  | [] => []
  | p :: rest => p.mergeInto (merge rest)

/-- The parts of a fragment, with texts that stand side by side as one. -/
def normalForm (f : Fragment) : List Part :=
  merge f.parts

/-- No text of the fragment holds the mark of variables. -/
def IsMarkFree (f : Fragment) : Prop :=
  ∀ p ∈ f.parts, p.isMarkFree

instance (f : Fragment) : Decidable f.IsMarkFree :=
  inferInstanceAs (Decidable (∀ p ∈ f.parts, p.isMarkFree))

/-! ### Merging changes no query -/

theorem joined_wordsFrom_mergeInto (n : Nat) (p : Part) (ps : List Part) :
    joined (wordsFrom n (p.mergeInto ps)) = joined (wordsFrom n (p :: ps)) := by
  cases p, ps using Part.mergeInto.fun_cases with
  | case1 t u rest =>
    have hmerged : joined ((t ++ " " ++ u) :: wordsFrom n rest) =
        t ++ " " ++ joined (u :: wordsFrom n rest) := String.intercalate_cons_append
    have hne : u :: wordsFrom n rest ≠ [] := List.cons_ne_nil _ _
    exact hmerged.trans (joined_cons t hne).symm
  | case2 p ps hother => rw [Part.mergeInto.eq_2 p ps hother]

theorem bindingsFrom_mergeInto (n : Nat) (p : Part) (ps : List Part) :
    bindingsFrom n (p.mergeInto ps) = bindingsFrom n (p :: ps) := by
  cases p, ps using Part.mergeInto.fun_cases with
  | case1 t u rest => rfl
  | case2 p ps hother => rw [Part.mergeInto.eq_2 p ps hother]

/-- What stands between a word and the parts that follow it, if any do. -/
private def gap (ps : List Part) : String :=
  if ps = [] then "" else " "

private theorem joined_wordsFrom_cons (n : Nat) (p : Part) (ps : List Part) :
    joined (wordsFrom n (p :: ps)) = p.word n ++ (gap ps ++ joined (wordsFrom (p.next n) ps)) := by
  cases ps with
  | nil => simp [wordsFrom, gap]
  | cons q qs =>
    have hne : wordsFrom (p.next n) (q :: qs) ≠ [] := by simp [wordsFrom]
    rw [wordsFrom, joined_cons _ hne, gap, if_neg (List.cons_ne_nil q qs), String.append_assoc]

private theorem mergeInto_ne_nil (p : Part) (ps : List Part) : p.mergeInto ps ≠ [] := by
  cases p, ps using Part.mergeInto.fun_cases with
  | case1 t u rest => exact List.cons_ne_nil _ _
  | case2 p ps hother =>
    rw [Part.mergeInto.eq_2 p ps hother]
    exact List.cons_ne_nil _ _

theorem joined_wordsFrom_merge (n : Nat) (ps : List Part) :
    joined (wordsFrom n (merge ps)) = joined (wordsFrom n ps) := by
  induction ps generalizing n with
  | nil => rfl
  | cons p ps ih =>
    have hnil : merge ps = [] ↔ ps = [] := by
      cases ps with
      | nil => simp [merge]
      | cons q qs => simp [merge, mergeInto_ne_nil]
    have hgap : gap (merge ps) = gap ps := by simp only [gap, hnil]
    rw [merge, joined_wordsFrom_mergeInto, joined_wordsFrom_cons, joined_wordsFrom_cons, hgap, ih]

theorem bindingsFrom_merge (n : Nat) (ps : List Part) :
    bindingsFrom n (merge ps) = bindingsFrom n ps := by
  induction ps generalizing n with
  | nil => rfl
  | cons p ps ih => rw [merge, bindingsFrom_mergeInto, bindingsFrom, bindingsFrom, ih]

/-! ### Merged parts -/

/-- There is no text in front. -/
def BeginsBound (ps : List Part) : Prop :=
  ∀ p ∈ ps.head?, p.isBound

/-- Parts without texts side by side, whose texts are not empty and hold no mark of variables. -/
inductive IsMerged : List Part → Prop
  | nil : IsMerged []
  | bound {p : Part} {ps : List Part} (hp : p.isBound) (hps : IsMerged ps) : IsMerged (p :: ps)
  | text {t : String} {ps : List Part} (hne : t ≠ "") (hmark : '@' ∉ t.toList)
      (hps : IsMerged ps) (hbegin : BeginsBound ps) : IsMerged (.literal t :: ps)

theorem IsMerged.mergeInto {p : Part} {ps : List Part} (hps : IsMerged ps) (hmark : p.isMarkFree)
    (hne : p ≠ .literal "") : IsMerged (p.mergeInto ps) := by
  cases p, ps using Part.mergeInto.fun_cases with
  | case1 t u rest =>
    have ht : '@' ∉ t.toList := by simpa [Part.isMarkFree] using hmark
    cases hps with
    | bound hp _ => exact absurd hp Bool.false_ne_true
    | text hu hmarku hrest hbegin =>
      refine .text ?_ ?_ hrest hbegin
      · simp [String.append_eq_empty_iff]
      · simp [String.toList_append, ht, hmarku]
  | case2 p ps hother =>
    rw [Part.mergeInto.eq_2 p ps hother]
    cases p with
    | literal t =>
      refine .text ?_ (by simpa [Part.isMarkFree] using hmark) hps ?_
      · rintro rfl
        exact hne rfl
      · -- a text in front of `ps` would have been merged
        intro q hq
        obtain ⟨rest, rfl⟩ : ∃ rest, ps = q :: rest := by
          cases ps with
          | nil => exact absurd hq (by simp)
          | cons q' rest => exact ⟨rest, by rw [Option.some.inj hq]⟩
        cases q with
        | literal u => exact absurd rfl (hother t u rest rfl)
        | value v => rfl
        | collection name => rfl
    | value v => exact .bound rfl hps
    | collection name => exact .bound rfl hps

theorem isMerged_merge {ps : List Part} (hmark : ∀ p ∈ ps, p.isMarkFree)
    (hne : Part.literal "" ∉ ps) : IsMerged (merge ps) := by
  induction ps with
  | nil => exact .nil
  | cons p ps ih =>
    obtain ⟨hp, hps⟩ := List.forall_mem_cons.mp hmark
    rw [List.mem_cons, not_or] at hne
    exact (ih hps hne.2).mergeInto hp (Ne.symm hne.1)

/-- **The normal form of a fragment that steps build is merged.** -/
theorem isMerged_normalForm {steps : List Step} (h : (ofSteps steps).IsMarkFree) :
    IsMerged (ofSteps steps).normalForm := by
  refine isMerged_merge h fun hmem => ?_
  rw [parts_ofSteps] at hmem
  obtain ⟨text, -, hne⟩ := exists_trim_of_mem_partsOf hmem
  exact hne rfl

/-! ### Reading a query -/

/-- Texts without the mark end where the mark stands. -/
private theorem append_inj_of_mark {a b s t : List Char} (ha : '@' ∉ a) (hb : '@' ∉ b)
    (hs : ∀ c ∈ s.head?, c = '@') (ht : ∀ c ∈ t.head?, c = '@') (h : a ++ s = b ++ t) :
    a = b ∧ s = t := by
  induction a generalizing b with
  | nil =>
    cases b with
    | nil => exact ⟨rfl, h⟩
    | cons d b =>
      obtain rfl : s = d :: (b ++ t) := h
      obtain rfl : d = '@' := hs d rfl
      exact absurd List.mem_cons_self hb
  | cons c a ih =>
    rw [List.mem_cons, not_or] at ha
    cases b with
    | nil =>
      obtain rfl : c :: (a ++ s) = t := h
      exact absurd (ht c rfl).symm ha.1
    | cons d b =>
      rw [List.mem_cons, not_or] at hb
      obtain ⟨rfl, hrest⟩ := List.cons.inj h
      obtain ⟨rfl, rfl⟩ := ih ha.2 hb.2 hrest
      exact ⟨rfl, rfl⟩

/-- A bound part begins its word with the mark. -/
private theorem head?_word {p : Part} (hp : p.isBound) (n : Nat) (s : String) :
    (p.word n ++ s).toList.head? = some '@' := by
  cases p with
  | literal text => exact absurd hp Bool.false_ne_true
  | value v => simp [Part.word, String.toList_append]
  | collection name => simp [Part.word, String.toList_append]

/-- The character behind the mark tells values from names of collections. -/
private theorem word_value_ne_collection (n : Nat) (v : Json) (name : String) (s t : String) :
    (Part.value v).word n ++ s ≠ (Part.collection name).word n ++ t := by
  intro h
  have hchars := congrArg String.toList h
  simp [Part.word, Part.variableName, String.toList_append] at hchars

/-- Bound parts that begin the same text are alike. -/
private theorem alike_of_word_append_eq {p q : Part} (hp : p.isBound) (hq : q.isBound) {n : Nat}
    {s t : String} (h : p.word n ++ s = q.word n ++ t) : p.Alike q ∧ s = t := by
  cases p with
  | literal text => exact absurd hp Bool.false_ne_true
  | value v =>
    cases q with
    | literal text => exact absurd hq Bool.false_ne_true
    | value w => exact ⟨.value v w, (String.append_right_inj _).mp h⟩
    | collection name => exact absurd h (word_value_ne_collection n v name s t)
  | collection name =>
    cases q with
    | literal text => exact absurd hq Bool.false_ne_true
    | value w => exact absurd h.symm (word_value_ne_collection n w name t s)
    | collection name' => exact ⟨.collection name name', (String.append_right_inj _).mp h⟩

/-- Merged parts with an empty text are none. -/
private theorem IsMerged.joined_eq_empty_iff {ps : List Part} (h : IsMerged ps) (n : Nat) :
    joined (wordsFrom n ps) = "" ↔ ps = [] := by
  refine ⟨fun hempty => ?_, fun hnil => by rw [hnil]; rfl⟩
  cases h with
  | nil => rfl
  | @bound p ps hp _ =>
    rw [joined_wordsFrom_cons] at hempty
    have hhead := head?_word hp n (gap ps ++ joined (wordsFrom (p.next n) ps))
    rw [hempty] at hhead
    exact absurd hhead (by simp)
  | text hne _ _ _ =>
    rw [joined_wordsFrom_cons, String.append_eq_empty_iff] at hempty
    exact absurd hempty.1 hne

/-- The text of parts begins with the mark if they do not begin with a text. -/
private theorem BeginsBound.head? {ps : List Part} (h : BeginsBound ps) (n : Nat) :
    ∀ c ∈ (joined (wordsFrom n ps)).toList.head?, c = '@' := by
  intro c hc
  cases ps with
  | nil => exact absurd hc (by simp [wordsFrom])
  | cons p ps =>
    rw [joined_wordsFrom_cons, head?_word (h p rfl)] at hc
    exact (Option.some.inj hc).symm

/-- What follows a word shows the text of the parts that follow it. -/
private theorem joined_eq_of_gap_append_eq {ps qs : List Part} {n : Nat}
    (h : gap ps ++ joined (wordsFrom n ps) = gap qs ++ joined (wordsFrom n qs)) :
    joined (wordsFrom n ps) = joined (wordsFrom n qs) := by
  by_cases hps : ps = []
  · by_cases hqs : qs = []
    · rw [hps, hqs]
    · rw [gap, gap, if_pos hps, if_neg hqs, hps] at h
      exact absurd (congrArg String.toList h) (by simp [String.toList_append, wordsFrom])
  · by_cases hqs : qs = []
    · rw [gap, gap, if_neg hps, if_pos hqs, hqs] at h
      exact absurd (congrArg String.toList h) (by simp [String.toList_append, wordsFrom])
    · rw [gap, gap, if_neg hps, if_neg hqs] at h
      exact (String.append_right_inj " ").mp h

private theorem not_mem_append_gap {t : String} (h : '@' ∉ t.toList) (ps : List Part) :
    '@' ∉ t.toList ++ (gap ps).toList := by
  rw [List.mem_append, not_or]
  refine ⟨h, ?_⟩
  unfold gap
  split <;> decide

private theorem gap_eq {ps qs : List Part} (h : List.Forall₂ Part.Alike ps qs) :
    gap ps = gap qs := by
  cases h <;> rfl

/-- A text without the mark is not taken for a variable. -/
private theorem text_append_ne_word_append {t : String} (hne : t ≠ "") (hmark : '@' ∉ t.toList)
    {p : Part} (hp : p.isBound) (n : Nat) (s s' : String) : t ++ s ≠ p.word n ++ s' := by
  intro h
  have hhead : (t ++ s).toList.head? = some '@' := by rw [h, head?_word hp]
  rw [String.toList_append, List.head?_append_of_ne_nil _ (by simpa using hne)] at hhead
  exact hmark (List.mem_of_mem_head? hhead)

/-- **Equal texts come from alike parts.** -/
theorem alike_of_joined_eq {ps qs : List Part} (hps : IsMerged ps) (hqs : IsMerged qs) {n : Nat}
    (h : joined (wordsFrom n ps) = joined (wordsFrom n qs)) : List.Forall₂ Part.Alike ps qs := by
  induction hps generalizing qs n with
  | nil =>
    obtain rfl := (hqs.joined_eq_empty_iff n).mp h.symm
    exact .nil
  | @bound p ps hp hps ih =>
    cases hqs with
    | nil =>
      have hnil := ((IsMerged.bound hp hps).joined_eq_empty_iff n).mp h
      exact absurd hnil (List.cons_ne_nil p ps)
    | bound hq hqs =>
      rw [joined_wordsFrom_cons, joined_wordsFrom_cons] at h
      obtain ⟨halike, hrest⟩ := alike_of_word_append_eq hp hq h
      rw [halike.next_eq] at hrest
      exact .cons halike (ih hqs (joined_eq_of_gap_append_eq hrest))
    | text hne hmark hqs hbegin =>
      rw [joined_wordsFrom_cons, joined_wordsFrom_cons] at h
      exact absurd h.symm (text_append_ne_word_append hne hmark hp n _ _)
  | @text t ps hne hmark hps hbegin ih =>
    cases hqs with
    | nil =>
      have hnil := ((IsMerged.text hne hmark hps hbegin).joined_eq_empty_iff n).mp h
      exact absurd hnil (List.cons_ne_nil _ ps)
    | bound hq hqs =>
      rw [joined_wordsFrom_cons, joined_wordsFrom_cons] at h
      exact absurd h (text_append_ne_word_append hne hmark hq n _ _)
    | @text u qs hne' hmark' hqs hbegin' =>
      rw [joined_wordsFrom_cons, joined_wordsFrom_cons] at h
      have hchars := congrArg String.toList h
      simp only [String.toList_append, ← List.append_assoc] at hchars
      -- the blank in front of a mark still belongs to the text
      obtain ⟨htexts, hjoined⟩ := append_inj_of_mark (not_mem_append_gap hmark ps)
        (not_mem_append_gap hmark' qs) (hbegin.head? _) (hbegin'.head? _) hchars
      have hrest := ih hqs (String.toList_injective hjoined)
      rw [gap_eq hrest] at htexts
      obtain rfl := String.toList_injective (List.append_cancel_right htexts)
      exact .cons (.literal t) hrest

/-! ### Reading the variables -/

/-- Alike parts that bind the same are the same. -/
theorem eq_of_bindingsFrom_eq {ps qs : List Part} (h : List.Forall₂ Part.Alike ps qs) {n : Nat}
    (hvars : bindingsFrom n ps = bindingsFrom n qs) : ps = qs := by
  induction h generalizing n with
  | nil => rfl
  | cons hpart _ ih =>
    cases hpart with
    | literal t => rw [ih hvars]
    | value v w =>
      obtain ⟨hentry, hrest⟩ := List.cons.inj hvars
      rw [(Prod.mk.inj hentry).2, ih hrest]
    | collection m m' =>
      obtain ⟨hentry, hrest⟩ := List.cons.inj hvars
      rw [Json.str.inj (Prod.mk.inj hentry).2, ih hrest]

/-- Equal parts are alike, however values are compared. -/
private theorem alike_of_part_beq {p q : Part} (h : p == q) : p.Alike q := by
  cases p with
  | literal t =>
    cases q with
    | literal u =>
      obtain rfl : t = u := eq_of_beq h
      exact .literal t
    | value w => exact absurd h Bool.false_ne_true
    | collection m => exact absurd h Bool.false_ne_true
  | value v =>
    cases q with
    | literal u => exact absurd h Bool.false_ne_true
    | value w => exact .value v w
    | collection m => exact absurd h Bool.false_ne_true
  | collection m =>
    cases q with
    | literal u => exact absurd h Bool.false_ne_true
    | value w => exact absurd h Bool.false_ne_true
    | collection m' => exact .collection m m'

theorem alike_of_beq {ps qs : List Part} (h : ps == qs) : List.Forall₂ Part.Alike ps qs := by
  induction ps generalizing qs with
  | nil =>
    cases qs with
    | nil => exact .nil
    | cons q qs => exact absurd h Bool.false_ne_true
  | cons p ps ih =>
    cases qs with
    | nil => exact absurd h Bool.false_ne_true
    | cons q qs =>
      rw [List.cons_beq_cons, Bool.and_eq_true] at h
      exact .cons (alike_of_part_beq h.1) (ih h.2)

/-- Alike parts are equal if what they bind is. -/
theorem bindingsFrom_beq {ps qs : List Part} (h : List.Forall₂ Part.Alike ps qs) (n : Nat) :
    (bindingsFrom n ps == bindingsFrom n qs) = (ps == qs) := by
  induction h generalizing n with
  | nil => rfl
  | @cons p q ps qs hpart _ ih =>
    rw [List.cons_beq_cons, ← ih (p.next n)]
    cases hpart with
    | literal t =>
      have hpart : (Part.literal t == Part.literal t) = true := beq_self_eq_true t
      rw [hpart, Bool.true_and]
      rfl
    | value v w =>
      have hpart : (Part.value v == Part.value w) = (v == w) := rfl
      rw [hpart, ← Json.entry_beq (Part.variableName n)]
      rfl
    | collection m m' =>
      have hpart : (Part.collection m == Part.collection m') = (Json.str m == .str m') := rfl
      rw [hpart, ← Json.entry_beq ("@" ++ Part.variableName n)]
      rfl

/-! ### The normal form -/

/-- The query of a fragment is that of its normal form. -/
theorem query_eq (f : Fragment) :
    f.query = ⟨joined (wordsFrom 0 f.normalForm), bindingsFrom 0 f.normalForm⟩ := by
  rw [normalForm, joined_wordsFrom_merge, bindingsFrom_merge]
  rfl

/-- Queries of alike parts compare as their parts do. -/
private theorem query_beq_of_alike {ps qs : List Part} (h : List.Forall₂ Part.Alike ps qs) :
    ((⟨joined (wordsFrom 0 ps), bindingsFrom 0 ps⟩ : Query) ==
      ⟨joined (wordsFrom 0 qs), bindingsFrom 0 qs⟩) = (ps == qs) := by
  change (joined (wordsFrom 0 ps) == joined (wordsFrom 0 qs) &&
    Json.obj (bindingsFrom 0 ps) == Json.obj (bindingsFrom 0 qs)) = (ps == qs)
  rw [wordsFrom_eq h, beq_self_eq_true, Bool.true_and,
    Json.beq_obj_of_keys_eq (nodup_keys_bindingsFrom 0 qs) (names_bindingsFrom_eq h 0),
    bindingsFrom_beq h]

/-- **A query tells the normal form of its fragment**, and nothing else. Two fragments that are
built step by step, without the mark of variables in their texts, give the same query exactly if
they have the same normal form: the same texts between the same values and names, in the same
order. It does not matter whether being the same means to be equal or to compare as equal. -/
theorem query_eq_iff_normalForm {steps steps' : List Step} (h : (ofSteps steps).IsMarkFree)
    (h' : (ofSteps steps').IsMarkFree) :
    let f := ofSteps steps
    let g := ofSteps steps'
    (f.query = g.query ↔ f.normalForm = g.normalForm) ∧
      (f.query == g.query) = (f.normalForm == g.normalForm) := by
  intro f g
  have halike : f.query.text = g.query.text → List.Forall₂ Part.Alike f.normalForm g.normalForm := by
    intro htext
    rw [query_eq f, query_eq g] at htext
    exact alike_of_joined_eq (isMerged_normalForm h) (isMerged_normalForm h') htext
  refine ⟨⟨fun hquery => ?_, fun hnormal => ?_⟩, ?_⟩
  · have hvars := congrArg Query.bindVars hquery
    rw [query_eq f, query_eq g] at hvars
    exact eq_of_bindingsFrom_eq (halike (congrArg Query.text hquery)) hvars
  · rw [query_eq f, query_eq g, hnormal]
  · rw [Bool.eq_iff_iff]
    constructor
    · intro hquery
      have htext : f.query.text = g.query.text := eq_of_beq (Bool.and_eq_true_iff.mp hquery).1
      rw [query_eq f, query_eq g, query_beq_of_alike (halike htext)] at hquery
      exact hquery
    · intro hnormal
      rw [query_eq f, query_eq g, query_beq_of_alike (alike_of_beq hnormal)]
      exact hnormal

/-- Grouping and blanks leave no trace in a query, and neither does the place where a text ends. -/
theorem query_eq_of_regrouped_steps :
    let steps : List Step := [.literal "FOR i IN", .collection "pets",
      .append [.literal " FILTER\t", .literal "i.age >"], .absent, .value (.int 3)]
    let steps' : List Step := [.append [.literal "FOR i IN ", .append [.collection "pets"]],
      .literal "FILTER i.age >", .literal "  ", .value (.int 3)]
    let f := ofSteps steps
    let g := ofSteps steps'
    f.IsMarkFree ∧ g.IsMarkFree ∧ f.normalForm = g.normalForm ∧ (f == g) = false ∧
      (f.query = g.query ↔ f.normalForm = g.normalForm) ∧
      (f.query == g.query) = (f.normalForm == g.normalForm) := by
  intro steps steps' f g
  have hf : f.IsMarkFree := by decide
  have hg : g.IsMarkFree := by decide
  have hnormal : f.normalForm = g.normalForm := by cbv
  exact ⟨hf, hg, hnormal, by decide, query_eq_iff_normalForm hf hg⟩

/-- A text that holds the mark may be taken for a variable. -/
example :
    let f := ofSteps [.literal "@value0", .value .null]
    let g := ofSteps [.value .null, .literal "@value0"]
    f.query = g.query ∧ (f.normalForm == g.normalForm) = false :=
  ⟨rfl, rfl⟩

end Fragment

end DocQuery
