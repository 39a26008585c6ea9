import DocQuery.Proofs.Fragment.Steps

/-!
# Blanks in fragments

No word of a fragment is blank or has blanks at its ends, so the query has no more blanks than it
needs: one between any two words and none at its ends. It is empty only if the fragment is, and then
nothing was supplied (`Fragment.Step.Supplies`), at any depth: no value, no name of a collection
and no text with a character that can be seen.

Therefore blanks in the texts that build a fragment are free. They may surround a text, and blank
texts may stand anywhere (`Fragment.Spaces`); the fragment is the same
(`Fragment.Spaces.ofSteps_eq`). `Fragment.ofSteps_carries_no_blanks` puts this together.
-/

namespace DocQuery.Fragment

open Text (isBlank isSolid isSolid_intercalate joined joined_eq_empty_iff trim_append_append
  trim_eq_empty_iff)

/-! ### Steps that supply something -/

/-- The step supplies a value, a name or a text that is not blank, by itself or inside of it. -/
inductive Step.Supplies : Step → Prop
  | literal {text : String} {c : Char} (hc : c ∈ text.toList) (hblank : isBlank c = false) :
      Supplies (.literal text)
  | value (v : Json) : Supplies (.value v)
  | collection (name : String) : Supplies (.collection name)
  | append {steps : List Step} {step : Step} (hstep : step ∈ steps) (h : Supplies step) :
      Supplies (.append steps)

theorem Step.supplies_literal_iff {text : String} :
    Supplies (.literal text) ↔ Text.trim text ≠ "" := by
  rw [Ne, trim_eq_empty_iff]
  constructor
  · rintro ⟨hc, hblank⟩ hall
    exact Bool.false_ne_true (hblank.symm.trans (hall _ hc))
  · intro h
    obtain ⟨c, hc, hblank⟩ : ∃ c ∈ text.toList, ¬ isBlank c := by simpa using h
    exact .literal hc (Bool.eq_false_iff.mpr hblank)

mutual

private theorem Step.parts_eq_nil_iff : ∀ step : Step, step.parts = [] ↔ ¬ step.Supplies
  | .literal text => by
    rw [Step.supplies_literal_iff, not_not, Step.parts]
    by_cases hblank : Text.trim text = ""
    · rw [if_pos hblank]
      exact iff_of_true rfl hblank
    · rw [if_neg hblank]
      exact iff_of_false (List.cons_ne_nil _ _) hblank
  | .value v => iff_of_false (List.cons_ne_nil _ _) (not_not_intro (.value v))
  | .collection name => iff_of_false (List.cons_ne_nil _ _) (not_not_intro (.collection name))
  | .append steps => by
    rw [Step.parts, partsOf_eq_nil_iff steps]
    constructor
    · rintro h (- | - | - | ⟨hstep, hsupplies⟩)
      exact h _ hstep hsupplies
    · exact fun h step hstep hsupplies => h (.append hstep hsupplies)
  | .absent => iff_of_true rfl nofun

/-- Steps have no parts if none of them supplies anything. -/
theorem partsOf_eq_nil_iff : ∀ steps : List Step, partsOf steps = [] ↔ ∀ step ∈ steps,
    ¬ step.Supplies
  | [] => iff_of_true rfl fun _ h => absurd h List.not_mem_nil
  | step :: rest => by
    rw [partsOf, List.append_eq_nil_iff, Step.parts_eq_nil_iff step, partsOf_eq_nil_iff rest,
      List.forall_mem_cons]

end

/-! ### Steps with more blanks -/

/-- The second steps are the first with blanks around texts and blank texts put in anywhere, in
steps that are appended as well. -/
inductive Spaces : List Step → List Step → Prop
  | nil : Spaces [] []
  | keep {steps spaced : List Step} (step : Step) (h : Spaces steps spaced) :
      Spaces (step :: steps) (step :: spaced)
  | around {steps spaced : List Step} {before after : String} (text : String)
      (hbefore : ∀ c ∈ before.toList, isBlank c) (hafter : ∀ c ∈ after.toList, isBlank c)
      (h : Spaces steps spaced) :
      Spaces (.literal text :: steps) (.literal (before ++ text ++ after) :: spaced)
  | inside {inner inner' steps spaced : List Step} (hinner : Spaces inner inner')
      (h : Spaces steps spaced) : Spaces (.append inner :: steps) (.append inner' :: spaced)
  | put {steps spaced : List Step} {text : String} (htext : ∀ c ∈ text.toList, isBlank c)
      (h : Spaces steps spaced) : Spaces steps (.literal text :: spaced)

theorem Spaces.partsOf_eq {steps spaced : List Step} (h : Spaces steps spaced) :
    partsOf spaced = partsOf steps := by
  induction h with
  | nil => rfl
  | keep step _ ih => rw [partsOf, partsOf, ih]
  | around text hbefore hafter _ ih =>
    rw [partsOf, partsOf, Step.parts, Step.parts, trim_append_append text hbefore hafter, ih]
  | inside _ _ ihinner ih => rw [partsOf, partsOf, Step.parts, Step.parts, ihinner, ih]
  | put htext _ ih =>
    rw [partsOf, Step.parts, if_pos (trim_eq_empty_iff.mpr htext), ih, List.nil_append]

/-- **Blanks leave no trace.** -/
theorem Spaces.ofSteps_eq {steps spaced : List Step} (h : Spaces steps spaced) :
    ofSteps spaced = ofSteps steps := by
  have hparts : (ofSteps spaced).parts = (ofSteps steps).parts := by
    rw [parts_ofSteps, parts_ofSteps, h.partsOf_eq]
  exact congrArg Fragment.mk hparts

/-! ### Queries -/

theorem IsBuilt.text_eq_empty_iff {f : Fragment} (hf : f.IsBuilt) :
    f.query.text = "" ↔ f.parts = [] := by
  have hwords : wordsFrom 0 f.parts = [] ↔ f.parts = [] := by
    rcases f.parts with - | ⟨p, parts⟩
    · exact iff_of_true rfl rfl
    · exact iff_of_false (List.cons_ne_nil _ _) (List.cons_ne_nil _ _)
  exact (joined_eq_empty_iff (hf.ne_empty 0)).trans hwords

/-- **Fragments carry no blanks.** Each word of a fragment that steps build is solid: it is not
empty, and neither its first nor its last character is blank. The query joins the words, so it is
empty or solid as well. It is empty exactly if the fragment is, and that is the case exactly if no
step supplies anything, to any depth. Blanks around the texts of steps and blank texts between steps
do not change the fragment. -/
theorem ofSteps_carries_no_blanks (steps : List Step) :
    let f := ofSteps steps
    let words := wordsFrom 0 f.parts
    (∀ w ∈ words, w ≠ "" ∧ isSolid w.toList) ∧
    (f.query.text = joined words ∧ (f.query.text = "" ∨ isSolid f.query.text.toList)) ∧
    (f.query.text = "" ↔ f.isEmpty) ∧
    (f.isEmpty ↔ ∀ step ∈ steps, ¬ step.Supplies) ∧
    ∀ spaced, Spaces steps spaced → ofSteps spaced = f := by
  intro f words
  have hf : f.IsBuilt := isBuilt_ofSteps steps
  have hempty : f.isEmpty ↔ f.parts = [] := List.isEmpty_iff
  refine ⟨fun w hw => ⟨hf.ne_empty 0 w hw, hf.isSolid 0 w hw⟩, ⟨rfl, ?_⟩, ?_, ?_,
    fun spaced => Spaces.ofSteps_eq⟩
  · by_cases hwords : words = []
    · have htext : f.query.text = joined words := rfl
      rw [htext, hwords]
      exact .inl rfl
    · exact .inr (isSolid_intercalate " " hwords (hf.isSolid 0))
  · rw [hf.text_eq_empty_iff, hempty]
  · rw [hempty, parts_ofSteps, partsOf_eq_nil_iff]

/-- An ideographic space and a line separator are blank, and so is what they make up. -/
example :
    let f := ofSteps [.literal "\u3000", .append [.literal " \tFOR i IN\u2028", .append []],
      .collection "pets", .literal ""]
    f.query.text = "FOR i IN @@value0" ∧ (ofSteps [.append [.literal "\u00a0"]]).isEmpty := by
  decide

end DocQuery.Fragment
