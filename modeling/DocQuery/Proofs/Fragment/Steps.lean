import DocQuery.Fragment.Step
import DocQuery.Proofs.Operand.Literal

/-!
# What steps supply

A fragment that is built step by step has the parts that its steps supply, in order
(`Fragment.parts_ofSteps`). What is appended supplies its own parts wherever it stands, so the
nesting of steps leaves no trace; blank text and absent fragments supply nothing. Texts are supplied
without the blanks at their ends and are never empty (`Fragment.exists_trim_of_mem_partsOf`), so all
words of the fragment are solid (`Fragment.IsBuilt.isSolid`).
-/

namespace DocQuery.Fragment

open Text (isSolid isSolid_append isSolid_trim ne_empty_of_isSolid)

mutual

/-- The parts that a step supplies. -/
def Step.parts : Step → List Part
  | .literal text => if Text.trim text = "" then [] else [.literal (Text.trim text)]
  | .value v => [.value v]
  | .collection name => [.collection name]
  | .append steps => partsOf steps
  | .absent => []

/-- The parts that steps supply, in order. -/
def partsOf : List Step → List Part
  | [] => []
  | step :: rest => step.parts ++ partsOf rest

end

mutual

private theorem parts_apply (f : Fragment) :
    ∀ step : Step, (step.apply f).parts = f.parts ++ step.parts
  | .literal text => by rw [Step.apply, Step.parts, parts_literal]
  | .value v => rfl
  | .collection name => rfl
  | .append steps => by
    rw [Step.apply, Step.parts, parts_appendOption_some, parts_run {} steps]
    rfl
  | .absent => by simp [Step.apply, Step.parts]

/-- Steps add the parts that they supply. -/
theorem parts_run (f : Fragment) :
    ∀ steps : List Step, (run f steps).parts = f.parts ++ partsOf steps
  | [] => by simp [run, partsOf]
  | step :: rest => by
    rw [run, partsOf, parts_run (step.apply f) rest, parts_apply f step, List.append_assoc]

end

/-- **A fragment has the parts that its steps supply.** -/
theorem parts_ofSteps (steps : List Step) : (ofSteps steps).parts = partsOf steps :=
  parts_run {} steps

mutual

private theorem Step.exists_trim_of_mem_parts {t : String} :
    ∀ {step : Step}, Part.literal t ∈ step.parts → ∃ text, Text.trim text = t ∧ t ≠ ""
  | .literal text, h => by
    by_cases hblank : Text.trim text = ""
    · simp [Step.parts, hblank] at h
    · obtain rfl : t = Text.trim text := by simpa [Step.parts, hblank] using h
      exact ⟨text, rfl, hblank⟩
  | .value v, h => by simp [Step.parts] at h
  | .collection name, h => by simp [Step.parts] at h
  | .append steps, h => exists_trim_of_mem_partsOf h
  | .absent, h => by simp [Step.parts] at h

/-- A text that steps supply is what trimming leaves of some text, and not empty. -/
theorem exists_trim_of_mem_partsOf {t : String} :
    ∀ {steps : List Step}, Part.literal t ∈ partsOf steps → ∃ text, Text.trim text = t ∧ t ≠ ""
  | [], h => by simp [partsOf] at h
  | step :: rest, h => by
    rw [partsOf] at h
    rcases List.mem_append.mp h with hstep | hrest
    · exact Step.exists_trim_of_mem_parts hstep
    · exact exists_trim_of_mem_partsOf hrest

end

/-! ### Built fragments -/

/-- The fragment is built step by step. -/
def IsBuilt (f : Fragment) : Prop :=
  ∃ steps, f = ofSteps steps

theorem isBuilt_ofSteps (steps : List Step) : (ofSteps steps).IsBuilt :=
  ⟨steps, rfl⟩

/-- What holds of the texts among parts and of the names of variables holds of all words. -/
theorem forall_mem_wordsFrom {P : String → Prop} {parts : List Part}
    (hliteral : ∀ t, Part.literal t ∈ parts → P t)
    (hbound : ∀ n (p : Part), p.isBound → P (p.word n)) (n : Nat) :
    ∀ w ∈ wordsFrom n parts, P w := by
  induction parts generalizing n with
  | nil => exact fun w h => absurd h List.not_mem_nil
  | cons p parts ih =>
    have hrest := ih (fun t ht => hliteral t (List.mem_cons_of_mem p ht)) (p.next n)
    refine List.forall_mem_cons.mpr ⟨?_, hrest⟩
    rcases p with text | v | name
    · exact hliteral text List.mem_cons_self
    · exact hbound n (.value v) rfl
    · exact hbound n (.collection name) rfl

private theorem isSolid_variableName (mark : String) (hmark : isSolid mark.toList) (n : Nat) :
    isSolid (mark ++ Part.variableName n).toList := by
  have hnumber : isSolid n.repr.toList := (Decimal.isToken_repr n).isWord.solid
  rw [Part.variableName, ← String.append_assoc, String.toList_append, String.toList_append]
  exact isSolid_append hmark hnumber

theorem isSolid_word_of_isBound (n : Nat) (p : Part) (h : p.isBound) :
    isSolid (p.word n).toList := by
  rcases p with text | v | name
  · exact absurd h Bool.false_ne_true
  · exact isSolid_variableName "@" (by decide) n
  · exact isSolid_variableName "@@" (by decide) n

variable {f : Fragment}

/-- **The words of a fragment that is built are solid.** -/
theorem IsBuilt.isSolid (hf : f.IsBuilt) (n : Nat) :
    ∀ w ∈ wordsFrom n f.parts, Text.isSolid w.toList := by
  obtain ⟨steps, rfl⟩ := hf
  rw [parts_ofSteps]
  refine forall_mem_wordsFrom (fun t ht => ?_) isSolid_word_of_isBound n
  obtain ⟨text, rfl, hne⟩ := exists_trim_of_mem_partsOf ht
  exact isSolid_trim hne

/-- A fragment that is built has no empty words. -/
theorem IsBuilt.ne_empty (hf : f.IsBuilt) (n : Nat) : ∀ w ∈ wordsFrom n f.parts, w ≠ "" :=
  fun w hw => ne_empty_of_isSolid (hf.isSolid n w hw)

end DocQuery.Fragment
