import DocQuery.Filter.Step
import DocQuery.Proofs.Filter.Defined
import DocQuery.Proofs.Terms.FirstFault

/-!
# What steps leave of a filter

A step names an operator or a connective that there is not, and is at fault; or it adds one
condition, or chooses the connective. The filter decides neither which of these happens
(`Filter.apply_eq_error_iff`) nor what is added (`Filter.after_eq`). So the steps that succeed leave
their conditions, in order, and the connective that was chosen last (`Filter.run_eq`).

The text of a filter shows the conditions that have an operand and no others (`Filter.text_congr`),
and the texts of two filters with the same connective are joined by it (`Filter.text_append`).
`Filter.text_run_shows_defined` says what text any steps lead to.
-/

namespace DocQuery.Filter

/-! ### Single steps -/

namespace Step

/-- The condition that the step adds. An unknown operator adds none. -/
def condition? : Step → Option Condition
  | .condition name operand => (Operator.find? name).map (⟨·, operand⟩)
  | .compare operator operand => some ⟨operator, some operand⟩
  | .undefined operator => some ⟨operator, none⟩
  | .mode _ => none

/-- The connective that the step chooses. An unknown word chooses none. -/
def mode? : Step → Option Mode
  | .mode name => [Mode.and, Mode.or].find? (·.word == name)
  | _ => none

/-- The step names something that there is not. -/
inductive Fault : Step → CompileError → Prop
  | operator {name : String} (operand : Option Operand) (h : name ∉ Operator.names) :
      Fault (.condition name operand) (.unknownOperator name)
  | mode {name : String} (hand : name ≠ "AND") (hor : name ≠ "OR") :
      Fault (.mode name) (.unknownMode name)

/-- A step that is at fault contributes nothing, and no other step does. -/
theorem exists_fault_iff {step : Step} :
    (∃ e, step.Fault e) ↔ step.condition? = none ∧ step.mode? = none := by
  constructor
  · rintro ⟨e, ⟨operand, hname⟩ | ⟨hand, hor⟩⟩
    · rw [Operator.mem_names_iff, Operator.isName, Bool.not_eq_true, Option.isSome_eq_false_iff,
        Option.isNone_iff_eq_none] at hname
      exact ⟨Option.map_eq_none_iff.mpr hname, rfl⟩
    · exact ⟨rfl, by simp [mode?, Mode.word, hand.symm, hor.symm]⟩
  · rintro ⟨hcondition, hmode⟩
    rcases step with ⟨name, operand⟩ | ⟨op, operand⟩ | op | name
    · have hname := Option.map_eq_none_iff.mp hcondition
      refine ⟨_, .operator operand ?_⟩
      simp [Operator.mem_names_iff, Operator.isName, hname]
    · exact absurd hcondition (Option.some_ne_none _)
    · exact absurd hcondition (Option.some_ne_none _)
    · obtain ⟨hand, hor⟩ : ¬ "AND" = name ∧ ¬ "OR" = name := by
        simpa [mode?, Mode.word] using hmode
      exact ⟨_, .mode (Ne.symm hand) (Ne.symm hor)⟩

end Step

/-- **The filter does not decide whether a step is at fault.** -/
theorem apply_eq_error_iff {f : Filter} {step : Step} {e : CompileError} :
    f.apply step = .error e ↔ step.Fault e := by
  rcases step with ⟨name, operand⟩ | ⟨op, operand⟩ | op | name
  · rw [apply, condition, Except.map_eq_error_iff, Operator.ofName_eq_error_iff]
    constructor
    · rintro ⟨hname, rfl⟩
      exact .operator operand hname
    · rintro ⟨-, hname⟩
      exact ⟨hname, rfl⟩
  · exact iff_of_false nofun nofun
  · exact iff_of_false nofun nofun
  · rw [apply, Except.map_eq_error_iff, Mode.ofName_eq_error_iff]
    constructor
    · rintro ⟨hand, hor, rfl⟩
      exact .mode hand hor
    · rintro (- | ⟨hand, hor⟩)
      exact ⟨hand, hor, rfl⟩

/-- The filter that later steps build on. A step that is at fault leaves it as it was. -/
def after (f : Filter) (step : Step) : Filter :=
  match f.apply step with
  | .ok g => g
  | .error _ => f

theorem after_eq (f : Filter) (step : Step) :
    f.after step = ⟨f.conditions ++ step.condition?.toList, step.mode?.getD f.mode⟩ := by
  rcases step with ⟨name, operand⟩ | ⟨op, operand⟩ | op | name
  · rw [after, apply, condition, Operator.ofName, Step.condition?]
    rcases Operator.find? name with - | op
    · simp [Except.map, Step.mode?]
    · simp [Except.map, Step.mode?, push]
  · rfl
  · rfl
  · rw [after, apply, Mode.ofName, Step.condition?, Step.mode?]
    by_cases hand : name = "AND"
    · simp [Except.map, Mode.word, hand, setMode]
    · by_cases hor : name = "OR"
      · simp [Except.map, Mode.word, hor, setMode]
      · simp [Except.map, Mode.word, hand, hor, Ne.symm hand, Ne.symm hor]

/-! ### Runs -/

theorem run_cons (f : Filter) (step : Step) (steps : List Step) :
    run f (step :: steps) = run (f.after step) steps := by
  rw [run, after]
  rcases f.apply step with e | g <;> rfl

/-- **Steps leave their conditions and the last connective.** -/
theorem run_eq (f : Filter) (steps : List Step) :
    run f steps = ⟨f.conditions ++ steps.filterMap Step.condition?,
      (steps.filterMap Step.mode?).getLast?.getD f.mode⟩ := by
  induction steps generalizing f with
  | nil => simp [run]
  | cons step steps ih =>
    have hconditions : step.condition?.toList ++ steps.filterMap Step.condition? =
        (step :: steps).filterMap Step.condition? := by
      rcases h : step.condition? with - | c <;> simp [h]
    have hmode : (steps.filterMap Step.mode?).getLast?.getD (step.mode?.getD f.mode) =
        ((step :: steps).filterMap Step.mode?).getLast?.getD f.mode := by
      rcases h : step.mode? with - | mode <;> simp [h, List.getLast?_cons]
    rw [run_cons, ih, after_eq, List.append_assoc, hconditions, hmode]

/-! ### Texts -/

/-- Filters with the same defined conditions and the same connective have the same text. -/
theorem text_congr {f g : Filter} (hcomparisons : f.comparisons = g.comparisons)
    (hmode : f.mode = g.mode) (param : String) : f.text param = g.text param := by
  rw [text_eq, text_eq, hcomparisons, hmode]

/-- Conditions without an operand do not compare anything. -/
theorem comparisons_filter_isSome (conditions : List Condition) (mode : Mode) :
    comparisons ⟨conditions.filter (·.operand.isSome), mode⟩ = comparisons ⟨conditions, mode⟩ := by
  rw [comparisons, comparisons, List.filterMap_filter]
  refine List.filterMap_congr fun c _ => ?_
  rcases c with ⟨op, - | operand⟩ <;> rfl

/-- **The connective stands between texts**, unless one of them is missing. -/
theorem text_append (param : String) (mode : Mode) (xs ys : List Condition) :
    text param ⟨xs ++ ys, mode⟩ = (" " ++ mode.word ++ " ").intercalate
      ([text param ⟨xs, mode⟩, text param ⟨ys, mode⟩].filter (· ≠ "")) := by
  have happend : comparisons ⟨xs ++ ys, mode⟩ =
      comparisons ⟨xs, mode⟩ ++ comparisons ⟨ys, mode⟩ := List.filterMap_append
  simp only [text_eq, happend, List.map_append]
  exact Text.intercalate_append _ (Comparison.text_ne_empty_of_mem param)
    (Comparison.text_ne_empty_of_mem param)

theorem text_eq_empty_iff_forall {param : String} {f : Filter} :
    f.text param = "" ↔ ∀ c ∈ f.conditions, c.operand = none := by
  rw [text_eq_empty_iff, comparisons, List.filterMap_eq_nil_iff]
  simp only [Condition.comparison?, Option.map_eq_none_iff]

/-- **A filter's text shows its defined conditions** and the connective chosen last. Whatever steps
build a filter, its text is that of the filter which holds just the conditions with an operand that
the steps add, in order, under the last connective that they choose, or else `AND`. A step is at
fault if it names an unknown operator or an unknown connective, whatever the filter is, and these
steps are the ones that contribute nothing. The text of two lists of conditions is made of the texts
of both, with the connective between them unless one is empty; and a text is empty if no condition
has an operand. -/
theorem text_run_shows_defined (param : String) :
    (∀ steps : List Step, (run {} steps).text param =
      text param ⟨(steps.filterMap Step.condition?).filter (·.operand.isSome),
        (steps.filterMap Step.mode?).getLast?.getD .and⟩) ∧
    (∀ (f : Filter) (step : Step), (∀ e, f.apply step = .error e ↔ step.Fault e) ∧
      ((∃ e, step.Fault e) ↔ step.condition? = none ∧ step.mode? = none)) ∧
    (∀ (mode : Mode) (xs ys : List Condition),
      text param ⟨xs ++ ys, mode⟩ = (" " ++ mode.word ++ " ").intercalate
        ([text param ⟨xs, mode⟩, text param ⟨ys, mode⟩].filter (· ≠ ""))) ∧
    ∀ f : Filter, f.text param = "" ↔ ∀ c ∈ f.conditions, c.operand = none := by
  refine ⟨fun steps => ?_, fun f step => ⟨fun e => apply_eq_error_iff, Step.exists_fault_iff⟩,
    text_append param, fun f => text_eq_empty_iff_forall⟩
  rw [run_eq]
  exact text_congr (comparisons_filter_isSome _ _).symm rfl param

/-- A connective that fails to be chosen leaves the one before it in place. -/
example :
    let steps : List Step := [.mode "OR", .compare .gt (.scalar (.int 5)), .undefined .eq,
      .condition "between" (some (.scalar .null)), .mode "or", .condition "neq" (some (.list []))]
    (run {} steps).text "i.age" = "i.age > 5 OR i.age != []" := by
  decide

end DocQuery.Filter
