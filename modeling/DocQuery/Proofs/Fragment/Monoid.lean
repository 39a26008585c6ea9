import DocQuery.Proofs.Fragment.Variables
import DocQuery.Proofs.Json.Equality
import DocQuery.Proofs.Text.Word

/-!
# Appending fragments

Fragments are a monoid under appending, and the empty fragment is its unit. Steps that append can
therefore be taken apart: the steps inside them that add a text, a value or the name of a collection
(`Fragment.leavesOf`), performed one after another on a single fragment, build the same
(`Fragment.ofSteps_eq_foldl_leavesOf`). How deep these stood, and what was absent or empty between
them, leaves no trace.

A query respects appending. The words and variables of the first fragment stay as they are, and
those of the second are numbered on behind them (`Fragment.isRendering`); the text is that of the
words of both, with a blank between them unless there are none on one side
(`Fragment.joined_wordsFrom_append`).
-/

namespace DocQuery

open Text (joined)

/-! ### Fragments that equal themselves -/

private theorem Part.beq_self {p : Part} (h : ∀ v, p = .value v → v.IsRegular) :
    (p == p) = true := by
  rcases p with text | v | name
  · exact beq_self_eq_true text
  · exact (h v rfl).beq_self
  · exact beq_self_eq_true name

namespace Fragment

/-- Fragments that bind regular values equal themselves. -/
theorem beq_self {f : Fragment} (h : ∀ v, Part.value v ∈ f.parts → v.IsRegular) :
    (f == f) = true := by
  have hparts : (f.parts == f.parts) = true := by
    refine List.beq_self_of_forall_mem fun p hp => Part.beq_self ?_
    rintro v rfl
    exact h v hp
  exact hparts

/-! ### Steps without nesting -/

/-- The step adds a text, a value or the name of a collection by itself. -/
def Step.isLeaf : Step → Bool
  | .literal _ | .value _ | .collection _ => true
  | .append _ | .absent => false

mutual

/-- The leaves of a step, from left to right. -/
def Step.leaves : Step → List Step
  | .literal text => [.literal text]
  | .value v => [.value v]
  | .collection name => [.collection name]
  | .append steps => leavesOf steps
  | .absent => []

/-- The leaves of steps, from left to right. -/
def leavesOf : List Step → List Step
  | [] => []
  | step :: rest => step.leaves ++ leavesOf rest

end

mutual

private theorem Step.isLeaf_of_mem_leaves {leaf : Step} :
    ∀ {step : Step}, leaf ∈ step.leaves → leaf.isLeaf
  | .literal text, h | .value v, h | .collection name, h => by
    obtain rfl := List.mem_singleton.mp h
    rfl
  | .append steps, h => isLeaf_of_mem_leavesOf h
  | .absent, h => absurd h List.not_mem_nil

theorem isLeaf_of_mem_leavesOf {leaf : Step} :
    ∀ {steps : List Step}, leaf ∈ leavesOf steps → leaf.isLeaf
  | [], h => absurd h List.not_mem_nil
  | step :: rest, h => by
    rcases List.mem_append.mp h with hstep | hrest
    · exact Step.isLeaf_of_mem_leaves hstep
    · exact isLeaf_of_mem_leavesOf hrest

end

theorem partsOf_append (steps steps' : List Step) :
    partsOf (steps ++ steps') = partsOf steps ++ partsOf steps' := by
  induction steps with
  | nil => rfl
  | cons step steps ih => rw [List.cons_append, partsOf, partsOf, ih, List.append_assoc]

mutual

private theorem Step.partsOf_leaves : ∀ step : Step, partsOf step.leaves = step.parts
  | .literal _ | .value _ | .collection _ => List.append_nil _
  | .append steps => partsOf_leavesOf steps
  | .absent => rfl

/-- The leaves supply what the steps supply. -/
theorem partsOf_leavesOf : ∀ steps : List Step, partsOf (leavesOf steps) = partsOf steps
  | [] => rfl
  | step :: rest => by
    rw [leavesOf, partsOf_append, Step.partsOf_leaves step, partsOf_leavesOf rest, partsOf]

end

theorem run_eq_foldl (f : Fragment) (steps : List Step) :
    run f steps = steps.foldl Step.apply f := by
  induction steps generalizing f with
  | nil => rfl
  | cons step steps ih => exact ih (step.apply f)

/-- **Nesting leaves no trace.** The leaves of steps, performed one after another, build what the
steps build. -/
theorem ofSteps_eq_foldl_leavesOf (steps : List Step) :
    ofSteps steps = (leavesOf steps).foldl Step.apply {} := by
  have hparts : (ofSteps steps).parts = (ofSteps (leavesOf steps)).parts := by
    rw [parts_ofSteps, parts_ofSteps, partsOf_leavesOf]
  rw [← run_eq_foldl]
  exact congrArg Fragment.mk hparts

/-! ### Queries of appended fragments -/

/-- The text of appended fragments joins their texts, if both of them have any. -/
theorem joined_wordsFrom_append {f g : Fragment} (hf : f.IsBuilt) (hg : g.IsBuilt) (n : Nat) :
    joined (wordsFrom 0 f.parts ++ wordsFrom n g.parts) =
      joined ([joined (wordsFrom 0 f.parts), joined (wordsFrom n g.parts)].filter (· ≠ "")) :=
  Text.intercalate_append " " (hf.ne_empty 0) (hg.ne_empty n)

/-- **Appending takes steps apart and puts queries together.** A fragment that is built step by step
is the one that the leaves of the steps build in a row, and it compares as equal to that one as long
as its values are regular. Appending is associative, and nothing changes where an empty or an absent
fragment is appended. The query of two fragments has the words and variables of the first, and
behind them those of the second, numbered on from the first; where both have a text, a blank joins
the texts. -/
theorem append_flattens_and_joins :
    (∀ steps, let f := ofSteps steps
      let flat := (leavesOf steps).foldl Step.apply {}
      (∀ leaf ∈ leavesOf steps, leaf.isLeaf) ∧ f = flat ∧
        ((∀ v, Part.value v ∈ f.parts → v.IsRegular) → f == flat)) ∧
    (∀ f g h : Fragment, (f.append g).append h = f.append (g.append h) ∧
      f.append {} = f ∧ ({} : Fragment).append f = f ∧ f.appendOption none = f) ∧
    ∀ steps steps', let f := ofSteps steps
      let g := ofSteps steps'
      ∃ words vars, IsRendering (f.parts.countP Part.isBound) g.parts words vars ∧
        wordsFrom 0 (f.append g).parts = wordsFrom 0 f.parts ++ words ∧
        (f.append g).query.bindVars = f.query.bindVars ++ vars ∧
        (f.append g).query.text = joined ([f.query.text, joined words].filter (· ≠ "")) := by
  refine ⟨fun steps => ⟨fun leaf => isLeaf_of_mem_leavesOf, ofSteps_eq_foldl_leavesOf steps,
    fun hregular => ?_⟩, fun f g h => ⟨?_, ?_, rfl, rfl⟩, fun steps steps' => ?_⟩
  · rw [← ofSteps_eq_foldl_leavesOf]
    exact beq_self hregular
  · exact congrArg Fragment.mk (List.append_assoc f.parts g.parts h.parts)
  · exact congrArg Fragment.mk (List.append_nil f.parts)
  · intro f g
    have hcount : countFrom 0 f.parts = f.parts.countP Part.isBound := by
      rw [countFrom_eq_countP, Nat.zero_add]
    have hwords : wordsFrom 0 (f.append g).parts =
        wordsFrom 0 f.parts ++ wordsFrom (f.parts.countP Part.isBound) g.parts := by
      rw [parts_append, wordsFrom_append, hcount]
    refine ⟨_, _, isRendering _ g.parts, hwords, ?_, ?_⟩
    · change bindingsFrom 0 (f.parts ++ g.parts) = _
      rw [bindingsFrom_append, hcount]
      rfl
    · have htext : (f.append g).query.text = joined (wordsFrom 0 (f.append g).parts) := rfl
      rw [htext, hwords]
      exact joined_wordsFrom_append (isBuilt_ofSteps steps) (isBuilt_ofSteps steps') _

/-- Behind a value and a name, a name goes by the number two wherever it is nested. -/
example :
    let f := ofSteps [.value .null, .append [.absent, .append []], .collection "pets"]
    let g := ofSteps [.literal " FOR o IN ", .append [.append [.collection "owners"]]]
    (f.append g).query.text = "@value0 @@value1 FOR o IN @@value2" ∧
      g.query.text = "FOR o IN @@value0" := by
  decide

end Fragment

end DocQuery
