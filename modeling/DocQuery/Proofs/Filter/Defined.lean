import DocQuery.Filter.Basic
import DocQuery.Proofs.Text.Pieces

/-!
# The defined conditions of a filter

A filter's text is made of the conditions that have an operand and of nothing else
(`Filter.text_eq`). It is empty exactly when there are none (`Filter.text_eq_empty_iff`), whatever
the parameter.
-/

namespace DocQuery

/-- A condition that has its operand. -/
structure Comparison where
  operator : Operator
  operand : Operand

namespace Comparison

/-- The comparison of a parameter with the operand. -/
def text (param : String) (c : Comparison) : String :=
  param ++ " " ++ c.operator.symbol ++ " " ++ c.operand.text

theorem text_ne_empty (param : String) (c : Comparison) : c.text param ≠ "" := by
  simp [text, String.append_eq_empty_iff]

theorem text_ne_empty_of_mem (param : String) {cs : List Comparison} :
    ∀ t ∈ cs.map (·.text param), t ≠ "" := by
  intro t ht
  obtain ⟨c, -, rfl⟩ := List.mem_map.mp ht
  exact c.text_ne_empty param

end Comparison

/-- The comparison that a condition makes, if it is defined. -/
def Condition.comparison? (c : Condition) : Option Comparison :=
  c.operand.map fun operand => ⟨c.operator, operand⟩

theorem Condition.text?_eq (param : String) (c : Condition) :
    c.text? param = c.comparison?.map (·.text param) := by
  rw [Condition.text?, Condition.comparison?, Option.map_map]
  rfl

namespace Filter

/-- The defined conditions, in order. -/
def comparisons (f : Filter) : List Comparison :=
  f.conditions.filterMap Condition.comparison?

/-- A filter's text joins its defined conditions. -/
theorem text_eq (param : String) (f : Filter) :
    f.text param =
      (" " ++ f.mode.word ++ " ").intercalate (f.comparisons.map (·.text param)) := by
  have htexts : f.conditions.filterMap (·.text? param) = f.comparisons.map (·.text param) := by
    rw [comparisons, List.map_filterMap]
    simp only [Condition.text?_eq]
  rw [text, htexts]

/-- **A filter's text is empty** exactly when no condition is defined. -/
theorem text_eq_empty_iff {param : String} {f : Filter} :
    f.text param = "" ↔ f.comparisons = [] := by
  rw [text_eq, Text.intercalate_eq_empty_iff _ (Comparison.text_ne_empty_of_mem param),
    List.map_eq_nil_iff]

end Filter

end DocQuery
