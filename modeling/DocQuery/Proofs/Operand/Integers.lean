import DocQuery.Operand
import DocQuery.Proofs.ForMathlib

/-!
# Whole numbers in operands

A whole number of 64 bits with sign is carried as it is, so its literal shows all its digits, alone
or at its place in a list (`Operand.ofJson_writes_integers`). Larger numbers are not refused
(`Operand.ofJson_ne_notRepresentable`) but carried as floats. What is written is then the shortest
decimal that reads back as the float, and that may be the decimal of another whole number
(`Operand.text_ofJson_unsigned`).
-/

namespace DocQuery

/-- The whole number has 64 bits with its sign. -/
def Scalar.IsSigned (n : Int) : Prop :=
  -9223372036854775808 ≤ n ∧ n ≤ 9223372036854775807

instance (n : Int) : Decidable (Scalar.IsSigned n) :=
  inferInstanceAs (Decidable (_ ∧ _))

theorem Scalar.fits_iff {n : Int} : fits n ↔ IsSigned n := by
  rw [fits, IsSigned, Bool.and_eq_true, decide_eq_true_eq, decide_eq_true_eq]
  omega

namespace Operand

theorem ofJson_int (n : Int) (h : Scalar.IsSigned n) :
    ofJson (.int n) = .ok (.scalar (.int n)) := by
  have hlist : ∀ items, Json.int n ≠ .arr items := nofun
  rw [ofJson_of_not_arr hlist, Scalar.ofJson_int, if_pos (Scalar.fits_iff.mpr h)]
  rfl

/-- The items of a list are operands of their own. -/
theorem ofJson_of_scalar {item : Json} {value : Scalar} (h : Scalar.ofJson item = .ok value) :
    ofJson item = .ok (.scalar value) := by
  cases item with
  | arr items => exact absurd h nofun
  | _ => exact Except.map_eq_ok_iff.mpr ⟨value, h, rfl⟩

/-- Nothing is refused because a number in it cannot be represented. -/
theorem ofJson_ne_notRepresentable (value number : Json) :
    ofJson value ≠ .error (.notRepresentable number) := by
  intro h
  by_cases hlist : ∃ items, value = .arr items
  · obtain ⟨items, rfl⟩ := hlist
    have hitems := List.mapM_eq_error_iff.mp (Except.map_eq_error_iff.mp h)
    obtain ⟨before, item, after, -, -, hitem⟩ := hitems
    exact Scalar.ofJson_ne_notRepresentable item number hitem
  · rw [ofJson_of_not_arr (not_exists.mp hlist), Except.map_eq_error_iff] at h
    exact Scalar.ofJson_ne_notRepresentable value number h

/-- **Whole numbers of 64 bits with sign are written exactly.** The literal of such a number is its
decimal digits. The literal of a list has those of its items in order, each as it is on its own, so
such a number stands at its place. -/
theorem ofJson_writes_integers {value : Json} {operand : Operand} (h : ofJson value = .ok operand) :
    (∀ n, value = .int n → Scalar.IsSigned n → operand.text = n.repr) ∧
    ∀ items, value = .arr items → ∃ literals : List String,
      operand.text = "[" ++ ",".intercalate literals ++ "]" ∧
      List.Forall₂ (fun item literal => ∃ alone, ofJson item = .ok alone ∧ alone.text = literal)
        items literals ∧
      ∀ (i : Nat) (n : Int), items[i]? = some (.int n) → Scalar.IsSigned n →
        literals[i]? = some n.repr := by
  constructor
  · rintro n rfl hn
    rw [ofJson_int n hn] at h
    obtain rfl := Except.ok.inj h
    rfl
  · rintro items rfl
    obtain ⟨scalars, hscalars, rfl⟩ := Except.map_eq_ok_iff.mp h
    have hitems := List.mapM_eq_ok_iff.mp hscalars
    have halone : List.Forall₂ (fun item literal => ∃ alone, ofJson item = .ok alone ∧
        alone.text = literal) items (scalars.map Scalar.text) := by
      rw [List.forall₂_map_right_iff]
      exact hitems.imp fun item value hvalue => ⟨.scalar value, ofJson_of_scalar hvalue, rfl⟩
    refine ⟨scalars.map Scalar.text, rfl, halone, fun i n hi hn => ?_⟩
    obtain ⟨literal, hliteral, alone, hint, rfl⟩ := halone.exists_getElem?_eq_some hi
    rw [ofJson_int n hn] at hint
    obtain rfl := Except.ok.inj hint
    exact hliteral

/-- The smallest and the largest of these numbers, with a comma in between. -/
theorem ofJson_writes_integers_of_both_ends :
    let items : List Json :=
      [.int (-9223372036854775808), .str "4,2", .int 9223372036854775807, .double 0.5]
    ∃ operand literals, ofJson (.arr items) = .ok operand ∧
      operand.text = "[" ++ ",".intercalate literals ++ "]" ∧
      literals[0]? = some "-9223372036854775808" ∧ literals[2]? = some "9223372036854775807" := by
  intro items
  have hoperand : ofJson (.arr items) = .ok (.list
      [.int (-9223372036854775808), .str "4,2", .int 9223372036854775807, .float 0.5]) := rfl
  obtain ⟨literals, htext, -, hplace⟩ := (ofJson_writes_integers hoperand).2 items rfl
  exact ⟨_, literals, hoperand, htext, hplace 0 _ rfl (by decide), hplace 2 _ rfl (by decide)⟩

/-- A whole number of 64 bits without sign is accepted and written as another one. -/
theorem text_ofJson_unsigned :
    let n : Int := 9223372036854775809
    n < 18446744073709551616 ∧ ∃ operand, ofJson (.int n) = .ok operand ∧
      operand.text = "9223372036854776000" ∧ operand.text ≠ n.repr := by
  intro n
  have htext : Scalar.floatLayout.write (.ofInt n) = "9223372036854776000" := by decide +kernel
  refine ⟨by decide, .scalar (.float (.ofInt n)), rfl, htext, fun h => ?_⟩
  have hdigits : n.repr = "9223372036854775809" := by decide
  exact absurd (htext.symm.trans (h.trans hdigits)) (by decide)

end Operand

end DocQuery
