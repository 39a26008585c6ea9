import DocQuery.Filter.Basic
import DocQuery.Proofs.ForMathlib

/-!
# Filters that are accepted

What the decoder of filters accepts, and what it makes of it: each entry of an accepted filter is
the connective or a comparison with an operand (`Filter.addEntry_eq_ok`), and the entries are added
one after another (`Filter.ofEntries_append_singleton`).
-/

namespace DocQuery

theorem Mode.eq_of_ofJson {value : Json} {mode : Mode} (h : Mode.ofJson value = .ok mode) :
    value = .str mode.word := by
  cases value with
  | str name =>
    have hname : ofName name = .ok mode := h
    rw [ofName] at hname
    split_ifs at hname with hand hor
    · obtain rfl := Except.ok.inj hname
      rw [hand]
      rfl
    · obtain rfl := Except.ok.inj hname
      rw [hor]
      rfl
  | _ => exact absurd h (by simp [ofJson])

theorem Operator.find?_of_ofName {name : String} {op : Operator} (h : ofName name = .ok op) :
    find? name = some op := by
  rw [ofName] at h
  cases hfind : find? name with
  | none => simp [hfind] at h
  | some found =>
    rw [hfind] at h
    rw [Except.ok.inj h]

namespace Filter

/-- What an accepted entry adds to a filter: a connective or a comparison. -/
theorem addEntry_eq_ok {f g : Filter} {key : String} {value : Json}
    (h : f.addEntry (key, value) = .ok g) :
    (∃ mode : Mode, key = "mode" ∧ value = .str mode.word ∧ g = f.setMode mode) ∨
      ∃ op operand, key ≠ "mode" ∧ Operator.find? key = some op ∧
        Operand.ofJson value = .ok operand ∧ g = f.compare op operand := by
  by_cases hkey : key = "mode"
  · rw [addEntry, if_pos (show (key, value).1 = modeKey from hkey)] at h
    obtain ⟨mode, hmode, rfl⟩ := Except.map_eq_ok_iff.mp h
    exact .inl ⟨mode, hkey, Mode.eq_of_ofJson hmode, rfl⟩
  · rw [addEntry, if_neg (show (key, value).1 ≠ modeKey from hkey)] at h
    obtain ⟨op, hop, hrest⟩ := Except.bind_eq_ok_iff.mp h
    obtain ⟨operand, hoperand, hg⟩ := Except.bind_eq_ok_iff.mp hrest
    exact .inr ⟨op, operand, hkey, Operator.find?_of_ofName hop, hoperand, (Except.ok.inj hg).symm⟩

/-- The last entry of an accepted filter is added to the filter of the entries before it. -/
theorem ofEntries_append_singleton {entries : List (String × Json)} {entry : String × Json}
    {g : Filter} (h : ofEntries (entries ++ [entry]) = .ok g) :
    ∃ f, ofEntries entries = .ok f ∧ f.addEntry entry = .ok g :=
  List.foldlM_concat_eq_ok_iff.mp h

end Filter

end DocQuery
