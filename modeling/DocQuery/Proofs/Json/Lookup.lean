import DocQuery.Json.Basic
import Mathlib.Data.List.Nodup

/-!
# Looking keys up

Where all entries under a key hold one value, that value is found, and it does not matter where it
stands (`Json.lookup_eq_ite`). So entries may be put in another order, and entries may be added
under keys that are not looked for (`Json.Holds`), without a change to what is found
(`Json.Holds.lookup_eq`).
-/

namespace DocQuery.Json

variable {key : String} {v : Json} {entries known : List (String × Json)}

/-- The value that all entries under a key hold. -/
theorem lookup_eq_ite (h : ∀ entry ∈ entries, entry.1 = key → entry.2 = v) :
    lookup key entries = if key ∈ entries.map Prod.fst then some v else none := by
  induction entries with
  | nil => rfl
  | cons first entries ih =>
    obtain ⟨hfirst, hrest⟩ := List.forall_mem_cons.mp h
    rw [lookup, ih hrest, List.map_cons]
    by_cases hkey : first.1 = key
    · rw [if_pos hkey, hfirst hkey, if_pos (List.mem_cons.mpr (.inl hkey.symm))]
    · have hmem : key ∈ first.1 :: entries.map Prod.fst ↔ key ∈ entries.map Prod.fst :=
        List.mem_cons.trans (or_iff_right fun heq => hkey heq.symm)
      rw [if_neg hkey]
      exact if_congr hmem.symm rfl rfl

/-- Nothing is found under other keys. -/
theorem lookup_eq_none (h : key ∉ entries.map Prod.fst) : lookup key entries = none := by
  have hnone : ∀ entry ∈ entries, entry.1 = key → entry.2 = .null := fun entry hentry heq =>
    absurd (heq ▸ List.mem_map_of_mem hentry) h
  rw [lookup_eq_ite hnone, if_neg h]

private theorem eq_of_key_eq (hkeys : (entries.map Prod.fst).Nodup) {entry other : String × Json}
    (h : entry ∈ entries) (hother : other ∈ entries) (heq : other.1 = entry.1) :
    other.2 = entry.2 :=
  congrArg Prod.snd (List.inj_on_of_nodup_map hkeys hother h heq)

/-- The value under a key that occurs once. -/
theorem lookup_eq_some (hkeys : (entries.map Prod.fst).Nodup) {entry : String × Json}
    (h : entry ∈ entries) : lookup entry.1 entries = some entry.2 := by
  rw [lookup_eq_ite fun _ => eq_of_key_eq hkeys h, if_pos (List.mem_map_of_mem h)]

/-! ### Objects known up to order and other keys -/

/-- Entries that are, in some order, the known ones and others whose keys are not among `keys`. -/
def Holds (keys : List String) (known entries : List (String × Json)) : Prop :=
  ∃ extra, entries.Perm (known ++ extra) ∧ ∀ entry ∈ extra, entry.1 ∉ keys

namespace Holds

variable {keys : List String}

/-- The known entries by themselves. -/
theorem refl (keys : List String) (known : List (String × Json)) : Holds keys known known :=
  ⟨[], by rw [List.append_nil], fun _ h => absurd h List.not_mem_nil⟩

/-- Under the keys in question there are the known entries only. -/
theorem mem_iff (h : Holds keys known entries) {entry : String × Json} (hkey : entry.1 ∈ keys) :
    entry ∈ entries ↔ entry ∈ known := by
  obtain ⟨extra, hperm, hextra⟩ := h
  rw [hperm.mem_iff, List.mem_append]
  exact or_iff_left fun hmem => hextra entry hmem hkey

/-- **What is found is known**, if no key is known twice. -/
theorem lookup_eq (h : Holds keys known entries) (hknown : (known.map Prod.fst).Nodup)
    (hkey : key ∈ keys) : lookup key entries = lookup key known := by
  have hmem : key ∈ entries.map Prod.fst ↔ key ∈ known.map Prod.fst := by
    simp only [List.mem_map]
    exact exists_congr fun entry => and_congr_left fun heq => h.mem_iff (heq ▸ hkey)
  by_cases hfound : key ∈ known.map Prod.fst
  · obtain ⟨entry, hentry, rfl⟩ := List.mem_map.mp hfound
    have hentries : ∀ other ∈ entries, other.1 = entry.1 → other.2 = entry.2 :=
      fun other hother heq =>
        eq_of_key_eq hknown hentry ((h.mem_iff (heq ▸ hkey)).mp hother) heq
    rw [lookup_eq_ite hentries, if_pos (hmem.mpr hfound), lookup_eq_some hknown hentry]
  · rw [lookup_eq_none hfound, lookup_eq_none (hmem.not.mpr hfound)]

end Holds

end DocQuery.Json
