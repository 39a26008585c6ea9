import Mathlib.Data.List.Forall2

/-!
# Lists, numbers and computations that succeed or fail

Lists are compared item by item. Inversion lemmas for `Except` say what a successful computation
was made of, when computations along a list succeed, and which of them fails first when they do
not.
-/

/-- The decimal digits of a number show it. -/
theorem Nat.eq_of_repr_eq {m n : Nat} (h : m.repr = n.repr) : m = n := by
  have hdigits : Nat.toDigits 10 m = Nat.toDigits 10 n := by
    rw [← Nat.toList_repr, h, Nat.toList_repr]
  rw [← @Nat.ofDigitChars_ten_toDigits m, hdigits, Nat.ofDigitChars_ten_toDigits]

/-! ### Lists item by item -/

/-- A list equals itself if its elements do. -/
theorem List.beq_self_of_forall_mem {α : Type} [BEq α] {xs : List α}
    (h : ∀ x ∈ xs, (x == x) = true) : (xs == xs) = true := by
  induction xs with
  | nil => rfl
  | cons x xs ih =>
    obtain ⟨hx, hxs⟩ := List.forall_mem_cons.mp h
    rw [List.cons_beq_cons, hx, ih hxs]
    rfl

/-- Related lists have related items in the same places. -/
theorem List.Forall₂.exists_getElem?_eq_some {α β : Type} {r : α → β → Prop} {xs : List α}
    {ys : List β} (h : List.Forall₂ r xs ys) {i : Nat} {x : α} (hx : xs[i]? = some x) :
    ∃ y, ys[i]? = some y ∧ r x y := by
  obtain ⟨hi, rfl⟩ := List.getElem?_eq_some_iff.mp hx
  have hi' : i < ys.length := h.length_eq ▸ hi
  exact ⟨ys.get ⟨i, hi'⟩, List.getElem?_eq_getElem hi', h.get hi hi'⟩

/-- A traversal yields the items that its steps yield. -/
theorem List.mapM_eq_pure {m : Type → Type} [Monad m] [LawfulMonad m] {α β : Type} {f : α → m β}
    {xs : List α} {ys : List β} (h : List.Forall₂ (fun x y => f x = pure y) xs ys) :
    xs.mapM f = pure ys := by
  induction h with
  | nil => rw [List.mapM_nil]
  | cons hx _ ih => rw [List.mapM_cons, hx, pure_bind, ih, pure_bind]

/-! ### Computations that succeed or fail -/

namespace Except

variable {ε ε' α β : Type}

theorem bind_eq_ok_iff {x : Except ε α} {f : α → Except ε β} {b : β} :
    x >>= f = .ok b ↔ ∃ a, x = .ok a ∧ f a = .ok b := by
  cases x with
  | error e => simp [bind, Except.bind]
  | ok a => simp [bind, Except.bind]

theorem map_eq_ok_iff {x : Except ε α} {f : α → β} {b : β} :
    x.map f = .ok b ↔ ∃ a, x = .ok a ∧ f a = b := by
  cases x with
  | error e => simp [Except.map]
  | ok a => simp [Except.map]

theorem exists_map_eq_ok_iff {x : Except ε α} {f : α → β} :
    (∃ b, x.map f = .ok b) ↔ ∃ a, x = .ok a := by
  simp only [map_eq_ok_iff]
  constructor
  · rintro ⟨_, a, h, -⟩
    exact ⟨a, h⟩
  · rintro ⟨a, h⟩
    exact ⟨f a, a, h, rfl⟩

theorem bind_eq_error_iff {x : Except ε α} {f : α → Except ε β} {e : ε} :
    x >>= f = .error e ↔ x = .error e ∨ ∃ a, x = .ok a ∧ f a = .error e := by
  cases x with
  | error e' => simp [bind, Except.bind]
  | ok a => simp [bind, Except.bind]

theorem map_eq_error_iff {x : Except ε α} {f : α → β} {e : ε} :
    x.map f = .error e ↔ x = .error e := by
  cases x with
  | error e' => simp [Except.map]
  | ok a => simp [Except.map]

theorem mapError_eq_ok_iff {x : Except ε α} {f : ε → ε'} {a : α} :
    x.mapError f = .ok a ↔ x = .ok a := by
  cases x with
  | error e => simp [Except.mapError]
  | ok a' => simp [Except.mapError]

theorem mapError_eq_error_iff {x : Except ε α} {f : ε → ε'} {e' : ε'} :
    x.mapError f = .error e' ↔ ∃ e, x = .error e ∧ f e = e' := by
  cases x with
  | error e => simp [Except.mapError]
  | ok a => simp [Except.mapError]

end Except

/-- A traversal succeeds with the list of what its steps succeed with. -/
theorem List.mapM_eq_ok_iff {ε α β : Type} {f : α → Except ε β} {xs : List α} {ys : List β} :
    xs.mapM f = .ok ys ↔ List.Forall₂ (fun x y => f x = .ok y) xs ys := by
  induction xs generalizing ys with
  | nil =>
    rw [List.mapM_nil, List.forall₂_nil_left_iff]
    constructor
    · intro h
      exact (Except.ok.inj h).symm
    · rintro rfl
      rfl
  | cons x xs ih =>
    rw [List.mapM_cons, List.forall₂_cons_left_iff]
    simp only [Except.bind_eq_ok_iff, ih]
    constructor
    · rintro ⟨y, hy, us, hus, hys⟩
      obtain rfl := Except.ok.inj hys
      exact ⟨y, us, hy, hus, rfl⟩
    · rintro ⟨y, us, hy, hus, rfl⟩
      exact ⟨y, hy, us, hus, rfl⟩

/-- A traversal succeeds if all its steps do. -/
theorem List.exists_mapM_eq_ok_iff {ε α β : Type} {f : α → Except ε β} {xs : List α} :
    (∃ ys, xs.mapM f = .ok ys) ↔ ∀ x ∈ xs, ∃ y, f x = .ok y := by
  induction xs with
  | nil => exact ⟨fun _ _ h => absurd h List.not_mem_nil, fun _ => ⟨[], rfl⟩⟩
  | cons x xs ih =>
    simp only [List.mapM_eq_ok_iff, List.forall₂_cons_left_iff] at ih ⊢
    rw [List.forall_mem_cons, ← ih]
    constructor
    · rintro ⟨_, y, ys, hy, hys, rfl⟩
      exact ⟨⟨y, hy⟩, ys, hys⟩
    · rintro ⟨⟨y, hy⟩, ys, hys⟩
      exact ⟨_, y, ys, hy, hys, rfl⟩

/-- The last step of a fold goes on from what the steps before it succeed with. -/
theorem List.foldlM_concat_eq_ok_iff {ε α β : Type} {f : β → α → Except ε β} {xs : List α} {x : α}
    {b c : β} :
    (xs ++ [x]).foldlM f b = .ok c ↔ ∃ b', xs.foldlM f b = .ok b' ∧ f b' x = .ok c := by
  rw [List.foldlM_append, Except.bind_eq_ok_iff]
  refine exists_congr fun b' => and_congr_right fun _ => ?_
  rw [List.foldlM_cons, Except.bind_eq_ok_iff]
  constructor
  · rintro ⟨c', hc', hnil⟩
    obtain rfl := Except.ok.inj hnil
    exact hc'
  · intro h
    exact ⟨c, h, rfl⟩

/-- A fold succeeds if all its steps do, as long as that does not depend on the state. -/
theorem List.exists_foldlM_eq_ok_iff {ε α β : Type} {f : β → α → Except ε β} {p : α → Prop}
    (hstep : ∀ b a, (∃ b', f b a = .ok b') ↔ p a) {xs : List α} {b : β} :
    (∃ b', xs.foldlM f b = .ok b') ↔ ∀ a ∈ xs, p a := by
  induction xs generalizing b with
  | nil => exact ⟨fun _ _ h => absurd h List.not_mem_nil, fun _ => ⟨b, rfl⟩⟩
  | cons x xs ih =>
    simp only [List.foldlM_cons, Except.bind_eq_ok_iff]
    rw [List.forall_mem_cons, ← hstep b x]
    constructor
    · rintro ⟨b', next, hnext, hrest⟩
      exact ⟨⟨next, hnext⟩, ih.mp ⟨b', hrest⟩⟩
    · rintro ⟨⟨next, hnext⟩, hall⟩
      obtain ⟨b', hrest⟩ := ih.mpr hall
      exact ⟨b', next, hnext, hrest⟩

/-! ### The first failure along a list -/

/-- `q` holds of an element, and `p` of all elements in front of it. -/
def List.HasFirst {α : Type} (p q : α → Prop) (xs : List α) : Prop :=
  ∃ before x after, xs = before ++ x :: after ∧ (∀ y ∈ before, p y) ∧ q x

namespace List.HasFirst

variable {α : Type} {p q : α → Prop}

theorem not_nil : ¬ HasFirst p q [] := by
  rintro ⟨before, x, after, h, -⟩
  simp at h

theorem cons_iff {x : α} {xs : List α} :
    HasFirst p q (x :: xs) ↔ q x ∨ p x ∧ HasFirst p q xs := by
  constructor
  · rintro ⟨before, y, after, hxs, hbefore, hy⟩
    cases before with
    | nil =>
      obtain ⟨rfl, -⟩ := List.cons.inj hxs
      exact .inl hy
    | cons z before =>
      obtain ⟨rfl, hrest⟩ := List.cons.inj hxs
      obtain ⟨hz, hbefore⟩ := List.forall_mem_cons.mp hbefore
      exact .inr ⟨hz, before, y, after, hrest, hbefore, hy⟩
  · rintro (hx | ⟨hx, before, y, after, rfl, hbefore, hy⟩)
    · exact ⟨[], x, xs, rfl, fun _ h => absurd h List.not_mem_nil, hx⟩
    · exact ⟨x :: before, y, after, rfl, List.forall_mem_cons.mpr ⟨hx, hbefore⟩, hy⟩

/-- Only the elements of the list matter. -/
theorem congr {p' q' : α → Prop} {xs : List α} (hp : ∀ x ∈ xs, (p x ↔ p' x))
    (hq : ∀ x ∈ xs, (q x ↔ q' x)) : HasFirst p q xs ↔ HasFirst p' q' xs := by
  induction xs with
  | nil => exact iff_of_false not_nil not_nil
  | cons x xs ih =>
    rw [List.forall_mem_cons] at hp hq
    rw [cons_iff, cons_iff, hp.1, hq.1, ih hp.2 hq.2]

end List.HasFirst

/-- A traversal fails with the first failure among its steps. -/
theorem List.mapM_eq_error_iff {ε α β : Type} {f : α → Except ε β} {xs : List α} {e : ε} :
    xs.mapM f = .error e ↔ xs.HasFirst (fun x => ∃ y, f x = .ok y) (fun x => f x = .error e) := by
  induction xs with
  | nil => exact iff_of_false nofun HasFirst.not_nil
  | cons x xs ih =>
    rw [List.mapM_cons, HasFirst.cons_iff, ← ih]
    simp only [Except.bind_eq_error_iff]
    refine or_congr_right ⟨?_, ?_⟩
    · rintro ⟨y, hy, hrest | ⟨ys, -, habsurd⟩⟩
      · exact ⟨⟨y, hy⟩, hrest⟩
      · exact absurd habsurd nofun
    · rintro ⟨⟨y, hy⟩, hrest⟩
      exact ⟨y, hy, .inl hrest⟩

/-- A fold fails with the first failure among its steps, as long as the state decides neither
whether a step fails nor how. -/
theorem List.foldlM_eq_error_iff {ε α β : Type} {f : β → α → Except ε β} {p : α → Prop}
    {q : α → ε → Prop} (hok : ∀ b a, (∃ b', f b a = .ok b') ↔ p a)
    (herror : ∀ b a e, f b a = .error e ↔ q a e) {xs : List α} {b : β} {e : ε} :
    xs.foldlM f b = .error e ↔ xs.HasFirst p (q · e) := by
  induction xs generalizing b with
  | nil => exact iff_of_false nofun HasFirst.not_nil
  | cons x xs ih =>
    rw [List.foldlM_cons, HasFirst.cons_iff, Except.bind_eq_error_iff, herror, ← hok b x]
    refine or_congr_right ⟨?_, ?_⟩
    · rintro ⟨b', hb', hrest⟩
      exact ⟨⟨b', hb'⟩, ih.mp hrest⟩
    · rintro ⟨⟨b', hb'⟩, hrest⟩
      exact ⟨b', hb', ih.mpr hrest⟩
