import DocQuery.Operand
import DocQuery.Proofs.Text.Word

/-!
# The texts of scalars and operands

Whatever a scalar holds, its text is a literal (`Scalar.isLiteral_text`): a number is a token, a
float as well because its layout never writes an exponent, and a string without quotation marks
stands between two of them. So the text of an operand is a word (`Operand.Form.isWord_text`), and
it shows whether the operand is a list and the text of each scalar in it
(`Operand.Form.text_injective`). That is all it can show: `1` may be a whole number or a float.
-/

namespace DocQuery

open Text

/-! ### Numbers are tokens -/

namespace Decimal

theorem isTokenChar_of_mem_digitsOf {n : Nat} {c : Char} (h : c ∈ digitsOf n) : isTokenChar c := by
  have hdigit : c.isDigit := Nat.isDigit_of_mem_toDigits (by decide) (by decide) h
  simp [isTokenChar, Char.isAlphanum, hdigit]

theorem isToken_repr (n : Nat) : IsToken n.repr where
  ne_empty := Nat.repr_ne_empty
  chars c hc := by
    rw [Nat.toList_repr] at hc
    exact isTokenChar_of_mem_digitsOf hc

private theorem positional_ne_nil {ds : List Char} (hds : ds ≠ []) (pointZero : Bool) (k : Int) :
    positional pointZero ds k ≠ [] := by
  unfold positional
  split_ifs <;> simp [hds]

private theorem isTokenChar_of_mem_positional {ds : List Char} (hds : ∀ c ∈ ds, isTokenChar c)
    (pointZero : Bool) (k : Int) : ∀ c ∈ positional pointZero ds k, isTokenChar c := by
  have hzero : isTokenChar '0' := by decide
  have hpoint : isTokenChar '.' := by decide
  have hzeros : ∀ n, ∀ c ∈ List.replicate n '0', isTokenChar c := by
    intro n c hc
    rw [List.eq_of_mem_replicate hc]
    exact hzero
  unfold positional
  split_ifs
  · refine List.forall_mem_append.mpr ⟨List.forall_mem_append.mpr ⟨hds, hzeros _⟩, ?_⟩
    simp [hpoint, hzero]
  · refine List.forall_mem_append.mpr ⟨List.forall_mem_append.mpr ⟨hds, hzeros _⟩, ?_⟩
    simp
  · refine List.forall_mem_append.mpr ⟨fun c hc => hds c (List.mem_of_mem_take hc), ?_⟩
    exact List.forall_mem_cons.mpr ⟨hpoint, fun c hc => hds c (List.mem_of_mem_drop hc)⟩
  · refine List.forall_mem_cons.mpr ⟨hzero, List.forall_mem_cons.mpr ⟨hpoint, ?_⟩⟩
    exact List.forall_mem_append.mpr ⟨hzeros _, hds⟩

namespace Layout

variable {layout : Layout}

private theorem isTokenChar_of_mem_sign (negative : Bool) :
    ∀ c ∈ ofValue.sign negative, isTokenChar c := by
  cases negative <;> exact List.all_eq_true.mp (by decide)

private theorem magnitude_eq (hpositional : ∀ power, layout.positional power) (x : Digits) :
    layout.magnitude x = Decimal.positional layout.pointZero (digitsOf x.digits) x.exponent := by
  rw [magnitude, if_pos (hpositional _)]

/-- A layout without exponents writes tokens. -/
theorem isToken_write (hpositional : ∀ power, layout.positional power)
    (hnan : IsToken layout.notANumber) (hinf : IsToken layout.infinity) (x : Float) :
    IsToken (layout.write x) := by
  have hmagnitude : ∀ d, layout.magnitude d ≠ [] ∧ ∀ c ∈ layout.magnitude d, isTokenChar c := by
    intro d
    rw [magnitude_eq hpositional]
    exact ⟨positional_ne_nil Nat.toDigits_ne_nil _ _,
      isTokenChar_of_mem_positional (fun c hc => isTokenChar_of_mem_digitsOf hc) _ _⟩
  -- infinities, zeros and other values differ in what follows the sign
  have hsigned : ∀ negative cs, (cs ≠ [] ∧ ∀ c ∈ cs, isTokenChar c) →
      ofValue.sign negative ++ cs ≠ [] ∧ ∀ c ∈ ofValue.sign negative ++ cs, isTokenChar c :=
    fun negative cs hcs => ⟨List.append_ne_nil_of_right_ne_nil _ hcs.1,
      List.forall_mem_append.mpr ⟨isTokenChar_of_mem_sign negative, hcs.2⟩⟩
  have hvalue : ∀ v, layout.ofValue v ≠ [] ∧ ∀ c ∈ layout.ofValue v, isTokenChar c := by
    intro v
    cases v with
    | notANumber => exact ⟨by simpa [ofValue] using hnan.ne_empty, hnan.chars⟩
    | infinite negative => exact hsigned negative _ ⟨by simp [hinf.ne_empty], hinf.chars⟩
    | zero negative => exact hsigned negative _ (hmagnitude _)
    | finite negative magnitude => exact hsigned negative _ (hmagnitude _)
  refine ⟨?_, ?_⟩
  · rw [write, Ne, ← String.toList_eq_nil_iff, String.toList_ofList]
    exact (hvalue _).1
  · rw [write, String.toList_ofList]
    exact (hvalue _).2

end Layout

end Decimal

/-! ### Scalars -/

namespace Scalar

/-- The scalar is no string that holds a quotation mark. -/
def isQuoteFree : Scalar → Bool
  | .str s => !s.toList.contains '"'
  | _ => true

private theorem isToken_text_int (n : Int) : IsToken n.repr := by
  cases n with
  | ofNat n => exact Decimal.isToken_repr n
  | negSucc n =>
    have htext : (Int.negSucc n).repr = "-" ++ (n + 1).repr := rfl
    rw [htext]
    refine ⟨by simp, ?_⟩
    rw [String.toList_append]
    exact List.forall_mem_append.mpr
      ⟨List.all_eq_true.mp (by decide), (Decimal.isToken_repr (n + 1)).chars⟩

/-- The text of a scalar is a literal. -/
theorem isLiteral_text {value : Scalar} (h : value.isQuoteFree) : IsLiteral value.text := by
  cases value with
  | null => exact .token (.of_all (by decide) (by decide))
  | bool b => cases b <;> exact .token (.of_all (by decide) (by decide))
  | int n => exact .token (isToken_text_int n)
  | float x =>
    exact .token (Decimal.Layout.isToken_write (fun _ => rfl)
      (.of_all (by decide) (by decide)) (.of_all (by decide) (by decide)) x)
  | str s => exact .quoted (by simpa [isQuoteFree] using h)

/-- The text of a scalar is solid, whatever is in a string. -/
theorem isSolid_text (value : Scalar) : isSolid value.text.toList := by
  by_cases hstr : ∃ s, value = .str s
  · obtain ⟨s, rfl⟩ := hstr
    rw [text, String.toList_append, String.toList_append]
    exact isSolid_append (by decide) (by decide)
  · have hfree : value.isQuoteFree := by
      rcases value with - | b | n | x | s
      · rfl
      · rfl
      · rfl
      · rfl
      · exact absurd ⟨s, rfl⟩ hstr
    exact (isLiteral_text hfree).isSolid

end Scalar

/-! ### Operands -/

namespace Operand

/-- What the text of an operand shows: its shape and the texts of its scalars. -/
inductive Form where
  | scalar (text : String)
  | list (texts : List String)
  deriving DecidableEq, Repr

/-- The form of an operand. -/
def form : Operand → Form
  | .scalar value => .scalar value.text
  | .list items => .list (items.map Scalar.text)

/-- The scalars of an operand. -/
def scalars : Operand → List Scalar
  | .scalar value => [value]
  | .list items => items

namespace Form

/-- The text of an operand of this form. -/
def text : Form → String
  | .scalar text => text
  | .list texts => "[" ++ ",".intercalate texts ++ "]"

/-- The texts of the scalars. -/
def texts : Form → List String
  | .scalar text => [text]
  | .list texts => texts

/-- All scalars of the operand have literals for texts. -/
def IsLegible (f : Form) : Prop :=
  ∀ t ∈ f.texts, IsLiteral t

theorem isWord_text {f : Form} (h : f.IsLegible) : IsWord f.text := by
  cases f with
  | scalar t => exact (h t (by simp [texts])).isWord
  | list ts =>
    have hjoined : isClosed ' ' false (",".intercalate ts).toList :=
      isClosed_intercalate (by decide) fun t ht => (h t ht).isWord.closed
    have hlist : (text (.list ts)).toList = ['['] ++ (",".intercalate ts).toList ++ [']'] := by
      simp [text, String.toList_append]
    constructor
    · rw [hlist]
      exact isSolid_append (by decide) (by decide)
    · rw [hlist]
      exact isClosed_append (isClosed_append (by decide) hjoined) (by decide)

private theorem text_scalar_ne_list {t : String} (ht : IsLiteral t) (ts : List String) :
    text (.scalar t) ≠ text (.list ts) := by
  intro h
  refine ht.head?_ne ?_
  rw [show t = text (.list ts) from h, text, String.toList_append, String.toList_append]
  rfl

/-- **Operands can be told apart** up to the texts of their scalars. -/
theorem text_injective {f g : Form} (hf : f.IsLegible) (hg : g.IsLegible)
    (h : f.text = g.text) : f = g := by
  have hclosed : ∀ {ts : List String}, (∀ t ∈ ts, IsLiteral t) →
      ∀ t ∈ ts, t ≠ "" ∧ isClosed ',' false t.toList := fun hts t ht =>
    ⟨(hts t ht).isWord.ne_empty, (hts t ht).isClosed (by decide)⟩
  cases f with
  | scalar t =>
    cases g with
    | scalar u => exact congrArg Form.scalar h
    | list us => exact absurd h (text_scalar_ne_list (hf t (by simp [texts])) us)
  | list ts =>
    cases g with
    | scalar u => exact absurd h.symm (text_scalar_ne_list (hg u (by simp [texts])) ts)
    | list us =>
      have hitems : ",".intercalate ts = ",".intercalate us := by
        simpa [text, String.append_assoc] using h
      exact congrArg Form.list (intercalate_injective rfl (hclosed hf) (hclosed hg) hitems)

end Form

@[simp]
theorem text_form (operand : Operand) : operand.form.text = operand.text := by
  cases operand <;> rfl

/-- The text of an operand is solid. -/
theorem isSolid_text (operand : Operand) : isSolid operand.text.toList := by
  rcases operand with value | items
  · exact value.isSolid_text
  · rw [text, String.toList_append, String.toList_append]
    exact isSolid_append (by decide) (by decide)

/-- Operands without quotation marks have legible forms. -/
theorem isLegible_form {operand : Operand} (h : ∀ value ∈ operand.scalars, value.isQuoteFree) :
    operand.form.IsLegible := by
  intro t ht
  cases operand with
  | scalar value =>
    obtain rfl : t = value.text := by simpa [form, Form.texts] using ht
    exact Scalar.isLiteral_text (h value (by simp [scalars]))
  | list items =>
    obtain ⟨value, hvalue, rfl⟩ := List.mem_map.mp ht
    exact Scalar.isLiteral_text (h value hvalue)

end Operand

end DocQuery
