import DocQuery.Proofs.ForMathlib
import DocQuery.Proofs.Query.SearchText

/-!
# The query of a search is unambiguous

Two plain searches send the same text exactly if they have the same outline
(`Collection.searchQuery_text_eq_iff`): the text shows what documents are called, each predicate
with its path, operators and operands, the order and the limit.

The text shows its words (`Text.joined_injective`), so the words have to show the outline. They
are read from the front, part by part: each lemma says that equal lists of words that begin with
such a part begin with the same one and go on equally. A predicate ends where no connective
follows, and the list of predicates where no `FILTER` follows.
-/

namespace DocQuery

open Text

variable {s t : List String}

/-! ### Predicates -/

/-- No operator's words begin another operator's. -/
theorem Operator.words_append_inj {a b : Operator} (h : a.words ++ s = b.words ++ t) :
    a = b ∧ s = t := by
  cases a <;> cases b <;> simp_all [words, symbol]

private theorem comparisonWords_append_inj {param : String} {x y : Operator × Operand.Form}
    (hx : x.2.IsLegible) (hy : y.2.IsLegible)
    (h : comparisonWords param x ++ s = comparisonWords param y ++ t) : x = y ∧ s = t := by
  simp only [comparisonWords, List.cons_append, List.cons.injEq, true_and, List.append_assoc] at h
  obtain ⟨hoperator, hrest⟩ := Operator.words_append_inj h
  obtain ⟨htext, htail⟩ := List.cons.inj hrest
  exact ⟨Prod.ext hoperator (Operand.Form.text_injective hx hy htext), htail⟩

/-- The words do not go on with a connective. -/
def EndsPredicate (ws : List String) : Prop :=
  ∀ mode : Mode, ws.head? ≠ some mode.word

theorem Mode.word_injective {m n : Mode} (h : m.word = n.word) : m = n := by
  cases m <;> cases n <;> simp_all [word]

/-- Comparisons that are joined by connectives show themselves, and the connective if there is
one. -/
private theorem comparisons_append_inj {param : String} {m n : Mode}
    {xs ys : List (Operator × Operand.Form)} (hxne : xs ≠ []) (hyne : ys ≠ [])
    (hxs : ∀ x ∈ xs, x.2.IsLegible) (hys : ∀ y ∈ ys, y.2.IsLegible)
    (hs : EndsPredicate s) (ht : EndsPredicate t)
    (h : [m.word].intercalate (xs.map (comparisonWords param)) ++ s =
      [n.word].intercalate (ys.map (comparisonWords param)) ++ t) :
    xs = ys ∧ s = t ∧ (2 ≤ xs.length → m = n) := by
  induction xs generalizing ys with
  | nil => exact absurd rfl hxne
  | cons x xs ih =>
    cases ys with
    | nil => exact absurd rfl hyne
    | cons y ys =>
      obtain ⟨hx, hxrest⟩ := List.forall_mem_cons.mp hxs
      obtain ⟨hy, hyrest⟩ := List.forall_mem_cons.mp hys
      -- after the first comparison a connective follows on both sides or on neither
      cases xs with
      | nil =>
        cases ys with
        | nil =>
          obtain ⟨rfl, hst⟩ := comparisonWords_append_inj hx hy (by simpa using h)
          exact ⟨rfl, hst, fun h2 => absurd h2 (by simp)⟩
        | cons y' ys =>
          simp only [List.map_cons, List.map_nil, List.intercalate_singleton,
            List.intercalate_cons_cons, List.append_assoc] at h
          obtain ⟨-, hst⟩ := comparisonWords_append_inj hx hy h
          exact absurd (congrArg List.head? hst) (hs n)
      | cons x' xs =>
        cases ys with
        | nil =>
          simp only [List.map_cons, List.map_nil, List.intercalate_singleton,
            List.intercalate_cons_cons, List.append_assoc] at h
          obtain ⟨-, hst⟩ := comparisonWords_append_inj hx hy h
          exact absurd (congrArg List.head? hst.symm) (ht m)
        | cons y' ys =>
          simp only [List.map_cons, List.intercalate_cons_cons, List.append_assoc] at h
          obtain ⟨rfl, hrest⟩ := comparisonWords_append_inj hx hy h
          obtain ⟨hmode, hrest⟩ := List.cons.inj hrest
          have hlater : [m.word].intercalate ((x' :: xs).map (comparisonWords param)) ++ s =
              [n.word].intercalate ((y' :: ys).map (comparisonWords param)) ++ t := hrest
          obtain ⟨htail, hst, -⟩ := ih (by simp) (by simp) hxrest hyrest hlater
          exact ⟨congrArg (x :: ·) htail, hst, fun _ => Mode.word_injective hmode⟩

/-- A predicate begins with its parameter. -/
private theorem Predicate.words_eq_cons {root : String} {p : Predicate} (hp : p.IsLegible) :
    ∃ rest, p.words root = pathText root p.path :: rest := by
  rw [Predicate.words]
  obtain ⟨x, rest, hcs⟩ := List.exists_cons_of_ne_nil hp.comparisons_ne_nil
  rw [hcs]
  cases rest with
  | nil => exact ⟨_, List.intercalate_singleton⟩
  | cons y rest => exact ⟨_, List.intercalate_cons_cons⟩

/-- Legible predicates with the same comparisons have a connective both or neither. -/
private theorem Predicate.mode?_eq {p q : Predicate} (hp : p.IsLegible) (hq : q.IsLegible)
    (hcs : p.comparisons = q.comparisons)
    (hmode : 2 ≤ p.comparisons.length → p.mode?.getD .and = q.mode?.getD .and) :
    p.mode? = q.mode? := by
  have hsome := hq.isSome_mode?
  rw [← hcs] at hsome
  by_cases hjoin : 2 ≤ p.comparisons.length
  · obtain ⟨m, hm⟩ := Option.isSome_iff_exists.mp (hp.isSome_mode?.mpr hjoin)
    obtain ⟨n, hn⟩ := Option.isSome_iff_exists.mp (hsome.mpr hjoin)
    have hmn := hmode hjoin
    rw [hm, hn] at hmn ⊢
    exact congrArg some hmn
  · have hpnone : p.mode? = none := by simpa using mt hp.isSome_mode?.mp hjoin
    have hqnone : q.mode? = none := by simpa using mt hsome.mp hjoin
    rw [hpnone, hqnone]

/-- **Predicates can be told apart.** -/
private theorem Predicate.words_append_inj {root : String} (hroot : isIdentifier root)
    {p q : Predicate} (hp : p.IsLegible) (hq : q.IsLegible) (hs : EndsPredicate s)
    (ht : EndsPredicate t) (h : p.words root ++ s = q.words root ++ t) : p = q ∧ s = t := by
  have hpath : p.path = q.path := by
    obtain ⟨restp, hpw⟩ := Predicate.words_eq_cons hp
    obtain ⟨restq, hqw⟩ := Predicate.words_eq_cons hq
    rw [hpw, hqw, List.cons_append, List.cons_append] at h
    exact pathText_injective hroot hp.path hq.path (List.cons.inj h).1
  -- with the same parameter on both sides, the comparisons can be compared
  have hparam : q.words root = [(q.mode?.getD .and).word].intercalate
      (q.comparisons.map (comparisonWords (pathText root p.path))) := by
    rw [Predicate.words, hpath]
  rw [Predicate.words, hparam] at h
  obtain ⟨hcs, hst, hmode⟩ := comparisons_append_inj hp.comparisons_ne_nil hq.comparisons_ne_nil
    hp.operands hq.operands hs ht h
  have hmode? := Predicate.mode?_eq hp hq hcs hmode
  refine ⟨?_, hst⟩
  obtain ⟨path, comparisons, mode?⟩ := p
  obtain ⟨path', comparisons', mode?'⟩ := q
  obtain rfl : path = path' := hpath
  obtain rfl : comparisons = comparisons' := hcs
  obtain rfl : mode? = mode?' := hmode?
  rfl

/-! ### Clauses -/

/-- The words go on with neither a connective nor a predicate. -/
def EndsFilters (ws : List String) : Prop :=
  EndsPredicate ws ∧ ws.head? ≠ some "FILTER"

private theorem endsPredicate_filterClauseWords {root : String} (ps : List Predicate)
    (hs : EndsFilters s) : EndsPredicate (filterClauseWords root ps ++ s) := by
  cases ps with
  | nil => exact hs.1
  | cons p ps =>
    intro mode hmode
    have hword : "FILTER" = mode.word := Option.some.inj hmode
    cases mode <;> exact absurd hword (by decide)

/-- The clause of filters shows the predicates. -/
private theorem filterClauseWords_append_inj {root : String} (hroot : isIdentifier root)
    {ps qs : List Predicate} (hps : ∀ p ∈ ps, p.IsLegible) (hqs : ∀ q ∈ qs, q.IsLegible)
    (hs : EndsFilters s) (ht : EndsFilters t)
    (h : filterClauseWords root ps ++ s = filterClauseWords root qs ++ t) : ps = qs ∧ s = t := by
  induction ps generalizing qs with
  | nil =>
    cases qs with
    | nil => exact ⟨rfl, h⟩
    | cons q qs => exact absurd (congrArg List.head? h) hs.2
  | cons p ps ih =>
    cases qs with
    | nil => exact absurd (congrArg List.head? h.symm) ht.2
    | cons q qs =>
      obtain ⟨hp, hprest⟩ := List.forall_mem_cons.mp hps
      obtain ⟨hq, hqrest⟩ := List.forall_mem_cons.mp hqs
      have hwords : p.words root ++ (filterClauseWords root ps ++ s) =
          q.words root ++ (filterClauseWords root qs ++ t) := by
        simpa [filterClauseWords] using h
      obtain ⟨rfl, hrest⟩ := Predicate.words_append_inj hroot hp hq
        (endsPredicate_filterClauseWords ps hs) (endsPredicate_filterClauseWords qs ht) hwords
      obtain ⟨htail, hst⟩ := ih hprest hqrest hrest
      exact ⟨congrArg (p :: ·) htail, hst⟩

theorem Direction.word_injective {d e : Direction} (h : d.word = e.word) : d = e := by
  cases d <;> cases e <;> simp_all [word]

/-- A comma tells whether another key follows. -/
private theorem Direction.word_ne_word_comma (d e : Direction) : d.word ≠ e.word ++ "," := by
  cases d <;> cases e <;> decide

/-- A key shows itself by its field and the word for its direction. -/
private theorem SortKey.eq_of_words {root : String} {k l : SortKey} (hk : k.isField) (hl : l.isField)
    (hfield : sortWords.fieldOf root k = sortWords.fieldOf root l)
    (hword : k.direction.word = l.direction.word) : k = l := by
  obtain ⟨target, direction⟩ := k
  obtain ⟨target', direction'⟩ := l
  obtain ⟨name, -, rfl⟩ := exists_of_isField hk
  obtain ⟨name', -, rfl⟩ := exists_of_isField hl
  have hpath : root ++ "." ++ name = root ++ "." ++ name' := hfield
  have hdirection : direction = direction' := Direction.word_injective hword
  rw [(String.append_right_inj _).mp hpath, hdirection]

/-- Keys to order by show themselves. -/
private theorem sortWords_append_inj {root : String} {k l : SortKey} {ks ls : List SortKey}
    (hks : ∀ key ∈ k :: ks, key.isField) (hls : ∀ key ∈ l :: ls, key.isField)
    (h : sortWords root (k :: ks) ++ s = sortWords root (l :: ls) ++ t) :
    k :: ks = l :: ls ∧ s = t := by
  have hk : k.isField := hks k List.mem_cons_self
  have hl : l.isField := hls l List.mem_cons_self
  induction ks generalizing k l ls with
  | nil =>
    cases ls with
    | nil =>
      simp only [sortWords, List.cons_append, List.cons.injEq, List.nil_append] at h
      obtain ⟨hfield, hword, hst⟩ := h
      rw [SortKey.eq_of_words hk hl hfield hword]
      exact ⟨rfl, hst⟩
    | cons l' ls =>
      -- the right side has a comma where the left side has none
      simp only [sortWords, List.cons_append, List.cons.injEq] at h
      exact absurd h.2.1 (Direction.word_ne_word_comma _ _)
  | cons k' ks ih =>
    cases ls with
    | nil =>
      simp only [sortWords, List.cons_append, List.cons.injEq] at h
      exact absurd h.2.1.symm (Direction.word_ne_word_comma _ _)
    | cons l' ls =>
      simp only [sortWords, List.cons_append, List.cons.injEq] at h
      obtain ⟨hfield, hword, hlater⟩ := h
      have hksrest := (List.forall_mem_cons.mp hks).2
      have hlsrest := (List.forall_mem_cons.mp hls).2
      obtain ⟨htail, hst⟩ := ih hksrest hlsrest hlater (hksrest k' List.mem_cons_self)
        (hlsrest l' List.mem_cons_self)
      rw [SortKey.eq_of_words hk hl hfield ((String.append_left_inj ",").mp hword), htail]
      exact ⟨rfl, hst⟩

/-- The clause that orders documents shows the keys. -/
private theorem sortClauseWords_append_inj {root : String} {ks ls : List SortKey}
    (hks : ∀ key ∈ ks, key.isField) (hls : ∀ key ∈ ls, key.isField)
    (hs : s.head? ≠ some "SORT") (ht : t.head? ≠ some "SORT")
    (h : sortClauseWords root ks ++ s = sortClauseWords root ls ++ t) : ks = ls ∧ s = t := by
  cases ks with
  | nil =>
    cases ls with
    | nil => exact ⟨rfl, h⟩
    | cons l ls => exact absurd (congrArg List.head? h) hs
  | cons k ks =>
    cases ls with
    | nil => exact absurd (congrArg List.head? h.symm) ht
    | cons l ls => exact sortWords_append_inj hks hls (List.cons.inj h).2

private theorem UInt64.eq_of_repr {m n : UInt64} (h : m.toNat.repr = n.toNat.repr) : m = n :=
  UInt64.toNat_inj.mp (Nat.eq_of_repr_eq h)

/-- The clause that limits the number of documents shows the limit, given what ends the query. The
number of words tells the three forms of the clause apart. -/
private theorem limitClauseWords_append_inj {l m : Option Limit} {root : String}
    (h : limitClauseWords l ++ ["RETURN", root] = limitClauseWords m ++ ["RETURN", root]) : l = m := by
  have hwords : limitClauseWords l = limitClauseWords m := List.append_cancel_right h
  have hlength := congrArg List.length hwords
  rcases l with _ | ⟨count, _ | offset⟩ <;> rcases m with _ | ⟨count', _ | offset'⟩
  · rfl
  · simp [limitClauseWords] at hlength
  · simp [limitClauseWords] at hlength
  · simp [limitClauseWords] at hlength
  · simp only [limitClauseWords, List.cons.injEq, true_and, and_true] at hwords
    rw [UInt64.eq_of_repr hwords]
  · simp [limitClauseWords] at hlength
  · simp [limitClauseWords] at hlength
  · simp [limitClauseWords] at hlength
  · simp only [limitClauseWords, List.cons.injEq, true_and, and_true] at hwords
    rw [UInt64.eq_of_repr ((String.append_left_inj ",").mp hwords.1), UInt64.eq_of_repr hwords.2]

/-! ### Outlines -/

private theorem head?_limitClauseWords_append (limit : Option Limit) (root : String) :
    (limitClauseWords limit ++ ["RETURN", root]).head? ∈ [some "LIMIT", some "RETURN"] := by
  rcases limit with _ | ⟨count, _ | offset⟩ <;> simp [limitClauseWords]

private theorem head?_sortClauseWords_append (root : String) (keys : List SortKey)
    (limit : Option Limit) :
    (sortClauseWords root keys ++ (limitClauseWords limit ++ ["RETURN", root])).head? ∈
      [some "SORT", some "LIMIT", some "RETURN"] := by
  cases keys with
  | nil => exact List.mem_cons_of_mem _ (head?_limitClauseWords_append limit root)
  | cons key keys => exact List.mem_cons_self

/-- What follows the filters ends them. -/
private theorem endsFilters_sortClauseWords (root : String) (keys : List SortKey)
    (limit : Option Limit) :
    EndsFilters (sortClauseWords root keys ++ (limitClauseWords limit ++ ["RETURN", root])) := by
  have hhead := head?_sortClauseWords_append root keys limit
  constructor
  · intro mode hmode
    rw [hmode] at hhead
    cases mode <;> exact absurd hhead (by decide)
  · intro hfilter
    rw [hfilter] at hhead
    exact absurd hhead (by decide)

/-- **The words show the outline.** -/
theorem Outline.words_injective {o o' : Outline} (ho : o.IsLegible) (ho' : o'.IsLegible)
    (h : o.words = o'.words) : o = o' := by
  -- an empty order is told from any other by what follows it
  have hsort : ∀ limit root, (limitClauseWords limit ++ ["RETURN", root]).head? ≠ some "SORT" := by
    intro limit root hhead
    have hmem := head?_limitClauseWords_append limit root
    rw [hhead] at hmem
    exact absurd hmem (by decide)
  obtain ⟨root, ps, keys, limit⟩ := o
  obtain ⟨root', ps', keys', limit'⟩ := o'
  simp only [words, clauses, List.flatten_cons, List.flatten_nil, List.append_nil, List.cons_append,
    List.nil_append, List.cons.injEq, true_and] at h
  obtain ⟨rfl, hclauses⟩ := h
  obtain ⟨rfl, hrest⟩ := filterClauseWords_append_inj ho.root ho.predicates ho'.predicates
    (endsFilters_sortClauseWords root keys limit) (endsFilters_sortClauseWords root keys' limit')
    hclauses
  obtain ⟨rfl, hlimit⟩ := sortClauseWords_append_inj ho.sort ho'.sort (hsort limit root)
    (hsort limit' root) hrest
  obtain rfl := limitClauseWords_append_inj hlimit
  rfl

/-- **The query of a search is unambiguous.** Plain searches, on whatever collections and with
documents of whatever types, send the same text exactly if they agree in what they call a
document, in their predicates, in the order and in the limit. -/
theorem Collection.searchQuery_text_eq_iff {α β : Type} {c : Collection α} {d : Collection β}
    {r r' : Request} (h : c.IsPlain r) (h' : d.IsPlain r') :
    (c.searchQuery r).text = (d.searchQuery r').text ↔ c.outline r = d.outline r' := by
  rw [searchQuery_text h, searchQuery_text h']
  constructor
  · intro htext
    have ho := h.isLegible_outline
    have ho' := h'.isLegible_outline
    exact Outline.words_injective ho ho'
      (joined_injective (Outline.isWord_of_mem_words ho) (Outline.isWord_of_mem_words ho') htext)
  · intro houtline
    rw [houtline]

/-- A string that spells a connective, a filter and an order is not taken for them. -/
theorem Collection.searchQuery_text_ne_of_spelled_clauses :
    let spelled : Request :=
      { terms := some [("a", .filter { conditions :=
          [⟨.like, some (.scalar (.str "x AND i.b IN [1, 2] FILTER i.c SORT i.d"))⟩] })] }
    let meant : Request :=
      { terms := some [
          ("a", .filter { conditions := [⟨.like, some (.scalar (.str "x"))⟩] }),
          ("b", .group [("c", .filter { mode := .or, conditions :=
            [⟨.notIn, some (.list [.int 1, .null])⟩, ⟨.gt, none⟩, ⟨.gte, some (.scalar (.bool true))⟩] })])]
        sort := some [.desc "d", .asc "_key"]
        limit := some ⟨10, some 5⟩ }
    (named "pets").IsPlain spelled ∧ (named "pets").IsPlain meant ∧
      ((named "pets").searchQuery spelled).text ≠ ((named "pets").searchQuery meant).text := by
  intro spelled meant
  have hspelled : (named "pets").IsPlain spelled :=
    ⟨rfl, by decide, by decide, by decide, by decide⟩
  have hmeant : (named "pets").IsPlain meant :=
    ⟨rfl, by decide, by decide, by decide, by decide⟩
  refine ⟨hspelled, hmeant, fun htext => ?_⟩
  have houtline := (searchQuery_text_eq_iff hspelled hmeant).mp htext
  exact absurd houtline (by decide)

end DocQuery
