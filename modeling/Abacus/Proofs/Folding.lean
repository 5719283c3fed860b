import Abacus.Proofs.Sentence

/-!
# Folded signs and glued operators

What the normal form of a line does to its tokens.

- **Runs of one sign** (`foldRuns`): both passes of the folding do the same, with one sign or the
  other.
- **At a character that is no sign** (`foldSigns_append_cons`) a text can be cut, and its parts be
  folded on their own.
- **At its two ends** (`head?_foldRuns`, `getLast?_foldRuns`) a folded text has a character other
  than a sign only if the text had it there.
- **Nothing to fold** (`foldSigns_eq_self`): a text in which no two equal signs touch.
- **Tokens** (`foldlM_next_foldSigns`, `brackets_foldSigns`): folding only ever puts one sign in the
  place of two neighbouring ones (`Token.Merges`), so it changes neither which token may follow
  which nor the brackets.
- **Glued operators** (`glued_foldSigns`) are glued before the folding, too. They are never among
  ordered tokens (`glued_of_ordered`), so no sentence is refused for them.
-/

namespace Abacus

namespace Text

/-- Whether a character is a sign. -/
def isSign (c : Char) : Bool :=
  c = '+' || c = '-'

theorem ne_of_isSign {c : Char} (h : isSign c = false) : c ≠ '+' ∧ c ≠ '-' := by
  simpa [isSign] using h

/-- A test that fails on the two signs holds of no sign. -/
theorem isSign_of_test {p : Char → Bool} (plus : p '+' = false) (minus : p '-' = false) {c : Char}
    (h : p c = true) : isSign c = false := by
  refine Bool.eq_false_iff.2 fun sign => ?_
  simp only [isSign, Bool.or_eq_true, decide_eq_true_eq] at sign
  rcases sign with rfl | rfl
  · rw [plus] at h
    cases h
  · rw [minus] at h
    cases h

theorem isSign_of_isAlphanum {c : Char} : c.isAlphanum = true → isSign c = false :=
  isSign_of_test rfl rfl

theorem isSign_of_isBlank {c : Char} : isBlank c = true → isSign c = false :=
  isSign_of_test rfl rfl

/-! ### Runs of one sign -/

/-- Folds every run of `a` into one character: one more `a` does `merge` to what the rest of its run
has become. -/
def foldRuns (a : Char) (merge : Text → Text) : Text → Text
  | [] => []
  | c :: s =>
    if c = a ∧ s.head? = some a then merge (foldRuns a merge s) else c :: foldRuns a merge s

theorem foldMinus_eq (s : Text) : foldMinus s = foldRuns '-' flipSign s := by
  induction s with
  | nil => rfl
  | cons c s ih => rw [foldMinus, foldRuns, ih]

theorem foldPlus_eq (s : Text) : foldPlus s = foldRuns '+' id s := by
  induction s with
  | nil => rfl
  | cons c s ih =>
    rw [foldPlus, foldRuns, ih]
    rfl

theorem foldSigns_eq (s : Text) : foldSigns s = foldRuns '+' id (foldRuns '-' flipSign s) := by
  rw [foldSigns, foldPlus_eq, foldMinus_eq]

/-- Whether `merge` puts a sign in the place of a sign at the head of a text, and leaves the rest.
-/
def ChangesSign (merge : Text → Text) : Prop :=
  ∀ c, isSign c = true → ∃ d, isSign d = true ∧ ∀ s, merge (c :: s) = d :: s

theorem changesSign_flipSign : ChangesSign flipSign := by
  intro c sign
  simp only [isSign, Bool.or_eq_true, decide_eq_true_eq] at sign
  rcases sign with rfl | rfl
  · exact ⟨'-', rfl, fun _ => rfl⟩
  · exact ⟨'+', rfl, fun _ => rfl⟩

theorem changesSign_id : ChangesSign id :=
  fun c sign => ⟨c, sign, fun _ => rfl⟩

section Runs

variable {a : Char} {merge : Text → Text}

theorem foldRuns_cons {c : Char} (h : c ≠ a) (s : Text) :
    foldRuns a merge (c :: s) = c :: foldRuns a merge s := by
  rw [foldRuns, if_neg fun both => h both.1]

theorem foldRuns_append {s : Text} (h : ∀ c ∈ s, c ≠ a) (t : Text) :
    foldRuns a merge (s ++ t) = s ++ foldRuns a merge t := by
  induction s with
  | nil => rfl
  | cons c s ih =>
    obtain ⟨hc, hs⟩ := List.forall_mem_cons.1 h
    rw [List.cons_append, foldRuns_cons hc, ih hs]
    rfl

/-- What a run becomes starts with a sign. -/
theorem exists_foldRuns (sign : isSign a = true) (h : ChangesSign merge) (s : Text) :
    ∃ b t, isSign b = true ∧ foldRuns a merge (a :: s) = b :: t := by
  induction s with
  | nil => exact ⟨a, [], sign, by simp [foldRuns]⟩
  | cons c s ih =>
    rw [foldRuns]
    split
    · next both =>
      obtain rfl : c = a := Option.some.inj both.2
      obtain ⟨b, t, hb, folded⟩ := ih
      obtain ⟨d, hd, merged⟩ := h b hb
      exact ⟨d, t, hd, by rw [folded, merged]⟩
    · exact ⟨a, _, sign, rfl⟩

/-- At any other character a text can be cut. -/
theorem foldRuns_append_cons (sign : isSign a = true) (h : ChangesSign merge) {c : Char}
    (hc : c ≠ a) (t s : Text) :
    foldRuns a merge (s ++ c :: t) = foldRuns a merge s ++ c :: foldRuns a merge t := by
  induction s with
  | nil => exact foldRuns_cons hc t
  | cons b s ih =>
    rw [List.cons_append, foldRuns, foldRuns, ih]
    cases s with
    | nil =>
      have apart : ¬ (b = a ∧ ([] ++ c :: t).head? = some a) := fun both =>
        hc (Option.some.inj both.2)
      rw [if_neg apart, if_neg (by simp)]
      rfl
    | cons d s =>
      -- the test looks at one character ahead, which is the same in both texts
      show (if b = a ∧ some d = some a then _ else _)
        = (if b = a ∧ some d = some a then _ else _) ++ _
      split
      · next both =>
        obtain rfl : d = a := Option.some.inj both.2
        obtain ⟨p, u, hp, folded⟩ := exists_foldRuns sign h s
        obtain ⟨q, -, merged⟩ := h p hp
        rw [folded, List.cons_append, merged, merged]
        rfl
      · rfl

/-- What is not empty does not become empty. -/
theorem foldRuns_cons_ne_nil (sign : isSign a = true) (h : ChangesSign merge) (c : Char)
    (s : Text) : foldRuns a merge (c :: s) ≠ [] := by
  by_cases here : c = a
  · subst here
    obtain ⟨b, t, -, folded⟩ := exists_foldRuns sign h s
    rw [folded]
    exact List.cons_ne_nil b t
  · rw [foldRuns_cons here]
    exact List.cons_ne_nil _ _

/-- What a text starts with after the folding it started with before, unless it is a sign. -/
theorem head?_foldRuns (sign : isSign a = true) (h : ChangesSign merge) {c : Char}
    (hc : isSign c = false) {s : Text} (head : (foldRuns a merge s).head? = some c) :
    s.head? = some c := by
  cases s with
  | nil => exact head
  | cons b s =>
    by_cases here : b = a
    · subst here
      obtain ⟨d, t, hd, folded⟩ := exists_foldRuns sign h s
      rw [folded] at head
      obtain rfl : d = c := Option.some.inj head
      rw [hc] at hd
      cases hd
    · rwa [foldRuns_cons here] at head

/-- What a text ends with after the folding it ended with before, unless it is a sign. -/
theorem getLast?_foldRuns (sign : isSign a = true) (h : ChangesSign merge) {c : Char}
    (hc : isSign c = false) {s : Text} (last : (foldRuns a merge s).getLast? = some c) :
    s.getLast? = some c := by
  induction s with
  | nil => exact last
  | cons b s ih =>
    cases s with
    | nil => simpa [foldRuns] using last
    | cons d s =>
      rw [List.getLast?_cons_cons]
      refine ih ?_
      rw [foldRuns] at last
      split at last
      · next both =>
        -- the merged sign stands where the sign stood that the rest of its run has become
        obtain rfl : d = a := Option.some.inj both.2
        obtain ⟨p, t, hp, folded⟩ := exists_foldRuns sign h s
        obtain ⟨q, hq, merged⟩ := h p hp
        rw [folded, merged] at last
        rw [folded]
        cases t with
        | nil =>
          obtain rfl : q = c := Option.some.inj last
          rw [hc] at hq
          cases hq
        | cons e t => rwa [List.getLast?_cons_cons] at last ⊢
      · cases rest : foldRuns a merge (d :: s) with
        | nil => exact absurd rest (foldRuns_cons_ne_nil sign h d s)
        | cons e t =>
          rw [rest, List.getLast?_cons_cons] at last
          exact last

/-- Where no run is longer than one there is nothing to fold. -/
theorem foldRuns_eq_self {s : Text} (h : ¬ [a, a] <:+: s) : foldRuns a merge s = s := by
  induction s with
  | nil => rfl
  | cons c s ih =>
    have apart : ¬ (c = a ∧ s.head? = some a) := by
      rintro ⟨rfl, head⟩
      obtain ⟨t, rfl⟩ := List.head?_eq_some_iff.1 head
      exact h ⟨[], t, rfl⟩
    rw [foldRuns, if_neg apart, ih fun inner => h (inner.trans (List.suffix_cons c s).isInfix)]

end Runs

/-! ### Where a text can be cut -/

@[simp] theorem foldSigns_nil : foldSigns [] = [] := rfl

/-- At a character that is no sign a text can be cut. -/
theorem foldSigns_append_cons {c : Char} (h : isSign c = false) (s t : Text) :
    foldSigns (s ++ c :: t) = foldSigns s ++ c :: foldSigns t := by
  obtain ⟨plus, minus⟩ := ne_of_isSign h
  rw [foldSigns_eq, foldRuns_append_cons rfl changesSign_flipSign minus,
    foldRuns_append_cons rfl changesSign_id plus, ← foldSigns_eq, ← foldSigns_eq]

theorem foldSigns_cons {c : Char} (h : isSign c = false) (t : Text) :
    foldSigns (c :: t) = c :: foldSigns t :=
  foldSigns_append_cons h [] t

/-- A text that ends with something that is no sign is folded on its own. -/
theorem foldSigns_append_of_last {s : Text} (h : ∃ s' c, s = s' ++ [c] ∧ isSign c = false)
    (t : Text) : foldSigns (s ++ t) = foldSigns s ++ foldSigns t := by
  obtain ⟨s', c, rfl, hc⟩ := h
  have alone := foldSigns_append_cons hc s' []
  rw [foldSigns_nil] at alone
  rw [alone, List.append_assoc, List.append_assoc]
  exact foldSigns_append_cons hc s' t

/-- What is in front of a text that starts with something that is no sign is folded on its own. -/
theorem foldSigns_append_of_head {t : Text} (h : ∃ c t', t = c :: t' ∧ isSign c = false)
    (s : Text) : foldSigns (s ++ t) = foldSigns s ++ foldSigns t := by
  obtain ⟨c, t', rfl, hc⟩ := h
  rw [foldSigns_append_cons hc, foldSigns_cons hc]

theorem foldMinus_append {s : Text} (h : ∀ c ∈ s, isSign c = false) (t : Text) :
    foldMinus (s ++ t) = s ++ foldMinus t := by
  rw [foldMinus_eq, foldMinus_eq, foldRuns_append fun c hc => (ne_of_isSign (h c hc)).2]

theorem foldPlus_append {s : Text} (h : ∀ c ∈ s, isSign c = false) (t : Text) :
    foldPlus (s ++ t) = s ++ foldPlus t := by
  rw [foldPlus_eq, foldPlus_eq, foldRuns_append fun c hc => (ne_of_isSign (h c hc)).1]

/-- Characters that are no signs stay in front of what is folded. -/
theorem foldSigns_append {s : Text} (h : ∀ c ∈ s, isSign c = false) (t : Text) :
    foldSigns (s ++ t) = s ++ foldSigns t := by
  rw [foldSigns, foldMinus_append h, foldPlus_append h]
  rfl

/-! ### Nothing to fold -/

/-- A text without signs is left as it is. -/
theorem foldSigns_of_forall {s : Text} (h : ∀ c ∈ s, isSign c = false) : foldSigns s = s := by
  have := foldSigns_append h []
  rwa [List.append_nil, foldSigns_nil, List.append_nil] at this

/-- A text in which no two equal signs touch is left as it is. -/
theorem foldSigns_eq_self {s : Text} (minus : ¬ ['-', '-'] <:+: s) (plus : ¬ ['+', '+'] <:+: s) :
    foldSigns s = s := by
  rw [foldSigns_eq, foldRuns_eq_self minus, foldRuns_eq_self plus]

end Text

/-! ### Tokens -/

namespace Token

/-- Tokens, and what becomes of them when neighbouring signs are merged into one. -/
inductive Merges : List Token → List Token → Prop where
  | nil : Merges [] []
  | keep (t : Token) {ts us : List Token} : Merges ts us → Merges (t :: ts) (t :: us)
  | sign {o p q : Operator} {ts us : List Token} : o.isSign = true → p.isSign = true →
      q.isSign = true → Merges ts (.op p :: us) → Merges (.op o :: ts) (.op q :: us)

theorem Merges.refl : ∀ ts : List Token, Merges ts ts
  | [] => .nil
  | t :: ts => .keep t (refl ts)

theorem Merges.append_left {us vs : List Token} (h : Merges us vs) :
    ∀ ts : List Token, Merges (ts ++ us) (ts ++ vs)
  | [] => h
  | t :: ts => .keep t (h.append_left ts)

theorem next_sign (due : Bool) {o : Operator} (h : o.isSign = true) :
    next due (.op o) = some true := by
  simp [next, h]

/-- Where one sign may stand, so may several. -/
theorem Merges.foldlM_next {ts us : List Token} (h : Merges ts us) (due : Bool) :
    ts.foldlM next due = us.foldlM next due := by
  induction h generalizing due with
  | nil => rfl
  | keep t _ ih =>
    rw [List.foldlM_cons, List.foldlM_cons]
    exact congrArg (Option.bind (next due t)) (funext ih)
  | sign ho hp hq _ ih =>
    have rest := ih true
    rw [List.foldlM_cons, next_sign true hp] at rest
    rw [List.foldlM_cons, List.foldlM_cons, next_sign due ho, next_sign due hq]
    exact rest

theorem Merges.brackets {ts us : List Token} (h : Merges ts us) :
    Token.brackets ts = Token.brackets us := by
  induction h with
  | nil => rfl
  | keep t _ ih => simp only [Token.brackets, List.filterMap_cons] at ih ⊢; rw [ih]
  | sign _ _ _ _ ih => exact ih

end Token

namespace Text

theorem isAlphanum_of_ofSymbol? {c : Char} {t : Token} (h : Token.ofSymbol? c = some t) :
    c.isAlphanum = false := by
  rcases Token.eq_of_ofSymbol? h with ⟨rfl, -⟩ | ⟨rfl, -⟩ | ⟨o, rfl, -⟩
  · rfl
  · rfl
  · cases o <;> rfl

theorem isBlank_of_ofSymbol? {c : Char} {t : Token} (h : Token.ofSymbol? c = some t) :
    isBlank c = false := by
  rcases Token.eq_of_ofSymbol? h with ⟨rfl, -⟩ | ⟨rfl, -⟩ | ⟨o, rfl, -⟩
  · rfl
  · rfl
  · cases o <;> rfl

/-- A character that is neither letter nor digit is a token of its own wherever it stands. -/
theorem tokens_append_lone {c : Char} (alphanum : c.isAlphanum = false) (blank : isBlank c = false)
    (s r : Text) : tokens (s ++ c :: r) = tokens s ++ Token.ofUnit [c] :: tokens r := by
  rw [tokens, units_append fun b _ d hd => ?_, units_symbol_cons alphanum blank, List.map_append,
    List.map_cons]
  · rfl
  · obtain rfl : c = d := Option.some.inj hd
    exact sameUnit_of_right b alphanum

/-- A symbol is a token of its own wherever it stands. -/
theorem tokens_append_cons {c : Char} {t : Token} (h : Token.ofSymbol? c = some t) (s r : Text) :
    tokens (s ++ c :: r) = tokens s ++ t :: tokens r := by
  have read : Token.ofUnit [c] = t := by
    rw [Token.ofUnit, h]
    rfl
  rw [tokens_append_lone (isAlphanum_of_ofSymbol? h) (isBlank_of_ofSymbol? h), read]

theorem tokens_cons {c : Char} {t : Token} (h : Token.ofSymbol? c = some t) (r : Text) :
    tokens (c :: r) = t :: tokens r :=
  tokens_append_cons h [] r

theorem exists_op_of_isSign {c : Char} (h : isSign c = true) :
    ∃ o : Operator, c = o.symbol ∧ o.isSign = true := by
  simp only [isSign, Bool.or_eq_true, decide_eq_true_eq] at h
  rcases h with rfl | rfl
  · exact ⟨.plus, rfl, rfl⟩
  · exact ⟨.minus, rfl, rfl⟩

/-- What folding the runs of one sign does to tokens. The text `w` in front has been passed: what
follows it may belong to its last unit. -/
theorem merges_foldRuns {a : Char} {merge : Text → Text} (sign : isSign a = true)
    (h : ChangesSign merge) :
    ∀ r w : Text, Token.Merges (tokens (w ++ r)) (tokens (w ++ foldRuns a merge r))
  | [], w => .refl _
  | c :: r, w => by
    by_cases here : c = a
    · obtain ⟨o, rfl, ho⟩ := exists_op_of_isSign sign
      subst here
      -- a sign ends the unit in front of it, so what has been passed can be left behind
      have rest := merges_foldRuns sign h r []
      rw [List.nil_append, List.nil_append] at rest
      rw [tokens_append_cons (Token.ofSymbol?_symbol o), foldRuns]
      split
      · next both =>
        obtain ⟨t, rfl⟩ : ∃ t, r = o.symbol :: t := List.head?_eq_some_iff.1 both.2
        obtain ⟨b, u, hb, folded⟩ := exists_foldRuns sign h t
        obtain ⟨d, hd, merged⟩ := h b hb
        obtain ⟨p, rfl, hp⟩ := exists_op_of_isSign hb
        obtain ⟨q, rfl, hq⟩ := exists_op_of_isSign hd
        rw [folded, tokens_cons (Token.ofSymbol?_symbol p)] at rest
        rw [folded, merged, tokens_append_cons (Token.ofSymbol?_symbol q)]
        exact (rest.sign ho hp hq).append_left _
      · rw [tokens_append_cons (Token.ofSymbol?_symbol o)]
        exact (rest.keep _).append_left _
    · have rest := merges_foldRuns sign h r (w ++ [c])
      rw [List.append_assoc, List.append_assoc] at rest
      rw [foldRuns_cons here]
      exact rest

/-- Whatever merging signs leaves as it is, folding them does. -/
theorem eq_foldSigns {α : Type} {f : List Token → α}
    (h : ∀ ts us, Token.Merges ts us → f ts = f us) (s : Text) :
    f s.foldSigns.tokens = f s.tokens := by
  have minus := merges_foldRuns (a := '-') rfl changesSign_flipSign s []
  have plus := merges_foldRuns (a := '+') rfl changesSign_id (foldRuns '-' flipSign s) []
  rw [foldSigns_eq]
  calc f (foldRuns '+' id (foldRuns '-' flipSign s)).tokens
      = f (foldRuns '-' flipSign s).tokens := (h _ _ plus).symm
    _ = f s.tokens := (h _ _ minus).symm

/-- Folding signs does not change which token may stand where. -/
theorem foldlM_next_foldSigns (s : Text) (due : Bool) :
    s.foldSigns.tokens.foldlM Token.next due = s.tokens.foldlM Token.next due :=
  eq_foldSigns (f := fun ts => ts.foldlM Token.next due) (fun _ _ h => h.foldlM_next due) s

theorem brackets_foldSigns (s : Text) :
    Token.brackets s.foldSigns.tokens = Token.brackets s.tokens :=
  eq_foldSigns (fun _ _ h => h.brackets) s

/-! ### Glued operators -/

/-- An operator that is never a sign. -/
theorem exists_op_of_isMultiplicative {c : Char} (h : isMultiplicative c = true) :
    ∃ o : Operator, c = o.symbol ∧ o.isSign = false := by
  simp only [isMultiplicative, Bool.or_eq_true, decide_eq_true_eq] at h
  rcases h with (rfl | rfl) | rfl
  · exact ⟨.times, rfl, rfl⟩
  · exact ⟨.over, rfl, rfl⟩
  · exact ⟨.power, rfl, rfl⟩

theorem glued_append_cons {c : Char} (h : isMultiplicative c = false) (t : Text) :
    ∀ s : Text, glued (s ++ c :: t) = (glued s || glued t)
  | [] => by
    cases t with
    | nil => rfl
    | cons d t =>
      show (isMultiplicative c && isMultiplicative d || glued (d :: t)) = _
      rw [h]
      rfl
  | [b] => by
    have rest := glued_append_cons h t []
    show (isMultiplicative b && isMultiplicative c || glued (c :: t)) = _
    rw [h, Bool.and_false]
    exact rest
  | b :: d :: s => by
    have rest := glued_append_cons h t (d :: s)
    show (isMultiplicative b && isMultiplicative d || glued (d :: s ++ c :: t))
      = (isMultiplicative b && isMultiplicative d || glued (d :: s) || glued t)
    rw [rest, Bool.or_assoc]

theorem exists_of_glued : ∀ {s : Text}, glued s = true →
    ∃ a c d b, s = a ++ c :: d :: b ∧ isMultiplicative c = true ∧ isMultiplicative d = true
  | [], h => by cases h
  | [_], h => by cases h
  | c :: d :: s, h => by
    rcases Bool.or_eq_true_iff.1 h with here | later
    · obtain ⟨hc, hd⟩ := Bool.and_eq_true_iff.1 here
      exact ⟨[], c, d, s, rfl, hc, hd⟩
    · obtain ⟨a, c', d', b, hs, both⟩ := exists_of_glued later
      exact ⟨c :: a, c', d', b, by rw [hs]; rfl, both⟩

/-- A text is glued where two of these operators touch. -/
theorem glued_iff {s : Text} : glued s = true ↔
    ∃ c d, [c, d] <:+: s ∧ isMultiplicative c = true ∧ isMultiplicative d = true := by
  constructor
  · intro h
    obtain ⟨a, c, d, b, rfl, both⟩ := exists_of_glued h
    exact ⟨c, d, ⟨a, b, by simp⟩, both⟩
  · rintro ⟨c, d, ⟨a, b, rfl⟩, hc, hd⟩
    induction a with
    | nil => simp [glued, hc, hd]
    | cons e a ih =>
      cases a with
      | nil => exact Bool.or_eq_true_iff.2 (.inr ih)
      | cons f a => exact Bool.or_eq_true_iff.2 (.inr ih)

theorem glued_of_forall {s : Text} (h : ∀ c ∈ s, isMultiplicative c = false) : glued s = false := by
  refine Bool.eq_false_iff.2 fun glued => ?_
  obtain ⟨a, c, d, b, rfl, hc, -⟩ := exists_of_glued glued
  rw [h c (List.mem_append_right a (List.mem_cons_self ..))] at hc
  cases hc

theorem isMultiplicative_of_isSign {c : Char} (h : isSign c = true) :
    isMultiplicative c = false := by
  simp only [isSign, Bool.or_eq_true, decide_eq_true_eq] at h
  rcases h with rfl | rfl <;> rfl

/-- Only what follows it decides whether a text with a sign in front is glued. -/
theorem glued_sign_cons {c : Char} (h : isSign c = true) (s : Text) : glued (c :: s) = glued s :=
  glued_append_cons (isMultiplicative_of_isSign h) s []

theorem glued_foldRuns {a : Char} {merge : Text → Text} (sign : isSign a = true)
    (h : ChangesSign merge) (s : Text) : glued (foldRuns a merge s) = glued s := by
  induction s with
  | nil => rfl
  | cons c s ih =>
    by_cases here : c = a
    · subst here
      rw [glued_sign_cons sign, ← ih, foldRuns]
      split
      · next both =>
        -- the sign that the rest of the run has become gives way to another one
        obtain ⟨t, rfl⟩ : ∃ t, s = c :: t := List.head?_eq_some_iff.1 both.2
        obtain ⟨b, u, hb, folded⟩ := exists_foldRuns sign h t
        obtain ⟨d, hd, merged⟩ := h b hb
        rw [folded, merged, glued_sign_cons hd, glued_sign_cons hb]
      · exact glued_sign_cons sign _
    · rw [foldRuns_cons here]
      cases s with
      | nil => rfl
      | cons d s =>
        by_cases next : d = a
        · -- a sign takes the place of a sign behind the character
          subst next
          obtain ⟨b, u, hb, folded⟩ := exists_foldRuns sign h s
          rw [folded] at ih ⊢
          simp only [glued, isMultiplicative_of_isSign hb, isMultiplicative_of_isSign sign,
            Bool.and_false, Bool.false_or]
          exact ih
        · rw [foldRuns_cons next] at ih ⊢
          simp only [glued, ih]

/-- Folding brings no operators together that are never a sign. -/
theorem glued_foldSigns (s : Text) : s.foldSigns.glued = s.glued := by
  rw [foldSigns_eq, glued_foldRuns rfl changesSign_id, glued_foldRuns rfl changesSign_flipSign]

/-- Among ordered tokens no two operators that are never a sign stand side by side. -/
theorem glued_of_ordered {s : Text} (h : Token.Ordered s.tokens) : s.glued = false := by
  refine Bool.eq_false_iff.2 fun glued => ?_
  obtain ⟨a, c, d, b, rfl, hc, hd⟩ := exists_of_glued glued
  obtain ⟨o, rfl, -⟩ := exists_op_of_isMultiplicative hc
  obtain ⟨p, rfl, hp⟩ := exists_op_of_isMultiplicative hd
  rw [tokens_append_cons (Token.ofSymbol?_symbol o), tokens_cons (Token.ofSymbol?_symbol p),
    Token.Ordered, List.foldlM_append] at h
  obtain ⟨due, -, h⟩ := Option.bind_eq_some_iff.1 h
  obtain ⟨due', first, h⟩ := Option.bind_eq_some_iff.1 h
  -- the first of the two leaves an operand due, where the second cannot stand
  obtain ⟨_, second, -⟩ := Option.bind_eq_some_iff.1 h
  have operand : due' = true := by
    simp only [Token.next] at first
    split at first
    · cases first
    · exact (Option.some.inj first).symm
  simp [operand, Token.next, hp] at second

end Text

end Abacus
