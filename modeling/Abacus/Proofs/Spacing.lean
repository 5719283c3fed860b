import Abacus.Proofs.Turning

/-!
# White space between units

How far the outcome of a line depends on where its white space stands.

- `Sentence.exists_refolds`: the folded text of a sentence is the text of a sentence again, one of
  its foldings (`Sentence.Refolds`). A run of signs is followed through both passes of the folding
  in `exists_foldMinus_marks` and `exists_foldPlus_marks`.
- `exists_result_text`: so the result of a written sentence is the outcome of a folding.
- **Spacing**: lines with the same units, which form a sentence, have the same result if they turn
  the same operators in front of powers. Lines in which no two minus signs touch do
  (`Text.turnAlike_of_apart`), and so do lines without powers (`Text.turnAlike_of_unraised`); there
  are lines that do not.
-/

namespace Abacus

/-! ### Runs of signs -/

section Marks

variable {γ : Type}

/-- The text of a run of signs. -/
def marks (g : γ → Gap) (signs : List (Mark γ)) : Text :=
  written g (laidTexts (signs.map Mark.laid))

theorem marks_cons (g : γ → Gap) (m : Mark γ) (signs : List (Mark γ)) :
    marks g (m :: signs) = (g m.gap).text ++ m.op.symbol :: marks g signs :=
  written_cons g (m.gap, [m.op.symbol]) _

theorem minuses_cons (m : Mark γ) (signs : List (Mark γ)) :
    minuses (m :: signs) = minuses signs + m.negative.toNat := by
  rw [minuses, List.countP_cons]
  cases m.negative <;> rfl

theorem symbol_negative (m : Mark γ) : m.op.symbol = '-' ↔ m.negative = true := by
  obtain ⟨g, negative⟩ := m
  cases negative <;> simp [Mark.op, Operator.symbol]

theorem negative_eq_false {m : Mark γ} (h : m.op.symbol = '+') : m.negative = false := by
  obtain ⟨g, negative⟩ := m
  cases negative
  · rfl
  · cases h

theorem flipSign_op (m : Mark γ) (s : Text) :
    Text.flipSign (m.op.symbol :: s) = (Mark.mk m.gap (!m.negative)).op.symbol :: s := by
  obtain ⟨g, negative⟩ := m
  cases negative <;> rfl

/-- What is folded with the sign in front of a run: a sign that touches it. -/
theorem head?_marks (g : γ → Gap) (m : Mark γ) (signs : List (Mark γ)) (c : Char)
    (sign : Text.isSign c = true) :
    (marks g (m :: signs)).head? = some c ↔ (g m.gap).text = [] ∧ m.op.symbol = c := by
  rw [marks_cons]
  cases gap : (g m.gap).text with
  | nil => simp
  | cons d s =>
    constructor
    · intro head
      obtain rfl : d = c := Option.some.inj head
      have white : d ∈ (g m.gap).text := by rw [gap]; exact List.mem_cons_self ..
      rw [(g m.gap).isSign_of_mem d white] at sign
      cases sign
    · rintro ⟨nothing, -⟩
      cases nothing

/-- **Folding `-`**: a run of signs becomes a run of signs with the same parity, and its first sign
is negative if it was and an even number of `-` touches it. -/
theorem exists_foldMinus_marks (g : γ → Gap) :
    ∀ (signs : List (Mark γ)) (m : Mark γ), ∃ (m' : Mark Gap) (signs' : List (Mark Gap)),
      Text.foldMinus (marks g (m :: signs)) = marks id (m' :: signs') ∧ m'.gap = g m.gap ∧
        m'.negative = (m.negative && adjoining g signs % 2 == 0) ∧
        minuses (m' :: signs') % 2 = minuses (m :: signs) % 2
  | [], m => by
    refine ⟨⟨g m.gap, m.negative⟩, [], ?_, rfl, ?_, ?_⟩
    · rw [marks_cons, Text.foldMinus_append (g m.gap).isSign_of_mem, marks_cons]
      obtain ⟨a, negative⟩ := m
      cases negative <;> rfl
    · simp [adjoining]
    · rw [minuses_cons, minuses_cons]
      rfl
  | m₁ :: signs, m => by
    obtain ⟨m', signs', folded, gap, first, parity⟩ := exists_foldMinus_marks g signs m₁
    have touching_iff : (m.op.symbol = '-' ∧ (marks g (m₁ :: signs)).head? = some '-') ↔
        m.negative = true ∧ (g m₁.gap).text = [] ∧ m₁.negative = true := by
      rw [head?_marks g m₁ signs '-' rfl, symbol_negative, symbol_negative]
    rw [marks_cons, Text.foldMinus_append (g m.gap).isSign_of_mem, Text.foldMinus, folded]
    by_cases touching : m.negative = true ∧ (g m₁.gap).text = [] ∧ m₁.negative = true
    · -- the first sign becomes the opposite of what the run behind it has become
      rw [if_pos (touching_iff.2 touching)]
      obtain ⟨negative, nothing, negative'⟩ := touching
      have one_more : adjoining g (m₁ :: signs) = adjoining g signs + 1 := by
        rw [adjoining_cons, if_pos (by simp [nothing, negative'])]
      have empty : m'.gap.text = [] := by rw [gap, nothing]
      refine ⟨⟨g m.gap, !m'.negative⟩, signs', ?_, rfl, ?_, ?_⟩
      · rw [marks_cons, marks_cons]
        show _ ++ Text.flipSign (m'.gap.text ++ m'.op.symbol :: marks id signs') = _
        rw [empty, List.nil_append, flipSign_op]
        rfl
      · rw [first, one_more, negative, negative']
        rcases Nat.mod_two_eq_zero_or_one (adjoining g signs) with even | odd
        · simp [even, Nat.add_mod]
        · simp [odd, Nat.add_mod]
      · rw [minuses_cons] at parity ⊢
        rw [minuses_cons, negative]
        cases flipped : m'.negative <;> simp [flipped] at parity ⊢ <;> omega
    · rw [if_neg (mt touching_iff.1 touching)]
      refine ⟨⟨g m.gap, m.negative⟩, m' :: signs', ?_, rfl, ?_, ?_⟩
      · rw [marks_cons id ⟨g m.gap, m.negative⟩]
        rfl
      · have apart : m.negative = true → adjoining g (m₁ :: signs) = 0 := by
          intro negative
          rw [adjoining_cons, if_neg]
          intro here
          obtain ⟨negative', nothing⟩ := Bool.and_eq_true_iff.1 here
          exact touching ⟨negative, List.isEmpty_iff.1 nothing, negative'⟩
        cases negative : m.negative with
        | true => rw [apart negative]; rfl
        | false => rfl
      · rw [minuses_cons, minuses_cons m, Nat.add_mod, parity, ← Nat.add_mod]

/-- **Folding `+`**: a run of signs loses some `+`, and its first sign stays what it was. -/
theorem exists_foldPlus_marks :
    ∀ (signs : List (Mark Gap)) (m : Mark Gap), ∃ (m' : Mark Gap) (signs' : List (Mark Gap)),
      Text.foldPlus (marks id (m :: signs)) = marks id (m' :: signs') ∧ m'.gap = m.gap ∧
        m'.negative = m.negative ∧ minuses (m' :: signs') = minuses (m :: signs)
  | [], m => by
    refine ⟨m, [], ?_, rfl, rfl, rfl⟩
    rw [marks_cons, Text.foldPlus_append (id m.gap).isSign_of_mem]
    obtain ⟨a, negative⟩ := m
    cases negative <;> rfl
  | m₁ :: signs, m => by
    obtain ⟨m', signs', folded, gap, first, kept⟩ := exists_foldPlus_marks signs m₁
    rw [marks_cons, Text.foldPlus_append (id m.gap).isSign_of_mem, Text.foldPlus, folded]
    by_cases touching : m.op.symbol = '+' ∧ (marks id (m₁ :: signs)).head? = some '+'
    · obtain ⟨plus, head⟩ := touching
      obtain ⟨nothing, plus'⟩ := (head?_marks id m₁ signs '+' rfl).1 head
      have positive : m.negative = false ∧ m₁.negative = false :=
        ⟨negative_eq_false plus, negative_eq_false plus'⟩
      have empty : m'.gap.text = [] := by rw [gap]; exact nothing
      refine ⟨⟨m.gap, m'.negative⟩, signs', ?_, rfl, ?_, ?_⟩
      · rw [if_pos ⟨plus, head⟩, marks_cons, marks_cons]
        show _ ++ (m'.gap.text ++ _) = _
        rw [empty]
        rfl
      · rw [first, positive.1, positive.2]
      · rw [minuses_cons] at kept ⊢
        rw [minuses_cons, positive.1, kept]
        rfl
    · rw [if_neg touching]
      refine ⟨m, m' :: signs', (marks_cons id m _).symm, rfl, rfl, ?_⟩
      rw [minuses_cons, minuses_cons m, kept]

/-- A run of signs behind something that is no sign is folded to one with the same parity. -/
theorem exists_foldSigns_marks (g : γ → Gap) (m : Mark γ) (signs : List (Mark γ)) :
    ∃ (m' : Mark Gap) (signs' : List (Mark Gap)),
      Text.foldSigns (marks g (m :: signs)) = marks id (m' :: signs') ∧
        m'.negative = (m.negative && adjoining g signs % 2 == 0) ∧
        minuses (m' :: signs') % 2 = minuses (m :: signs) % 2 := by
  obtain ⟨m₁, signs₁, minus, -, first, parity⟩ := exists_foldMinus_marks g signs m
  obtain ⟨m', signs', plus, -, first', kept⟩ := exists_foldPlus_marks signs₁ m₁
  refine ⟨m', signs', ?_, first'.trans first, by rw [kept, parity]⟩
  rw [Text.foldSigns, minus, plus]

/-- A run of signs where an operand is due is folded to one with the same parity. -/
theorem exists_foldSigns_run (g : γ → Gap) (signs : List (Mark γ)) :
    ∃ signs' : List (Mark Gap), Text.foldSigns (marks g signs) = marks id signs' ∧
      minuses signs' % 2 = minuses signs % 2 := by
  cases signs with
  | nil => exact ⟨[], rfl, rfl⟩
  | cons m signs =>
    obtain ⟨m', signs', folded, -, parity⟩ := exists_foldSigns_marks g m signs
    exact ⟨m' :: signs', folded, parity⟩

/-- An operator and the run of signs behind it are folded to an operator and a run of signs. The
operator is the same unless it is turned, and then the run has given a sign away. -/
theorem exists_foldSigns_operator (g : γ → Gap) (k : γ) (o : Operator) (signs : List (Mark γ))
    {turned : Bool} (ht : turned = (o == .minus && adjoining g signs % 2 == 1)) :
    ∃ (k' : Gap) (p : Operator) (signs' : List (Mark Gap)),
      Text.foldSigns ((g k).text ++ o.symbol :: marks g signs)
          = k'.text ++ p.symbol :: marks id signs' ∧
        p = (if turned then .plus else o) ∧
        minuses signs' % 2 = (minuses signs + turned.toNat) % 2 := by
  by_cases sign : o.isSign = true
  · -- the operator is the first sign of the run
    obtain ⟨m', signs', folded, first, parity⟩ :=
      exists_foldSigns_marks g ⟨k, o == .minus⟩ signs
    have operator : (Mark.mk k (o == .minus)).op = o := by
      cases o <;> first | rfl | cases sign
    rw [marks_cons, marks_cons, operator] at folded
    refine ⟨m'.gap, m'.op, signs', folded, ?_⟩
    rw [minuses_cons, minuses_cons] at parity
    dsimp only at first parity
    rw [Mark.op, ht]
    cases o with
    | plus =>
      rw [first] at parity ⊢
      exact ⟨rfl, parity⟩
    | minus =>
      rcases Nat.mod_two_eq_zero_or_one (adjoining g signs) with even | odd
      · simp [first, even] at parity ⊢
        omega
      · simp [first, odd] at parity ⊢
        omega
    | _ => cases sign
  · -- the operator cuts the text, and the run is folded on its own
    obtain ⟨signs', folded, parity⟩ := exists_foldSigns_run g signs
    have other : turned = false := by
      rw [ht]
      cases o <;> first | rfl | exact absurd rfl sign
    have apart : Text.isSign o.symbol = false := by
      cases o <;> first | rfl | exact absurd rfl sign
    refine ⟨g k, o, signs', ?_, by rw [other]; rfl, by rw [other]; exact parity⟩
    rw [Text.foldSigns_append (g k).isSign_of_mem, Text.foldSigns_cons apart, folded]

end Marks

/-! ### The folded text of a sentence -/

section Sentences

variable {γ : Type} (g : γ → Gap)

theorem Word.isSign_of_mem (w : Word) {c : Char} (h : c ∈ w.text) : Text.isSign c = false := by
  have alphanum : c.isAlphanum = true := by
    obtain ⟨-, digits | letters⟩ := w.text_spec
    · exact isAlphanum_of_isDigit (List.all_eq_true.1 digits c h)
    · exact isAlphanum_of_isAlpha (List.all_eq_true.1 letters c h)
  exact Text.isSign_of_isAlphanum alphanum

theorem Atom.text_word (c : γ) (w : Word) : (Atom.word c w).text g = (g c).text ++ w.text := by
  rw [text, laid, written_laidTexts_cons]
  exact congrArg _ (List.append_nil _)

theorem Atom.text_group (c c' : γ) (x : Sentence γ Word) :
    (Atom.group c x c').text g = (g c).text ++ '(' :: (x.text g ++ ((g c').text ++ [')'])) := by
  have closing : written g (laidTexts [(c', .closing)]) = (g c').text ++ [')'] :=
    written_laidTexts_cons g c' .closing []
  rw [text, laid, written_laidTexts_cons, laidTexts_append, written_append, closing]
  rfl

theorem Sentence.text_operand (signs : List (Mark γ)) (a : Atom γ Word) :
    (Sentence.operand signs a).text g = marks g signs ++ a.text g := by
  rw [text, laid, laidTexts_append, written_append]
  rfl

theorem Sentence.text_binary (x : Sentence γ Word) (c : γ) (o : Operator) (signs : List (Mark γ))
    (a : Atom γ Word) : (Sentence.binary x c o signs a).text g
      = x.text g ++ ((g c).text ++ o.symbol :: (marks g signs ++ a.text g)) := by
  rw [text, laid, laidTexts_append, written_append]
  show _ ++ written g (laidTexts ((c, .op o) :: _)) = _
  rw [written_laidTexts_cons, laidTexts_append, written_append]
  rfl

/-- An atom starts with white space, a letter, a digit or a bracket. -/
theorem Atom.text_head (a : Atom γ Word) :
    ∃ c t, a.text g = c :: t ∧ Text.isSign c = false := by
  have first (k : γ) {c : Char} {s : Text} (hc : Text.isSign c = false) :
      ∃ c' t, (g k).text ++ c :: s = c' :: t ∧ Text.isSign c' = false := by
    cases gap : (g k).text with
    | nil => exact ⟨c, s, rfl, hc⟩
    | cons d r => exact ⟨d, r ++ c :: s, rfl, (g k).isSign_of_mem d (by rw [gap]; simp)⟩
  cases a with
  | word k w =>
    obtain ⟨c, s, hw⟩ := List.exists_cons_of_ne_nil w.text_spec.1
    rw [Atom.text_word, hw]
    exact first k (w.isSign_of_mem (by rw [hw]; exact List.mem_cons_self ..))
  | group k x k' =>
    rw [Atom.text_group]
    exact first k rfl

/-- An atom ends with a letter, a digit or a bracket. -/
theorem Atom.text_last (a : Atom γ Word) :
    ∃ s c, a.text g = s ++ [c] ∧ Text.isSign c = false := by
  cases a with
  | word k w =>
    have ne := w.text_spec.1
    refine ⟨(g k).text ++ w.text.dropLast, w.text.getLast ne, ?_,
      w.isSign_of_mem (List.getLast_mem ne)⟩
    rw [Atom.text_word, List.append_assoc, List.dropLast_concat_getLast]
  | group k x k' =>
    refine ⟨(g k).text ++ '(' :: (x.text g ++ (g k').text), ')', ?_, rfl⟩
    rw [Atom.text_group]
    simp

/-- So does a sentence. -/
theorem Sentence.text_last (x : Sentence γ Word) :
    ∃ s c, x.text g = s ++ [c] ∧ Text.isSign c = false := by
  cases x with
  | operand signs a =>
    obtain ⟨s, c, ha, hc⟩ := a.text_last g
    exact ⟨marks g signs ++ s, c, by rw [text_operand, ha, List.append_assoc], hc⟩
  | binary x k o signs a =>
    obtain ⟨s, c, ha, hc⟩ := a.text_last g
    refine ⟨x.text g ++ ((g k).text ++ o.symbol :: (marks g signs ++ s)), c, ?_, hc⟩
    rw [text_binary, ha]
    simp

/-- A word is folded to itself. -/
theorem Word.foldSigns_text (w : Word) : Text.foldSigns w.text = w.text :=
  Text.foldSigns_of_forall fun _ => w.isSign_of_mem

mutual

theorem Atom.exists_refolds :
    ∀ a : Atom γ Word, ∃ b : Atom Gap Word, a.Refolds g b ∧ Text.foldSigns (a.text g) = b.text id
  | .word k w => by
    refine ⟨.word (g k) w, rfl, ?_⟩
    rw [Atom.text_word, Text.foldSigns_append (g k).isSign_of_mem, w.foldSigns_text,
      Atom.text_word]
    rfl
  | .group k x k' => by
    obtain ⟨y, hy, folded⟩ := Sentence.exists_refolds x
    refine ⟨.group (g k) y (g k'), hy, ?_⟩
    have closing : Text.foldSigns ((g k').text ++ [')']) = (g k').text ++ [')'] :=
      Text.foldSigns_append (g k').isSign_of_mem [')']
    rw [Atom.text_group, Text.foldSigns_append (g k).isSign_of_mem, Text.foldSigns_cons rfl,
      Text.foldSigns_append_of_last (x.text_last g), folded, closing, Atom.text_group]
    rfl

/-- **Folding a sentence**: the folded text of a sentence is the text of one of its foldings. -/
theorem Sentence.exists_refolds :
    ∀ x : Sentence γ Word, ∃ y : Sentence Gap Word, x.Refolds g y ∧
      Text.foldSigns (x.text g) = y.text id
  | .operand signs a => by
    obtain ⟨b, hb, folded⟩ := Atom.exists_refolds a
    obtain ⟨signs', run, parity⟩ := exists_foldSigns_run g signs
    refine ⟨.operand signs' b, ⟨parity, hb⟩, ?_⟩
    rw [Sentence.text_operand, Text.foldSigns_append_of_head (a.text_head g), run, folded,
      Sentence.text_operand]
  | .binary x k o signs a => by
    obtain ⟨y, hy, left⟩ := Sentence.exists_refolds x
    obtain ⟨b, hb, right⟩ := Atom.exists_refolds a
    obtain ⟨k', p, signs', operator, hp, parity⟩ := exists_foldSigns_operator g k o signs rfl
    refine ⟨.binary y k' p signs' b, ⟨hy, hb, hp, parity⟩, ?_⟩
    have split : (Sentence.binary x k o signs a).text g
        = x.text g ++ (((g k).text ++ o.symbol :: marks g signs) ++ a.text g) := by
      rw [Sentence.text_binary, List.append_assoc]
      rfl
    rw [split, Text.foldSigns_append_of_last (x.text_last g), left,
      Text.foldSigns_append_of_head (a.text_head g), operator, right, Sentence.text_binary,
      List.append_assoc]
    rfl

end

/-- The result of a written sentence is the outcome of a folding of it. -/
theorem exists_result_text (store : Store) (limits : Limits) (x : Sentence γ Word) (tail : Gap) :
    ∃ y : Sentence Gap Word, x.Refolds g y ∧
      store.result limits (x.text g ++ tail.text) = (y.outcome store limits).map some := by
  obtain ⟨y, hy, folded⟩ := Sentence.exists_refolds g x
  refine ⟨y, hy, ?_⟩
  rw [store.result_of_isSentence limits (x.isSentence_text g tail),
    Text.foldSigns_append_blank tail.blank, folded, y.tokens_text, store.calculate_tokens]

/-- **Two writings of one sentence** that turn the same operators in front of powers have the same
result. -/
theorem result_text_eq (store : Store) (limits : Limits) {g h : γ → Gap} {x : Sentence γ Word}
    (same : x.SameTurns g h) (t t' : Gap) :
    store.result limits (x.text g ++ t.text) = store.result limits (x.text h ++ t'.text) := by
  obtain ⟨y, hy, left⟩ := exists_result_text g store limits x t
  obtain ⟨z, hz, right⟩ := exists_result_text h store limits x t'
  rw [left, right, Sentence.outcome_eq store limits hy hz same]

/-! ### Where no operator is turned -/

/-- An operator is turned only where two minus signs touch. -/
theorem Sentence.turns_of_apart {x : Sentence γ Word} (apart : ¬ ['-', '-'] <:+: x.text g) :
    x.turns g = false := by
  refine Bool.eq_false_iff.2 fun turned => ?_
  cases x with
  | operand signs a => cases turned
  | binary x k o signs a =>
    obtain ⟨minus, odd⟩ := Bool.and_eq_true_iff.1 turned
    obtain rfl : o = .minus := eq_of_beq minus
    cases signs with
    | nil => cases odd
    | cons m signs =>
      by_cases here : (m.negative && (g m.gap).text.isEmpty) = true
      · obtain ⟨negative, nothing⟩ := Bool.and_eq_true_iff.1 here
        refine apart ⟨x.text g ++ (g k).text, marks g signs ++ a.text g, ?_⟩
        have symbol : m.op.symbol = '-' := (symbol_negative m).2 negative
        rw [Sentence.text_binary, marks_cons, List.isEmpty_iff.1 nothing, symbol]
        simp [Operator.symbol]
      · rw [adjoining_cons, if_neg here] at odd
        cases odd

mutual

theorem Atom.sameTurns_of_apart {g h : γ → Gap} :
    ∀ {a : Atom γ Word}, ¬ ['-', '-'] <:+: a.text g → ¬ ['-', '-'] <:+: a.text h → a.SameTurns g h
  | .word _ _, _, _ => trivial
  | .group k x k', hg, hh => by
    have inner (f : γ → Gap) : x.text f <:+: (Atom.group k x k').text f := by
      refine ⟨(f k).text ++ ['('], (f k').text ++ [')'], ?_⟩
      rw [Atom.text_group]
      simp
    exact Sentence.sameTurns_of_apart (x := x) (fun two => hg (two.trans (inner g)))
      fun two => hh (two.trans (inner h))

/-- Ways of writing in which no two minus signs touch turn no operators. -/
theorem Sentence.sameTurns_of_apart {g h : γ → Gap} :
    ∀ {x : Sentence γ Word}, ¬ ['-', '-'] <:+: x.text g → ¬ ['-', '-'] <:+: x.text h →
      x.SameTurns g h
  | .operand signs a, hg, hh => by
    have inner (f : γ → Gap) : a.text f <:+: (Sentence.operand signs a).text f := by
      rw [Sentence.text_operand]
      exact (List.suffix_append _ _).isInfix
    exact Atom.sameTurns_of_apart (a := a) (fun two => hg (two.trans (inner g)))
      fun two => hh (two.trans (inner h))
  | .binary x k o signs a, hg, hh => by
    have left (f : γ → Gap) : x.text f <:+: (Sentence.binary x k o signs a).text f := by
      rw [Sentence.text_binary]
      exact (List.prefix_append _ _).isInfix
    have right (f : γ → Gap) : a.text f <:+: (Sentence.binary x k o signs a).text f := by
      refine ⟨x.text f ++ ((f k).text ++ o.symbol :: marks f signs), [], ?_⟩
      rw [Sentence.text_binary]
      simp
    have hg' : ¬ ['-', '-'] <:+: x.text g := fun two => hg (two.trans (left g))
    have hh' : ¬ ['-', '-'] <:+: x.text h := fun two => hh (two.trans (left h))
    refine ⟨Sentence.sameTurns_of_apart hg' hh', ?_, fun _ => ?_⟩
    · exact Atom.sameTurns_of_apart (a := a) (fun two => hg (two.trans (right g)))
        fun two => hh (two.trans (right h))
    · rw [Sentence.turns_of_apart g hg', Sentence.turns_of_apart h hh']

end

end Sentences

/-! ### Lines with the same units -/

/-- Whether two lines turn the same operators in front of powers, when they are written from one
tree. -/
def Text.TurnAlike (a b : Text) : Prop :=
  ∀ (x : Sentence (Gap × Gap) Word) (t t' : Gap), a = x.text Prod.fst ++ t.text →
    b = x.text Prod.snd ++ t'.text → x.SameTurns Prod.fst Prod.snd

/-- Lines in which no two minus signs touch turn no operators. -/
theorem Text.turnAlike_of_apart {a b : Text} (ha : ¬ ['-', '-'] <:+: a)
    (hb : ¬ ['-', '-'] <:+: b) : TurnAlike a b := by
  rintro x t t' rfl rfl
  have left : ¬ ['-', '-'] <:+: x.text Prod.fst := fun two =>
    ha (two.trans (List.prefix_append _ _).isInfix)
  have right : ¬ ['-', '-'] <:+: x.text Prod.snd := fun two =>
    hb (two.trans (List.prefix_append _ _).isInfix)
  exact Sentence.sameTurns_of_apart left right

/-- Lines without powers turn no operators in front of powers. -/
theorem Text.turnAlike_of_unraised {a b : Text} (h : '^' ∉ a) : TurnAlike a b := by
  rintro x t t' rfl -
  refine Sentence.sameTurns_of_unraised fun u hu power => h ?_
  have unit : '^' ∈ u.2.text := by
    rw [power]
    exact List.mem_cons_self ..
  have inner : (u.1, u.2.text) ∈ laidTexts x.laid := List.mem_map_of_mem hu
  exact List.mem_append_left _ (List.mem_flatMap.2 ⟨_, inner, List.mem_append_right _ unit⟩)

namespace Store

/-- **Spacing**: two lines with the same units, which form a sentence, have the same value or the
same refusal, when they turn the same operators in front of powers. -/
theorem result_eq_of_units_eq (store : Store) (limits : Limits) {a b : Text}
    (units : a.units = b.units) (sentence : IsSentence a.units) (turns : a.TurnAlike b) :
    store.result limits a = store.result limits b := by
  obtain ⟨x, t, t', ha, hb⟩ := exists_writings units sentence
  have same := turns x t t' ha hb
  rw [ha, hb]
  exact result_text_eq store limits same t t'

/-- Signs that are kept apart in two ways. -/
theorem result_eq_of_units_eq_apart :
    Text.units ['5', '-', ' ', '-', '2', '^', '2']
        = Text.units ['5', ' ', '-', ' ', '-', '2', '^', '2'] ∧
      IsSentence (Text.units ['5', '-', ' ', '-', '2', '^', '2']) ∧
      empty.result .standard ['5', '-', ' ', '-', '2', '^', '2']
        = empty.result .standard ['5', ' ', '-', ' ', '-', '2', '^', '2'] := by
  have units : Text.units ['5', '-', ' ', '-', '2', '^', '2']
      = Text.units ['5', ' ', '-', ' ', '-', '2', '^', '2'] := by decide
  have ne : ∀ u ∈ Text.units ['5', '-', ' ', '-', '2', '^', '2'], u ≠ [] := by decide
  have sentence : IsSentence (Text.units ['5', '-', ' ', '-', '2', '^', '2']) :=
    (isSentence_iff ne).2 ⟨by unfold Token.Ordered; decide, by decide⟩
  have turns : Text.TurnAlike ['5', '-', ' ', '-', '2', '^', '2']
      ['5', ' ', '-', ' ', '-', '2', '^', '2'] :=
    Text.turnAlike_of_apart (by decide) (by decide)
  exact ⟨units, sentence, empty.result_eq_of_units_eq .standard units sentence turns⟩

/-- White space between two signs can change a value: where they touch, the minus in front of the
base of a power is turned. -/
theorem spacing_matters :
    Text.units ['5', '-', '-', '2', '^', '2'] = Text.units ['5', '-', ' ', '-', '2', '^', '2'] ∧
      IsSentence (Text.units ['5', '-', '-', '2', '^', '2']) ∧
      empty.result .standard ['5', '-', '-', '2', '^', '2'] = .ok (some 9) ∧
      empty.result .standard ['5', '-', ' ', '-', '2', '^', '2'] = .ok (some 1) := by
  have ne : ∀ u ∈ Text.units ['5', '-', '-', '2', '^', '2'], u ≠ [] := by decide
  exact ⟨by decide, (isSentence_iff ne).2 ⟨by unfold Token.Ordered; decide, by decide⟩,
    by decide, by decide⟩

end Store

end Abacus
