import Abacus.Proofs.Spacing

/-!
# Lines mean what their sentences mean

- `Sentence.Tame`: a way of writing that turns no operator in front of the base of a power. Without
  powers every way is one (`Sentence.tame_of_unraised`).
- `Store.result_of_foldSigns_eq_self`: where there is nothing to fold, a line has the outcome of its
  sentence at once.
- **Denotation**: so has every line in which no two equal signs touch, and every line that is
  written in a tame way. The second follows from the first: a tame way of writing has the result of
  the way that puts a space in front of every unit.
-/

namespace Abacus

/-- Whether a way of writing a sentence turns no operator in front of the base of a power: it turns
the same ones there as if a space stood in front of every unit, which turns none. -/
def Sentence.Tame {γ α : Type} (g : γ → Gap) (x : Sentence γ α) : Prop :=
  x.SameTurns g fun _ => .space

/-- A sentence without powers is written in a tame way, whatever the white space. -/
theorem Sentence.tame_of_unraised {γ α : Type} (g : γ → Gap) {x : Sentence γ α}
    (h : ∀ u ∈ x.laid, u.2 ≠ .op .power) : x.Tame g :=
  sameTurns_of_unraised h

/-! ### Spaces in front of every unit -/

section Spaced

variable {γ : Type}

/-- A unit is folded to itself. -/
theorem Lexeme.foldSigns_text (u : Lexeme Word) : Text.foldSigns u.text = u.text := by
  cases u with
  | word w => exact w.foldSigns_text
  | op o => cases o <;> rfl
  | opening => rfl
  | closing => rfl

/-- Signs between which there are spaces have nothing to fold with. -/
theorem foldSigns_spaced (l : List (γ × Lexeme Word)) :
    Text.foldSigns (written (fun _ => .space) (laidTexts l))
      = written (fun _ => .space) (laidTexts l) := by
  induction l with
  | nil => rfl
  | cons p l ih =>
    obtain ⟨k, u⟩ := p
    have unit : Text.foldSigns (u.text ++ written (fun _ => .space) (laidTexts l))
        = u.text ++ written (fun _ => .space) (laidTexts l) := by
      cases l with
      | nil =>
        show Text.foldSigns (u.text ++ []) = u.text ++ []
        rw [List.append_nil, u.foldSigns_text]
      | cons p l =>
        have space : ∃ c t, written (fun _ : γ => Gap.space) (laidTexts (p :: l)) = c :: t ∧
            Text.isSign c = false :=
          ⟨' ', _, written_laidTexts_cons _ p.1 p.2 l, rfl⟩
        rw [Text.foldSigns_append_of_head space, u.foldSigns_text, ih]
    rw [written_laidTexts_cons, Text.foldSigns_append Gap.space.isSign_of_mem, unit]

end Spaced

namespace Store

variable {γ : Type}

/-- A line in which there is nothing to fold has the outcome of its sentence. -/
theorem result_of_foldSigns_eq_self (store : Store) (limits : Limits) {g : γ → Gap}
    {x : Sentence γ Word} (h : Text.foldSigns (x.text g) = x.text g) (tail : Gap) :
    store.result limits (x.text g ++ tail.text) = (x.outcome store limits).map some := by
  rw [store.result_of_isSentence limits (x.isSentence_text g tail),
    Text.foldSigns_append_blank tail.blank, h, x.tokens_text, store.calculate_tokens]

/-- **Denotation**: a line has the outcome of the sentence that it is written from, if no two equal
signs touch in it or if it is written in a tame way. -/
theorem result_text (store : Store) (limits : Limits) (g : γ → Gap) (x : Sentence γ Word)
    (tail : Gap)
    (h : (¬ ['-', '-'] <:+: x.text g ++ tail.text ∧ ¬ ['+', '+'] <:+: x.text g ++ tail.text) ∨
      x.Tame g) :
    store.result limits (x.text g ++ tail.text) = (x.outcome store limits).map some := by
  rcases h with ⟨minus, plus⟩ | tame
  · have inner : x.text g <:+: x.text g ++ tail.text := (List.prefix_append _ _).isInfix
    refine store.result_of_foldSigns_eq_self limits ?_ tail
    exact Text.foldSigns_eq_self (fun two => minus (two.trans inner))
      fun two => plus (two.trans inner)
  · -- with a space in front of every unit there is nothing to fold
    rw [result_text_eq store limits tame tail .none]
    exact store.result_of_foldSigns_eq_self limits (foldSigns_spaced x.laid) .none

/-- A turned operator in front of a product: `7 --2*3` is `7 + 2 * 3`. -/
theorem result_text_turned :
    let x : Sentence Gap Word :=
      .binary
        (.binary (.operand [] (.word .none (.numeral ['7'] (by decide)))) .space .minus
          [⟨.none, true⟩] (.word .none (.numeral ['2'] (by decide))))
        .none .times [] (.word .none (.numeral ['3'] (by decide)))
    x.text id ++ Gap.space.text = ['7', ' ', '-', '-', '2', '*', '3', ' '] ∧ x.Tame id ∧
      empty.result .standard (x.text id ++ Gap.space.text)
        = (x.outcome empty .standard).map some ∧
      x.outcome empty .standard = .ok 13 := by
  intro x
  have tame : x.Tame id := ⟨⟨trivial, trivial, nofun⟩, trivial, nofun⟩
  exact ⟨rfl, tame, empty.result_text .standard id x .space (.inr tame), rfl⟩

end Store

end Abacus
