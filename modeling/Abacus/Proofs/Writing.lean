import Abacus.Proofs.Line

/-!
# Sentences as lines

A sentence is written by putting white space, or none, in front of each of its units. The white
space is chosen by a function of what the tree holds there, so that one tree can be written in two
ways.

- `Sentence.text`: the text of a sentence, up to white space behind it.
- `units_text`: its units are those of the sentence, however it is written.
- `exists_writings`: two lines with the same units, if these form a sentence, are two ways of
  writing one tree. This is what makes a statement about trees one about all lines.
-/

namespace Abacus

/-- White space, or nothing. -/
structure Gap where
  text : Text
  blank : text.all isBlank = true

namespace Gap

/-- Nothing. -/
def none : Gap := ⟨[], rfl⟩

/-- A single space. -/
def space : Gap := ⟨[' '], rfl⟩

theorem isBlank_of_mem (g : Gap) {c : Char} (h : c ∈ g.text) : isBlank c = true :=
  List.all_eq_true.1 g.blank c h

theorem isSign_of_mem (g : Gap) : ∀ c ∈ g.text, Text.isSign c = false :=
  fun _ h => Text.isSign_of_isBlank (g.isBlank_of_mem h)

end Gap

variable {γ : Type} (g : γ → Gap)

/-- The text of units with the white space chosen by `g` in front of each. -/
def written (us : List (γ × Text)) : Text :=
  us.flatMap fun u => (g u.1).text ++ u.2

theorem written_cons (u : γ × Text) (us : List (γ × Text)) :
    written g (u :: us) = (g u.1).text ++ (u.2 ++ written g us) := by
  rw [written, List.flatMap_cons, List.append_assoc]
  rfl

theorem written_append (us vs : List (γ × Text)) :
    written g (us ++ vs) = written g us ++ written g vs :=
  List.flatMap_append

/-- The text of an atom. -/
def Atom.text (a : Atom γ Word) : Text :=
  written g (laidTexts a.laid)

/-- The text of a sentence. -/
def Sentence.text (x : Sentence γ Word) : Text :=
  written g (laidTexts x.laid)

/-! ### The units of a written sentence -/

theorem Word.text_spec (w : Word) :
    w.text ≠ [] ∧ (w.text.all Char.isDigit = true ∨ w.text.all Char.isAlpha = true) := by
  cases w with
  | numeral s digits => exact ⟨digits.1, .inl (List.all_eq_true.2 digits.2)⟩
  | name s letters => exact ⟨letters.1, .inr (List.all_eq_true.2 letters.2)⟩

/-- A unit is a word or a symbol. -/
theorem Lexeme.text_cases (u : Lexeme Word) :
    (∃ w, u = .word w) ∨ ∃ c t, u.text = [c] ∧ Token.ofSymbol? c = some t := by
  cases u with
  | word w => exact .inl ⟨w, rfl⟩
  | op o => exact .inr ⟨o.symbol, .op o, rfl, Token.ofSymbol?_symbol o⟩
  | opening => exact .inr ⟨'(', .opening, rfl, rfl⟩
  | closing => exact .inr ⟨')', .closing, rfl, rfl⟩

theorem written_laidTexts_cons (a : γ) (u : Lexeme Word) (l : List (γ × Lexeme Word)) :
    written g (laidTexts ((a, u) :: l)) = (g a).text ++ (u.text ++ written g (laidTexts l)) :=
  written_cons g (a, u.text) (laidTexts l)

/-- No letter or digit comes directly behind a word, where an operator is due. -/
theorem isAlphanum_head_written (tail : Gap) {l : List (γ × Lexeme Word)}
    (order : (laidTokens Word.token l).foldlM Token.next false = some false) :
    ∀ d ∈ (written g (laidTexts l) ++ tail.text).head?, d.isAlphanum = false := by
  intro d hd
  cases l with
  | nil => exact Text.isAlphanum_of_isBlank (tail.isBlank_of_mem (List.mem_of_head? hd))
  | cons p l =>
    obtain ⟨a, u⟩ := p
    rw [written_laidTexts_cons, List.append_assoc] at hd
    cases gap : (g a).text with
    | cons c s =>
      rw [gap] at hd
      obtain rfl : c = d := Option.some.inj hd
      have white : c ∈ (g a).text := by rw [gap]; exact List.mem_cons_self ..
      exact Text.isAlphanum_of_isBlank ((g a).isBlank_of_mem white)
    | nil =>
      rcases u.text_cases with ⟨w, rfl⟩ | ⟨c, t, symbol, hc⟩
      · cases w <;> cases order
      · rw [gap, symbol] at hd
        obtain rfl : c = d := Option.some.inj hd
        exact Text.isAlphanum_of_ofSymbol? hc

/-- Units that are in order stay apart, however they are written. -/
theorem units_written (tail : Gap) :
    ∀ (l : List (γ × Lexeme Word)) {due : Bool},
      (laidTokens Word.token l).foldlM Token.next due = some false →
        Text.units (written g (laidTexts l) ++ tail.text) = laidUnits l
  | [], _, _ => Text.units_of_blank tail.blank
  | (a, u) :: l, due, order => by
    obtain ⟨due', first, rest⟩ := Option.bind_eq_some_iff.1 order
    have units := units_written tail l rest
    rw [written_laidTexts_cons, List.append_assoc, List.append_assoc,
      Text.units_blank_append (g a).blank]
    rcases u.text_cases with ⟨w, rfl⟩ | ⟨c, t, symbol, hc⟩
    · obtain ⟨ne, chars⟩ := w.text_spec
      -- behind a word an operator is due, which does not join it
      have behind : due' = false := by
        cases due <;> cases w <;> first | exact (Option.some.inj first).symm | cases first
      subst behind
      show Text.units (w.text ++ _) = w.text :: laidUnits l
      rw [Text.units_word_append ne chars (isAlphanum_head_written g tail rest), units]
    · show _ = u.text :: laidUnits l
      rw [symbol, List.singleton_append, Text.units_symbol_cons (Text.isAlphanum_of_ofSymbol? hc)
        (Text.isBlank_of_ofSymbol? hc), units]

namespace Sentence

/-- A sentence has the same units however it is written. -/
theorem units_text (x : Sentence γ Word) (tail : Gap) :
    Text.units (x.text g ++ tail.text) = x.units :=
  units_written g tail x.laid (x.foldlM_next Word.isWord_token)

theorem tokens_text (x : Sentence γ Word) (tail : Gap) :
    Text.tokens (x.text g ++ tail.text) = x.tokens Word.token := by
  rw [Text.tokens, units_text, map_ofUnit_units]

theorem ne_nil_of_mem_units {x : Sentence γ Word} {u : Text} (h : u ∈ x.units) : u ≠ [] := by
  rw [← units_text (fun _ => .none) x .none] at h
  exact (Text.mem_units h).1

/-- The units of a sentence form a sentence, whatever stands in front of them. -/
theorem isSentence_units (x : Sentence γ Word) : IsSentence x.units := by
  refine (isSentence_iff fun u hu => ne_nil_of_mem_units hu).2 ?_
  rw [x.map_ofUnit_units]
  exact ⟨x.foldlM_next Word.isWord_token, decide_eq_true (x.depth?_brackets Word.isWord_token 0)⟩

theorem isSentence_text (x : Sentence γ Word) (tail : Gap) :
    IsSentence (Text.units (x.text g ++ tail.text)) := by
  rw [units_text]
  exact x.isSentence_units

end Sentence

/-! ### Lines as written sentences -/

/-- Every line is its units with white space in front of each, and white space behind. -/
theorem exists_written (s : Text) :
    ∃ (us : List (Gap × Text)) (tail : Gap), s = written id us ++ tail.text ∧
      us.map Prod.snd = s.units := by
  have cut : ∀ rs : List Text, ∃ (us : List (Gap × Text)) (tail : Gap),
      rs.flatten = written id us ++ tail.text ∧
        us.map Prod.snd = rs.filter fun u => !u.all isBlank := by
    intro rs
    induction rs with
    | nil => exact ⟨[], .none, rfl, rfl⟩
    | cons r rs ih =>
      obtain ⟨us, tail, text, units⟩ := ih
      by_cases blank : r.all isBlank = true
      · -- a blank run goes to the white space in front of the next unit
        rw [List.flatten_cons, text, List.filter_cons_of_neg (by simp [blank]), ← units]
        have joined (g : Gap) : (r ++ g.text).all isBlank = true := by
          rw [List.all_append, blank, g.blank]
          rfl
        cases us with
        | nil => exact ⟨[], ⟨r ++ tail.text, joined tail⟩, rfl, rfl⟩
        | cons u us =>
          refine ⟨(⟨r ++ u.1.text, joined u.1⟩, u.2) :: us, tail, ?_, rfl⟩
          simp [written_cons]
      · refine ⟨(.none, r) :: us, tail, ?_, ?_⟩
        · rw [List.flatten_cons, text, written_cons]
          exact (List.append_assoc r _ _).symm
        · rw [List.filter_cons_of_pos (by simpa using blank), List.map_cons, units]
  obtain ⟨us, tail, text, units⟩ := cut (Text.runs Text.sameUnit s)
  rw [Text.flatten_runs] at text
  exact ⟨us, tail, text, units⟩

/-- Two lists of the same units with white space are one list with two choices of white space. -/
theorem exists_two_gaps :
    ∀ {us vs : List (Gap × Text)}, us.map Prod.snd = vs.map Prod.snd →
      ∃ ws : List ((Gap × Gap) × Text), written Prod.fst ws = written id us ∧
        written Prod.snd ws = written id vs ∧ ws.map Prod.snd = us.map Prod.snd
  | [], [], _ => ⟨[], rfl, rfl, rfl⟩
  | (g, u) :: us, (g', v) :: vs, h => by
    obtain ⟨rfl, rest⟩ := List.cons.inj h
    obtain ⟨ws, left, right, units⟩ := exists_two_gaps rest
    refine ⟨((g, g'), u) :: ws, ?_, ?_, ?_⟩
    · rw [written_cons, written_cons, left]
      rfl
    · rw [written_cons, written_cons, right]
      rfl
    · rw [List.map_cons, List.map_cons, units]

/-- **Two writings of one sentence**: lines with the same units, which form a sentence, come from
one tree, written with two choices of white space. -/
theorem exists_writings {a b : Text} (units : a.units = b.units) (sentence : IsSentence a.units) :
    ∃ (x : Sentence (Gap × Gap) Word) (t t' : Gap),
      a = x.text Prod.fst ++ t.text ∧ b = x.text Prod.snd ++ t'.text := by
  obtain ⟨us, t, ha, hus⟩ := exists_written a
  obtain ⟨vs, t', hb, hvs⟩ := exists_written b
  obtain ⟨ws, left, right, hws⟩ := exists_two_gaps (hus.trans (units.trans hvs.symm))
  rw [hus] at hws
  obtain ⟨order, balance⟩ := (isSentence_iff fun u hu => (Text.mem_units hu).1).1 sentence
  have tokens : unitTokens ws = a.tokens := by
    rw [Text.tokens, ← hws, List.map_map]
    rfl
  have ne : ∀ w ∈ ws, w.2 ≠ [] := by
    intro w hw
    have unit : w.2 ∈ a.units := hws ▸ List.mem_map_of_mem hw
    exact (Text.mem_units unit).1
  obtain ⟨x, hx⟩ := exists_laidTexts ne (tokens ▸ order) (tokens ▸ balance)
  refine ⟨x, t, t', ?_, ?_⟩
  · rw [Sentence.text, hx, left]
    exact ha
  · rw [Sentence.text, hx, right]
    exact hb

end Abacus
