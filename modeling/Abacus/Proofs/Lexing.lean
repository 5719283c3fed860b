import Abacus.Proofs.Assignment
import Abacus.Proofs.Folding
import Mathlib.Data.List.Basic

/-!
# The cut into units

A text is cut into units twice. The normal form is made of runs of neighbours that stick together,
with one space between two of them; the tokens are made of the pieces between white space, each
told from its characters. Both are told apart here from a third description, the lexical rules

  numeral = digit+,  name = letter+,  symbol = one of `+ - * / ^ ( )`,  any other visible character,

where numerals and names are as long as they can be, and white space is no part of any unit.

- **The rules** (`Text.Lexed`): the units of a text and their tokens, without cutting it.
- **The cut** (`Text.lexed_iff`): every text has one cut by these rules, and it is the one that the
  normal form makes; nothing but white space gets lost (`Text.flatten_units`).
- **Texts of units** (`Text.unwords`): a space is no part of a unit and joins none, so a text that
  is put together with spaces is taken apart where it was put together.
- **Spaced text** (`Normalised.ofText?_lexed`): what the normal form of a line looks like and which
  tokens are read from it.
-/

namespace Abacus

/-- The characters that are a unit of their own, each with its token. -/
def symbols : List (Char × Token) :=
  [('+', .op .plus), ('-', .op .minus), ('*', .op .times), ('/', .op .over), ('^', .op .power),
    ('(', .opening), (')', .closing)]

theorem mem_symbols_iff {c : Char} {t : Token} :
    (c, t) ∈ symbols ↔ Token.ofSymbol? c = some t := by
  constructor
  · intro h
    simp only [symbols, List.mem_cons, Prod.mk.injEq, List.not_mem_nil, or_false] at h
    rcases h with ⟨rfl, rfl⟩ | ⟨rfl, rfl⟩ | ⟨rfl, rfl⟩ | ⟨rfl, rfl⟩ | ⟨rfl, rfl⟩ | ⟨rfl, rfl⟩ |
      ⟨rfl, rfl⟩ <;> rfl
  · intro h
    rcases Token.eq_of_ofSymbol? h with ⟨rfl, rfl⟩ | ⟨rfl, rfl⟩ | ⟨o, rfl, rfl⟩
    · decide
    · decide
    · cases o <;> decide

namespace Text

/-! ### The rules -/

/-- The units of a text, from left to right, each with the token that it is. -/
inductive Lexed : Text → List (Text × Token) → Prop where
  | done : Lexed [] []
  | blank {c : Char} {s : Text} {us : List (Text × Token)} (white : isBlank c = true)
      (rest : Lexed s us) : Lexed (c :: s) us
  | numeral {w s : Text} {us : List (Text × Token)} (digits : w.Consists Char.isDigit)
      (longest : ∀ c ∈ s.head?, c.isDigit = false) (rest : Lexed s us) :
      Lexed (w ++ s) ((w, .number (Decimal.denoted w)) :: us)
  | name {w s : Text} {us : List (Text × Token)} (letters : w.Consists Char.isAlpha)
      (longest : ∀ c ∈ s.head?, c.isAlpha = false) (rest : Lexed s us) :
      Lexed (w ++ s) ((w, .name w) :: us)
  | symbol {c : Char} {t : Token} {s : Text} {us : List (Text × Token)}
      (known : (c, t) ∈ symbols) (rest : Lexed s us) : Lexed (c :: s) (([c], t) :: us)
  | other {c : Char} {s : Text} {us : List (Text × Token)} (visible : isBlank c = false)
      (digit : c.isDigit = false) (letter : c.isAlpha = false) (unknown : ∀ t, (c, t) ∉ symbols)
      (rest : Lexed s us) : Lexed (c :: s) (([c], .unknown [c]) :: us)

/-! ### The cut -/

theorem isAlpha_of_isDigit {c : Char} (h : c.isDigit = true) : c.isAlpha = false := by
  refine Bool.eq_false_iff.2 fun letter => ?_
  rw [isDigit_of_isAlpha letter] at h
  cases h

/-- A unit of digits ends where no digit comes next, be it a letter. -/
theorem units_numeral_append {w : Text} (digits : w.Consists Char.isDigit) {s : Text}
    (longest : ∀ c ∈ s.head?, c.isDigit = false) : units (w ++ s) = w :: units s := by
  obtain ⟨ne, digit⟩ := digits
  rw [units_append, units_word ne (.inl (List.all_eq_true.2 digit))]
  · rfl
  · intro c hc d hd
    have first := digit c (List.mem_of_getLast? hc)
    simp [sameUnit, isAlpha_of_isDigit first, longest d hd]

theorem units_name_append {w : Text} (letters : w.Consists Char.isAlpha) {s : Text}
    (longest : ∀ c ∈ s.head?, c.isAlpha = false) : units (w ++ s) = w :: units s := by
  obtain ⟨ne, letter⟩ := letters
  rw [units_append, units_word ne (.inr (List.all_eq_true.2 letter))]
  · rfl
  · intro c hc d hd
    have first := letter c (List.mem_of_getLast? hc)
    simp [sameUnit, isDigit_of_isAlpha first, longest d hd]

/-- The rules leave no choice: they give the units of the normal form, read one by one. -/
theorem Lexed.eq_units {s : Text} {us : List (Text × Token)} (h : Lexed s us) :
    us = s.units.map fun u => (u, Token.ofUnit u) := by
  induction h with
  | done => rfl
  | @blank c s us white _ ih =>
    have front : units (c :: s) = units s := units_blank_append (g := [c]) (by simp [white]) s
    rw [front, ih]
  | numeral digits longest _ ih =>
    rw [units_numeral_append digits longest, List.map_cons, ← ih,
      Token.ofUnit_numeral digits, Decimal.value_eq_denoted]
  | name letters longest _ ih =>
    rw [units_name_append letters longest, List.map_cons, ← ih,
      Token.ofUnit_name letters]
  | symbol known _ ih =>
    have symbol := mem_symbols_iff.1 known
    rw [units_symbol_cons (isAlphanum_of_ofSymbol? symbol) (isBlank_of_ofSymbol? symbol),
      List.map_cons, ← ih, Token.ofUnit, symbol]
    rfl
  | @other c s us visible digit letter unknown _ ih =>
    have symbol : Token.ofSymbol? c = none :=
      Option.eq_none_iff_forall_ne_some.2 fun t h => unknown t (mem_symbols_iff.2 h)
    have read : Token.ofUnit [c] = .unknown [c] := by
      simp [Token.ofUnit, symbol, Token.ofWord, digit, letter]
    rw [units_symbol_cons (by simp [Char.isAlphanum, digit, letter]) visible, List.map_cons, ← ih,
      read]

/-- A text that starts with a character of a class starts with a longest run of the class. -/
theorem exists_longest {p : Char → Bool} {c : Char} (h : p c = true) (r : Text) :
    ∃ w s : Text, c :: r = w ++ s ∧ w.Consists p ∧ (∀ d ∈ s.head?, p d = false) ∧
      s.length ≤ r.length := by
  refine ⟨(c :: r).takeWhile p, (c :: r).dropWhile p, List.takeWhile_append_dropWhile.symm,
    ⟨?_, fun d hd => List.all_eq_true.1 List.all_takeWhile d hd⟩, fun d hd => ?_, ?_⟩
  · rw [List.takeWhile_cons_of_pos h]
    exact List.cons_ne_nil _ _
  · have stop := List.head?_dropWhile_not p (c :: r)
    rw [hd] at stop
    simpa using stop
  · rw [List.dropWhile_cons_of_pos h]
    exact (List.dropWhile_suffix p).length_le

/-- The rules leave nothing out: every text can be cut by them. -/
theorem exists_lexed : ∀ s : Text, ∃ us, Lexed s us
  | [] => ⟨[], .done⟩
  | c :: r => by
    by_cases white : isBlank c = true
    · obtain ⟨us, rest⟩ := exists_lexed r
      exact ⟨us, .blank white rest⟩
    by_cases digit : c.isDigit = true
    · obtain ⟨w, s, text, digits, longest, shorter⟩ := exists_longest digit r
      obtain ⟨us, rest⟩ := exists_lexed s
      rw [text]
      exact ⟨_, .numeral digits longest rest⟩
    by_cases letter : c.isAlpha = true
    · obtain ⟨w, s, text, letters, longest, shorter⟩ := exists_longest letter r
      obtain ⟨us, rest⟩ := exists_lexed s
      rw [text]
      exact ⟨_, .name letters longest rest⟩
    obtain ⟨us, rest⟩ := exists_lexed r
    by_cases known : ∃ t, (c, t) ∈ symbols
    · obtain ⟨t, known⟩ := known
      exact ⟨_, .symbol known rest⟩
    · exact ⟨_, .other (Bool.eq_false_iff.2 white) (Bool.eq_false_iff.2 digit)
        (Bool.eq_false_iff.2 letter) (not_exists.1 known) rest⟩
termination_by s => s.length

/-- **The cut**: by the rules every text is cut in one way, into its units. -/
theorem lexed_iff {s : Text} {us : List (Text × Token)} :
    Lexed s us ↔ us = s.units.map fun u => (u, Token.ofUnit u) := by
  constructor
  · exact Lexed.eq_units
  · intro same
    obtain ⟨vs, cut⟩ := exists_lexed s
    rw [same, ← cut.eq_units]
    exact cut

theorem lexed_units (s : Text) : Lexed s (s.units.map fun u => (u, Token.ofUnit u)) :=
  lexed_iff.2 rfl

/-- Whether a text is one unit: digits only, letters only, or one character that is not white. -/
def Undivided (u : Text) : Prop :=
  u.Consists Char.isDigit ∨ u.Consists Char.isAlpha ∨ ∃ c, u = [c] ∧ isBlank c = false

theorem Lexed.undivided {s : Text} {us : List (Text × Token)} (h : Lexed s us) :
    ∀ u ∈ us, u.1.Undivided := by
  induction h with
  | done => exact List.forall_mem_nil _
  | blank _ _ ih => exact ih
  | numeral digits _ _ ih => exact List.forall_mem_cons.2 ⟨.inl digits, ih⟩
  | name letters _ _ ih => exact List.forall_mem_cons.2 ⟨.inr (.inl letters), ih⟩
  | symbol known _ ih =>
    have visible := isBlank_of_ofSymbol? (mem_symbols_iff.1 known)
    exact List.forall_mem_cons.2 ⟨.inr (.inr ⟨_, rfl, visible⟩), ih⟩
  | other visible _ _ _ _ ih => exact List.forall_mem_cons.2 ⟨.inr (.inr ⟨_, rfl, visible⟩), ih⟩

theorem undivided_of_mem_units {s u : Text} (h : u ∈ units s) : u.Undivided :=
  (lexed_units s).undivided (u, Token.ofUnit u) (List.mem_map_of_mem h)

/-- A class of letters or digits holds of no white space. -/
theorem Consists.filter_visible {p : Char → Bool} (alphanum : ∀ c, p c = true → c.isAlphanum = true)
    {w : Text} (h : w.Consists p) : w.filter (fun c => !isBlank c) = w :=
  List.filter_eq_self.2 fun c hc => by simp [isBlank_of_isAlphanum (alphanum c (h.2 c hc))]

theorem Lexed.flatten {s : Text} {us : List (Text × Token)} (h : Lexed s us) :
    (us.map Prod.fst).flatten = s.filter fun c => !isBlank c := by
  induction h with
  | done => rfl
  | blank white _ ih => rw [ih, List.filter_cons_of_neg (by simp [white])]
  | numeral digits _ _ ih =>
    rw [List.filter_append, digits.filter_visible fun _ => isAlphanum_of_isDigit, ← ih]
    rfl
  | name letters _ _ ih =>
    rw [List.filter_append, letters.filter_visible fun _ => isAlphanum_of_isAlpha, ← ih]
    rfl
  | symbol known _ ih =>
    have visible := isBlank_of_ofSymbol? (mem_symbols_iff.1 known)
    rw [List.filter_cons_of_pos (by simp [visible]), ← ih]
    rfl
  | other visible _ _ _ _ ih =>
    rw [List.filter_cons_of_pos (by simp [visible]), ← ih]
    rfl

theorem map_fst_units (s : Text) :
    (s.units.map fun u => (u, Token.ofUnit u)).map Prod.fst = s.units := by
  rw [List.map_map]
  exact List.map_id _

/-- Nothing but white space gets lost. -/
theorem flatten_units (s : Text) : s.units.flatten = s.filter fun c => !isBlank c := by
  have cut := (lexed_units s).flatten
  rwa [map_fst_units] at cut

/-! ### One unit -/

theorem Undivided.units_eq {u : Text} (h : u.Undivided) : units u = [u] := by
  rcases h with ⟨ne, digits⟩ | ⟨ne, letters⟩ | ⟨c, rfl, visible⟩
  · exact units_word ne (.inl (List.all_eq_true.2 digits))
  · exact units_word ne (.inr (List.all_eq_true.2 letters))
  · simp [units, runs, visible]

theorem Undivided.foldSigns_eq {u : Text} (h : u.Undivided) : foldSigns u = u := by
  rcases h with ⟨-, digits⟩ | ⟨-, letters⟩ | ⟨c, rfl, -⟩
  · exact foldSigns_of_forall fun c hc => isSign_of_isAlphanum (isAlphanum_of_isDigit (digits c hc))
  · exact foldSigns_of_forall fun c hc =>
      isSign_of_isAlphanum (isAlphanum_of_isAlpha (letters c hc))
  · simp [foldSigns, foldMinus, foldPlus]

theorem Undivided.glued_eq {u : Text} (h : u.Undivided) : glued u = false := by
  rcases h with ⟨-, digits⟩ | ⟨-, letters⟩ | ⟨c, rfl, -⟩
  · exact glued_of_forall fun c hc =>
      isMultiplicative_of_isAlphanum (isAlphanum_of_isDigit (digits c hc))
  · exact glued_of_forall fun c hc =>
      isMultiplicative_of_isAlphanum (isAlphanum_of_isAlpha (letters c hc))
  · rfl

/-! ### Texts of units -/

theorem units_append_blank_cons {c : Char} (white : isBlank c = true) (s t : Text) :
    units (s ++ c :: t) = units s ++ units t := by
  have behind : units (c :: t) = units t := units_blank_append (g := [c]) (by simp [white]) t
  rw [units_append fun b _ d hd => ?_, behind]
  obtain rfl : c = d := Option.some.inj hd
  exact sameUnit_of_right b (isAlphanum_of_isBlank white)

theorem units_unwords : ∀ us : List Text, units (unwords us) = us.flatMap units
  | [] => rfl
  | [u] => by rw [unwords_singleton, List.flatMap_singleton]
  | u :: v :: us => by
    rw [unwords_cons_cons, units_append_blank_cons rfl, units_unwords (v :: us)]
    rfl

theorem tokens_unwords (us : List Text) : tokens (unwords us) = us.flatMap tokens := by
  rw [tokens, units_unwords, List.map_flatMap]
  rfl

/-- No sign folds across a space. -/
theorem foldSigns_unwords :
    ∀ {us : List Text}, (∀ u ∈ us, foldSigns u = u) → foldSigns (unwords us) = unwords us
  | [], _ => rfl
  | [u], h => by simpa [unwords_singleton] using h
  | u :: v :: us, h => by
    obtain ⟨first, rest⟩ := List.forall_mem_cons.1 h
    rw [unwords_cons_cons, foldSigns_append_cons rfl, first, foldSigns_unwords rest]

/-- No operators are glued across a space. -/
theorem glued_unwords :
    ∀ {us : List Text}, (∀ u ∈ us, glued u = false) → glued (unwords us) = false
  | [], _ => rfl
  | [u], h => by simpa [unwords_singleton] using h
  | u :: v :: us, h => by
    obtain ⟨first, rest⟩ := List.forall_mem_cons.1 h
    rw [unwords_cons_cons, glued_append_cons rfl, first, glued_unwords rest]
    rfl

theorem filter_unwords :
    ∀ {us : List Text}, (∀ u ∈ us, ' ' ∉ u) → (unwords us).filter (· ≠ ' ') = us.flatten
  | [], _ => rfl
  | [u], h => by
    have spaceless : ' ' ∉ u := h u (List.mem_singleton_self u)
    simpa [unwords_singleton] using fun c hc => ne_of_mem_of_not_mem hc spaceless
  | u :: v :: us, h => by
    obtain ⟨spaceless, rest⟩ := List.forall_mem_cons.1 h
    have first : u.filter (· ≠ ' ') = u := by
      simpa using fun c hc => ne_of_mem_of_not_mem hc spaceless
    rw [unwords_cons_cons, List.filter_append, first, List.filter_cons_of_neg (by simp),
      filter_unwords rest]
    rfl

theorem exists_unwords_cons (c : Char) (u : Text) (us : List Text) :
    ∃ t, unwords ((c :: u) :: us) = c :: t := by
  cases us with
  | nil => exact ⟨u, unwords_singleton _⟩
  | cons v us => exact ⟨_, unwords_cons_cons (c :: u) v us⟩

/-- A text of visible words starts with no white space. -/
theorem isBlank_of_head?_unwords {us : List Text}
    (h : ∀ u ∈ us, u ≠ [] ∧ ∀ c ∈ u, isBlank c = false) :
    ∀ c ∈ (unwords us).head?, isBlank c = false := by
  intro c hc
  cases us with
  | nil => cases hc
  | cons u us =>
    obtain ⟨ne, visible⟩ := h u (List.mem_cons_self ..)
    obtain ⟨d, u, rfl⟩ := List.exists_cons_of_ne_nil ne
    obtain ⟨t, text⟩ := exists_unwords_cons d u us
    rw [text] at hc
    obtain rfl : d = c := Option.some.inj hc
    exact visible d (List.mem_cons_self ..)

/-- Nor does it end with white space. -/
theorem isBlank_of_getLast?_unwords :
    ∀ {us : List Text}, (∀ u ∈ us, u ≠ [] ∧ ∀ c ∈ u, isBlank c = false) →
      ∀ c ∈ (unwords us).getLast?, isBlank c = false
  | [], _, _, hc => by cases hc
  | [u], h, c, hc => by
    rw [unwords_singleton] at hc
    exact (h u (List.mem_singleton_self u)).2 c (List.mem_of_getLast? hc)
  | u :: v :: us, h, c, hc => by
    have rest : ∀ w ∈ v :: us, w ≠ [] ∧ ∀ c ∈ w, isBlank c = false :=
      fun w hw => h w (List.mem_cons_of_mem u hw)
    refine isBlank_of_getLast?_unwords rest c ?_
    -- the last character is that of the words behind the first, for there are some
    obtain ⟨d, v, rfl⟩ := List.exists_cons_of_ne_nil (rest v (List.mem_cons_self ..)).1
    obtain ⟨t, text⟩ := exists_unwords_cons d v us
    have last : (u ++ ' ' :: d :: t).getLast? = (d :: t).getLast? := by
      rw [List.getLast?_append, List.getLast?_cons_cons,
        List.getLast?_eq_some_getLast (List.cons_ne_nil d t)]
      rfl
    rw [unwords_cons_cons, text] at hc
    rw [text, ← last]
    exact hc

/-! ### Spaced text -/

/-- The units of a text stay its units with one space between neighbours. -/
theorem units_unwords_units (s : Text) : units (unwords s.units) = s.units := by
  rw [units_unwords, List.flatMap_congr fun u hu => (undivided_of_mem_units hu).units_eq]
  exact List.flatMap_singleton' s.units

end Text

namespace Normalised

open Text (Lexed)

/-- **Spaced text**: a line that is spaced out becomes the units of its folded text, as the lexical
rules have them, with one space between two of them and no other white space: without these spaces
it is the folded text without its white space. It is cut into the same units again, and one token is
read for each, the one that the rules give it. -/
theorem ofText?_lexed {line text : Text} (h : ofText? line = some (.spaced text)) :
    ∃ us : List (Text × Token), (∀ vs, Lexed line.foldSigns vs ↔ vs = us) ∧
      text = Text.unwords (us.map Prod.fst) ∧
      (∀ c ∈ text.head?, isBlank c = false) ∧ (∀ c ∈ text.getLast?, isBlank c = false) ∧
      text.filter (· ≠ ' ') = line.foldSigns.filter (fun c => !isBlank c) ∧
      Lexed text us ∧ Token.scan text = us.map Prod.snd := by
  obtain ⟨-, -, rfl⟩ := ofText?_eq_spaced_iff.1 h
  generalize line.foldSigns = folded
  have visible : ∀ u ∈ folded.units, u ≠ [] ∧ ∀ c ∈ u, isBlank c = false :=
    fun u hu => Text.mem_units hu
  have spaceless : ∀ u ∈ folded.units, ' ' ∉ u := by
    intro u hu space
    cases (visible u hu).2 ' ' space
  refine ⟨folded.units.map fun u => (u, Token.ofUnit u), fun vs => Text.lexed_iff, ?_,
    Text.isBlank_of_head?_unwords visible, Text.isBlank_of_getLast?_unwords visible, ?_, ?_, ?_⟩
  · rw [Text.map_fst_units]
  · rw [Text.filter_unwords spaceless, Text.flatten_units]
  · rw [Text.lexed_iff, Text.units_unwords_units]
  · rw [Text.scan_unwords, Text.tokens, List.map_map]
    rfl

/-- Folded signs, a word in front of digits, a character of no kind and more than one sort of white
space. -/
theorem ofText?_lexed_mixed :
    let line : Text := " 12ab\t--é- 07".toList
    let text : Text := "12 ab + é - 07".toList
    ofText? line = some (.spaced text) ∧
      Lexed text [("12".toList, .number 12), ("ab".toList, .name "ab".toList), (['+'], .op .plus),
        (['é'], .unknown ['é']), (['-'], .op .minus), ("07".toList, .number 7)] := by
  intro line text
  have spaced : ofText? line = some (.spaced text) := by decide
  obtain ⟨us, -, -, -, -, -, cut, -⟩ := ofText?_lexed spaced
  refine ⟨spaced, ?_⟩
  have units : us = text.units.map fun u => (u, Token.ofUnit u) := Text.lexed_iff.1 cut
  rw [units] at cut
  exact cut

end Normalised

end Abacus
