import Abacus.Assignment
import Abacus.Normalised
import Abacus.Token

/-!
# Units of a text

What the cut of a text into lexical units loses and keeps, and how a unit is read as a token.

- `units_append`: the one equation of `Text.units`, from which the others follow.
- `units_blank_append`, `units_symbol_cons`, `units_word_append`: the units of a text whose first
  unit is known.
- `mem_units`, `mem_pieces`: a unit is never empty and holds no white space, and no more does a
  piece between white space, so that `pieces_unwords` gives back the units that a normal form is
  made of, and `scan_unwords` their tokens.
- `Text.Consists`: texts of characters of one class, names (`isName_iff`) and numerals
  (`Decimal.isNumeral_iff`) among them.
- `ofUnit_spec`: the unit behind each kind of token. `ofUnit_symbol`, `ofUnit_numeral` and
  `ofUnit_name` read it the other way.
-/

namespace Abacus

/-! ### Classes of characters -/

theorem isAlphanum_of_isDigit {c : Char} (h : c.isDigit = true) : c.isAlphanum = true := by
  simp [Char.isAlphanum, h]

theorem isAlphanum_of_isAlpha {c : Char} (h : c.isAlpha = true) : c.isAlphanum = true := by
  simp [Char.isAlphanum, h]

/-- A letter is no digit. -/
theorem isDigit_of_isAlpha {c : Char} (h : c.isAlpha = true) : c.isDigit = false := by
  delta Char.isAlpha Char.isUpper Char.isLower at h
  simp only [Bool.or_eq_true, Bool.and_eq_true, decide_eq_true_eq, UInt32.le_iff_toNat_le,
    ge_iff_le] at h
  have hA : 'A'.val.toNat = 65 := rfl
  have ha : 'a'.val.toNat = 97 := rfl
  have h9 : '9'.val.toNat = 57 := rfl
  simp only [Char.isDigit, Bool.and_eq_false_iff, decide_eq_false_iff_not,
    UInt32.le_iff_toNat_le, ge_iff_le]
  omega

/-- White space is neither letter nor digit. -/
theorem isBlank_of_isAlphanum {c : Char} (h : c.isAlphanum = true) : isBlank c = false := by
  delta Char.isAlphanum Char.isAlpha Char.isUpper Char.isLower Char.isDigit at h
  simp only [Bool.or_eq_true, Bool.and_eq_true, decide_eq_true_eq, UInt32.le_iff_toNat_le,
    ge_iff_le] at h
  have toNat : c.toNat = c.val.toNat := rfl
  have hA : 'A'.val.toNat = 65 := rfl
  have hZ : 'Z'.val.toNat = 90 := rfl
  have ha : 'a'.val.toNat = 97 := rfl
  have hz : 'z'.val.toNat = 122 := rfl
  have h0 : '0'.val.toNat = 48 := rfl
  have h9 : '9'.val.toNat = 57 := rfl
  simp only [isBlank, blankRanges, List.any_cons, List.any_nil, Bool.or_false,
    Bool.or_eq_false_iff, Bool.and_eq_false_iff, decide_eq_false_iff_not]
  omega

/-! ### Texts of one class -/

namespace Text

/-- Whether a text is one or more characters of a class. -/
def Consists (p : Char → Bool) (s : Text) : Prop :=
  s ≠ [] ∧ ∀ c ∈ s, p c = true

theorem consists_iff {p : Char → Bool} {s : Text} :
    (!s.isEmpty && s.all p) = true ↔ s.Consists p := by
  simp [Consists]

instance (p : Char → Bool) (s : Text) : Decidable (s.Consists p) :=
  decidable_of_iff _ consists_iff

theorem isName_iff {s : Text} : s.isName = true ↔ s.Consists Char.isAlpha :=
  consists_iff

theorem Consists.visible {p : Char → Bool} {s : Text} (h : s.Consists p)
    (alphanum : ∀ {c : Char}, p c = true → c.isAlphanum = true) :
    ∀ c ∈ s, isBlank c = false :=
  fun c hc => isBlank_of_isAlphanum (alphanum (h.2 c hc))

/-- A character that is outside of a class is in no text of the class. -/
theorem Consists.not_mem {p : Char → Bool} {s : Text} (h : s.Consists p) {c : Char}
    (outside : p c = false) : c ∉ s := by
  intro inside
  rw [h.2 c inside] at outside
  cases outside

end Text

theorem Decimal.isNumeral_iff {s : Text} : isNumeral s = true ↔ s.Consists Char.isDigit :=
  Text.consists_iff

/-! ### Neighbours -/

namespace Text

theorem sameUnit_of_left {c : Char} (h : c.isAlphanum = false) (d : Char) :
    sameUnit c d = false := by
  simp only [Char.isAlphanum, Bool.or_eq_false_iff] at h
  simp [sameUnit, h]

theorem sameUnit_of_right (c : Char) {d : Char} (h : d.isAlphanum = false) :
    sameUnit c d = false := by
  simp only [Char.isAlphanum, Bool.or_eq_false_iff] at h
  simp [sameUnit, h]

/-- White space joins no unit. -/
theorem isAlphanum_of_isBlank {c : Char} (h : isBlank c = true) : c.isAlphanum = false := by
  refine Bool.eq_false_iff.2 fun hc => ?_
  rw [isBlank_of_isAlphanum hc] at h
  cases h

/-! ### Runs -/

/-- A text all of whose characters stick together is one run. -/
theorem runs_eq_singleton {sticks : Char → Char → Bool} :
    ∀ {s : Text}, s ≠ [] → (∀ c ∈ s, ∀ d ∈ s, sticks c d = true) → runs sticks s = [s]
  | [c], _, _ => rfl
  | c :: d :: s, _, h => by
    have rest : runs sticks (d :: s) = [d :: s] :=
      runs_eq_singleton (List.cons_ne_nil d s) fun a ha b hb =>
        h a (List.mem_cons_of_mem c ha) b (List.mem_cons_of_mem c hb)
    rw [runs_cons rest, if_pos (h c (by simp) d (by simp))]

/-- A run of two or more characters consists of characters that stick to another one. -/
theorem forall_mem_run {sticks : Char → Char → Bool} {p : Char → Prop}
    (left : ∀ c d, sticks c d = true → p c) (right : ∀ c d, sticks c d = true → p d) :
    ∀ {s q : Text}, q ∈ runs sticks s → (∃ c, q = [c]) ∨ ∀ c ∈ q, p c
  | [], q, hq => by simp [runs] at hq
  | [c], q, hq => .inl ⟨c, by simpa [runs] using hq⟩
  | c :: d :: s, q, hq => by
    obtain ⟨r, rs, hr⟩ := exists_runs_cons sticks d s
    rw [runs_cons hr] at hq
    have ih : ∀ q ∈ runs sticks (d :: s), (∃ c, q = [c]) ∨ ∀ c ∈ q, p c :=
      fun q hq => forall_mem_run left right hq
    rw [hr] at ih
    split at hq
    · next hcd =>
      -- the first run is the one that the first character has joined
      rcases List.mem_cons.1 hq with rfl | hq
      · refine .inr (List.forall_mem_cons.2 ⟨left c d hcd, ?_⟩)
        rcases ih (d :: r) (List.mem_cons_self ..) with ⟨e, he⟩ | all
        · obtain ⟨rfl, rfl⟩ := List.cons.inj he
          exact List.forall_mem_singleton.2 (right c d hcd)
        · exact all
      · exact ih q (List.mem_cons_of_mem _ hq)
    · rcases List.mem_cons.1 hq with rfl | hq
      · exact .inl ⟨c, rfl⟩
      · exact ih q hq

/-! ### Units -/

/-- Two texts that share no unit have the units of both. -/
theorem units_append {s t : Text}
    (h : ∀ c ∈ s.getLast?, ∀ d ∈ t.head?, sameUnit c d = false) :
    units (s ++ t) = units s ++ units t := by
  rw [units, runs_append h, List.filter_append]
  rfl

/-- White space has no units. -/
theorem units_of_blank {s : Text} (h : s.all isBlank = true) : units s = [] := by
  refine List.filter_eq_nil_iff.2 fun q hq => ?_
  have blank : q.all isBlank = true := by
    rw [List.all_eq_true] at h ⊢
    intro c hc
    refine h c ?_
    rw [← flatten_runs sameUnit s]
    exact List.mem_flatten.2 ⟨q, hq, hc⟩
  simp [blank]

/-- White space in front of a text leaves its units. -/
theorem units_blank_append {g : Text} (h : g.all isBlank = true) (t : Text) :
    units (g ++ t) = units t := by
  rw [units_append, units_of_blank h, List.nil_append]
  intro c hc d _
  exact sameUnit_of_left
    (isAlphanum_of_isBlank (List.all_eq_true.1 h c (List.mem_of_getLast? hc))) d

/-- White space behind a text leaves its units. -/
theorem units_append_blank {g : Text} (h : g.all isBlank = true) (t : Text) :
    units (t ++ g) = units t := by
  rw [units_append, units_of_blank h, List.append_nil]
  intro c _ d hd
  exact sameUnit_of_right c
    (isAlphanum_of_isBlank (List.all_eq_true.1 h d (List.mem_of_head? hd)))

/-- A symbol is a unit of its own. -/
theorem units_symbol_cons {c : Char} (alphanum : c.isAlphanum = false) (blank : isBlank c = false)
    (t : Text) : units (c :: t) = [c] :: units t := by
  have single : units [c] = [[c]] := by simp [units, runs, blank]
  rw [← List.singleton_append, units_append, single]
  · rfl
  · rintro c' hc' d -
    obtain rfl : c = c' := by simpa using hc'
    exact sameUnit_of_left alphanum d

/-- A run of letters or of digits is a unit when no letter or digit comes after it. -/
theorem units_word_append {w t : Text} (ne : w ≠ [])
    (h : w.all Char.isDigit = true ∨ w.all Char.isAlpha = true)
    (ht : ∀ d ∈ t.head?, d.isAlphanum = false) : units (w ++ t) = w :: units t := by
  have one : runs sameUnit w = [w] := by
    refine runs_eq_singleton ne fun c hc d hd => ?_
    rcases h with h | h <;> simp [sameUnit, List.all_eq_true.1 h c hc, List.all_eq_true.1 h d hd]
  have alphanum : ∀ c ∈ w, c.isAlphanum = true := fun c hc => h.elim
    (fun h => isAlphanum_of_isDigit (List.all_eq_true.1 h c hc))
    (fun h => isAlphanum_of_isAlpha (List.all_eq_true.1 h c hc))
  have visible : w.all isBlank = false := by
    obtain ⟨c, w, rfl⟩ := List.exists_cons_of_ne_nil ne
    simp [isBlank_of_isAlphanum (alphanum c (by simp))]
  rw [units_append fun c _ d hd => sameUnit_of_right c (ht d hd)]
  simp [units, one, visible]

/-- A run of letters or of digits is one unit. -/
theorem units_word {w : Text} (ne : w ≠ [])
    (h : w.all Char.isDigit = true ∨ w.all Char.isAlpha = true) : units w = [w] := by
  have one := units_word_append (t := []) ne h (by simp)
  rwa [List.append_nil] at one

/-- Where white space sticks to nothing, a run with something to show holds none. -/
theorem visible_of_mem_runs {sticks : Char → Char → Bool}
    (apart : ∀ c d, sticks c d = true → isBlank c = false ∧ isBlank d = false) {s u : Text}
    (run : u ∈ runs sticks s) (shown : u.all isBlank = false) :
    u ≠ [] ∧ ∀ c ∈ u, isBlank c = false := by
  refine ⟨ne_nil_of_mem_runs run, ?_⟩
  rcases forall_mem_run (fun c d h => (apart c d h).1) (fun c d h => (apart c d h).2) run with
    ⟨c, rfl⟩ | all
  · simpa using shown
  · exact all

/-- A unit is not empty and holds no white space. -/
theorem mem_units {s u : Text} (h : u ∈ units s) : u ≠ [] ∧ ∀ c ∈ u, isBlank c = false := by
  obtain ⟨run, shown⟩ := List.mem_filter.1 h
  refine visible_of_mem_runs (fun c d hcd => ?_) run (by simpa using shown)
  simp only [sameUnit, Bool.or_eq_true, Bool.and_eq_true] at hcd
  rcases hcd with ⟨hc, hd⟩ | ⟨hc, hd⟩
  · exact ⟨isBlank_of_isAlphanum (isAlphanum_of_isAlpha hc),
      isBlank_of_isAlphanum (isAlphanum_of_isAlpha hd)⟩
  · exact ⟨isBlank_of_isAlphanum (isAlphanum_of_isDigit hc),
      isBlank_of_isAlphanum (isAlphanum_of_isDigit hd)⟩

/-- Nor does a piece. -/
theorem mem_pieces {s u : Text} (h : u ∈ pieces s) : u ≠ [] ∧ ∀ c ∈ u, isBlank c = false := by
  obtain ⟨run, shown⟩ := List.mem_filter.1 h
  exact visible_of_mem_runs (fun c d hcd => by simpa using hcd) run (by simpa using shown)

/-! ### Spaced units -/

theorem unwords_singleton (u : Text) : unwords [u] = u := by
  simp [unwords, List.intercalate]

theorem unwords_cons_cons (u v : Text) (us : List Text) :
    unwords (u :: v :: us) = u ++ ' ' :: unwords (v :: us) := by
  simp [unwords, List.intercalate, List.intersperse]

/-- Words between which a space is put are the pieces of the result. -/
theorem pieces_unwords : ∀ {us : List Text}, (∀ u ∈ us, u ≠ [] ∧ ∀ c ∈ u, isBlank c = false) →
    pieces (unwords us) = us
  | [], _ => rfl
  | u :: us, h => by
    obtain ⟨ne, visible⟩ := h u (List.mem_cons_self ..)
    have one : runs (fun c d => !isBlank c && !isBlank d) u = [u] :=
      runs_eq_singleton ne fun c hc d hd => by simp [visible c hc, visible d hd]
    have shown : u.all isBlank = false := by
      obtain ⟨c, u, rfl⟩ := List.exists_cons_of_ne_nil ne
      simp [visible c (by simp)]
    cases us with
    | nil => simp [pieces, unwords_singleton, one, shown]
    | cons v us =>
      have rest : pieces (unwords (v :: us)) = v :: us :=
        pieces_unwords fun w hw => h w (List.mem_cons_of_mem u hw)
      have split : unwords (u :: v :: us) = u ++ ([' '] ++ unwords (v :: us)) :=
        unwords_cons_cons u v us
      have space : runs (fun c d => !isBlank c && !isBlank d) ([' '] ++ unwords (v :: us))
          = [[' ']] ++ runs (fun c d => !isBlank c && !isBlank d) (unwords (v :: us)) :=
        runs_append fun c hc d _ => by
          obtain rfl : ' ' = c := by simpa using hc
          rfl
      rw [split, pieces, runs_append, one, space, List.filter_append, List.filter_append,
        ← pieces, rest]
      · simp [shown, isBlank, blankRanges]
      · rintro c - d hd
        obtain rfl : ' ' = d := by simpa using hd
        exact Bool.and_false _

/-- The tokens of a text, one for each unit. -/
def tokens (s : Text) : List Token :=
  s.units.map Token.ofUnit

/-- The tokens of a normal form are those of the units that it is made of. -/
theorem scan_unwords (s : Text) : Token.scan (unwords s.units) = s.tokens := by
  rw [Token.scan, pieces_unwords fun u hu => mem_units hu]
  rfl

end Text

/-! ### Reading a unit -/

namespace Token

theorem ofSymbol?_symbol (o : Operator) : ofSymbol? o.symbol = some (.op o) := by
  cases o <;> rfl

/-- A symbol is an operator or a bracket. -/
theorem eq_of_ofSymbol? {c : Char} {t : Token} (h : ofSymbol? c = some t) :
    (c = '(' ∧ t = .opening) ∨ (c = ')' ∧ t = .closing) ∨
      ∃ o : Operator, c = o.symbol ∧ t = .op o := by
  unfold ofSymbol? at h
  split at h
  · exact .inl ⟨rfl, (Option.some.inj h).symm⟩
  · exact .inr (.inl ⟨rfl, (Option.some.inj h).symm⟩)
  · obtain ⟨o, ho, rfl⟩ := Option.map_eq_some_iff.1 h
    exact .inr (.inr ⟨o, Operator.ofChar?_eq_some_iff.1 ho, rfl⟩)

/-- A letter or a digit is no symbol. -/
theorem ofSymbol?_eq_none {c : Char} (h : c.isAlphanum = true) : ofSymbol? c = none := by
  cases ht : ofSymbol? c with
  | none => rfl
  | some t =>
    rcases eq_of_ofSymbol? ht with ⟨rfl, -⟩ | ⟨rfl, -⟩ | ⟨o, rfl, -⟩
    · cases h
    · cases h
    · cases o <;> cases h

/-- A unit is a symbol or a word. -/
theorem ofUnit_cases (u : Text) :
    (∃ c t, u = [c] ∧ ofSymbol? c = some t ∧ ofUnit u = t) ∨
      (∀ c, u = [c] → ofSymbol? c = none) ∧ ofUnit u = ofWord u := by
  match u with
  | [] => exact .inr ⟨nofun, rfl⟩
  | [c] =>
    cases h : ofSymbol? c with
    | none => exact .inr ⟨fun d hd => (List.cons.inj hd).1 ▸ h, by simp [ofUnit, h]⟩
    | some t => exact .inl ⟨c, t, rfl, h, by simp [ofUnit, h]⟩
  | c :: d :: u => exact .inr ⟨nofun, rfl⟩

/-- A word is a numeral, a name, or neither. -/
theorem ofWord_cases (u : Text) :
    (u.all Char.isDigit = true ∧ ofWord u = .number (Decimal.value u)) ∨
      (u.all Char.isAlpha = true ∧ ofWord u = .name u) ∨
      ¬ u.all Char.isDigit = true ∧ ¬ u.all Char.isAlpha = true ∧ ofWord u = .unknown u := by
  unfold ofWord
  split
  · exact .inl ⟨‹_›, rfl⟩
  · split
    · exact .inr (.inl ⟨‹_›, rfl⟩)
    · exact .inr (.inr ⟨‹_›, ‹_›, rfl⟩)

/-- What a unit is, from the token that it is read as. -/
theorem ofUnit_spec {u : Text} (ne : u ≠ []) :
    match ofUnit u with
    | .number n => u.Consists Char.isDigit ∧ n = Decimal.value u
    | .name s => u.Consists Char.isAlpha ∧ s = u
    | .op o => u = [o.symbol]
    | .opening => u = ['(']
    | .closing => u = [')']
    | .unknown s => s = u := by
  rcases ofUnit_cases u with ⟨c, t, rfl, hc, ht⟩ | ⟨-, hu⟩
  · rw [ht]
    rcases eq_of_ofSymbol? hc with ⟨rfl, rfl⟩ | ⟨rfl, rfl⟩ | ⟨o, rfl, rfl⟩
    · rfl
    · rfl
    · rfl
  · rw [hu]
    rcases ofWord_cases u with ⟨digits, hw⟩ | ⟨letters, hw⟩ | ⟨-, -, hw⟩
    · rw [hw]
      exact ⟨⟨ne, List.all_eq_true.1 digits⟩, rfl⟩
    · rw [hw]
      exact ⟨⟨ne, List.all_eq_true.1 letters⟩, rfl⟩
    · rw [hw]

theorem ofUnit_symbol (o : Operator) : ofUnit [o.symbol] = .op o := by
  cases o <;> rfl

/-- A unit of letters and digits is read as a word. -/
theorem ofUnit_eq_ofWord {u : Text} (h : ∀ c ∈ u, c.isAlphanum = true) : ofUnit u = ofWord u := by
  rcases ofUnit_cases u with ⟨c, t, rfl, hc, -⟩ | ⟨-, hu⟩
  · rw [ofSymbol?_eq_none (h c (by simp))] at hc
    cases hc
  · exact hu

/-- A numeral is read as its value. -/
theorem ofUnit_numeral {u : Text} (h : u.Consists Char.isDigit) :
    ofUnit u = .number (Decimal.value u) := by
  rw [ofUnit_eq_ofWord fun c hc => isAlphanum_of_isDigit (h.2 c hc), ofWord,
    if_pos (List.all_eq_true.2 h.2)]

/-- A name is read as itself. -/
theorem ofUnit_name {u : Text} (h : u.Consists Char.isAlpha) : ofUnit u = .name u := by
  have digits : ¬ u.all Char.isDigit = true := by
    obtain ⟨c, u, rfl⟩ := List.exists_cons_of_ne_nil h.1
    simp [isDigit_of_isAlpha (h.2 c (List.mem_cons_self ..))]
  rw [ofUnit_eq_ofWord fun c hc => isAlphanum_of_isAlpha (h.2 c hc), ofWord, if_neg digits,
    if_pos (List.all_eq_true.2 h.2)]

end Token

end Abacus
