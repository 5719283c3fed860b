import Abacus.Proofs.Lexing
import Abacus.Proofs.Writing

/-!
# Normal forms as lines

The normal form of a line is a line again, and what is shown as such can be typed in. It is its own
normal form, and it gets the answer of the line that it came from. For the second it has to be
taken in the same way as that line: no longer as a name, a command or an assignment, or still as
one.

- **How a line is taken** (`Text.isExpression_iff`) can be told from its tokens, although it is
  decided from the characters of the trimmed line.
- **Folding** (`Text.isExpression_foldSigns`) does not change it.
- **Spaced text** (`Text.IsPiece`): what can be put between spaces to be read on its own.
- **Fixed point** (`Normalised.ofText?_of_spaced`, `Store.evaluate_normalised`): a normal form has
  itself as its normal form, and the report of the line.
-/

namespace Abacus

/-! ### How a line is taken -/

/-- Whether a line is taken for an expression: it is not blank, no assignment, no bare name and no
command, and its brackets are balanced. -/
structure Text.IsExpression (line : Text) : Prop where
  visible : line.trim ≠ []
  plain : '=' ∉ line.trim
  composed : line.trim.isName = false
  slashless : line.trim.head? ≠ some '/'
  balanced : line.trim.bracketsBalanced = true

/-- Whether tokens are those of a line that is taken for an expression. -/
structure Token.IsExpression (ts : List Token) : Prop where
  visible : ts ≠ []
  plain : .unknown ['='] ∉ ts
  composed : ∀ name, ts ≠ [.name name]
  slashless : ts.head? ≠ some (.op .over)
  balanced : Bracket.balanced (brackets ts) = true

namespace Text

/-- A trimmed text starts as the first of its units does. -/
theorem head?_trim_eq_head?_units (s : Text) : s.trim.head? = s.units.flatten.head? := by
  rw [head?_trim, flatten_units, List.head?_filter]

theorem trim_eq_nil_iff (s : Text) : s.trim = [] ↔ s.tokens = [] := by
  constructor
  · intro blank
    rw [← tokens_trim, blank]
    rfl
  · intro none
    have units : s.units = [] := List.map_eq_nil_iff.1 none
    have first := head?_trim_eq_head?_units s
    rw [units] at first
    exact List.head?_eq_none_iff.1 first

theorem mem_equals_iff (s : Text) : '=' ∈ s ↔ .unknown ['='] ∈ s.tokens := by
  constructor
  · intro h
    obtain ⟨a, b, rfl⟩ := List.append_of_mem h
    rw [tokens_append_lone rfl rfl]
    exact List.mem_append_right _ (List.mem_cons_self ..)
  · intro h
    obtain ⟨u, hu, read⟩ := List.mem_map.1 h
    have spec := Token.ofUnit_spec (mem_units hu).1
    rw [read] at spec
    have inside : '=' ∈ s.units.flatten := List.mem_flatten.2 ⟨u, hu, spec ▸ List.mem_cons_self ..⟩
    rw [flatten_units] at inside
    exact (List.mem_filter.1 inside).1

/-- A line is a bare name when a name is its only token, for it is trimmed. -/
theorem isName_trim_iff (s : Text) : s.trim.isName = true ↔ ∃ name, s.tokens = [.name name] := by
  constructor
  · intro letters
    exact ⟨s.trim, (tokens_trim s).symm.trans (Store.of_isName letters).2.1⟩
  · rintro ⟨name, single⟩
    obtain ⟨us, tail, text, units⟩ := exists_written s
    obtain ⟨u, unit, read⟩ := List.map_eq_singleton_iff.1 single
    have spec := Token.ofUnit_spec (mem_units (unit ▸ List.mem_singleton_self u)).1
    rw [read] at spec
    obtain ⟨p, rfl, hp⟩ := List.map_eq_singleton_iff.1 (units.trans unit)
    have visible : ∀ c ∈ u, isBlank c = false :=
      (mem_units (s := s) (unit ▸ List.mem_singleton_self u)).2
    have trimmed : s.trim = u := by
      rw [text, written_cons, hp, show written id [] = [] from rfl, List.append_nil]
      exact trim_between p.1.blank tail.blank visible
    rw [trimmed, isName_iff]
    exact spec.1

/-- A unit that starts with a slash is a slash. -/
theorem Undivided.eq_slash {r : Text} (h : Undivided ('/' :: r)) : r = [] := by
  rcases h with ⟨-, digits⟩ | ⟨-, letters⟩ | ⟨c, single, -⟩
  · cases digits '/' (List.mem_cons_self ..)
  · cases letters '/' (List.mem_cons_self ..)
  · exact (List.cons.inj single).2

theorem head?_trim_eq_slash_iff (s : Text) :
    s.trim.head? = some '/' ↔ s.tokens.head? = some (.op .over) := by
  rw [head?_trim_eq_head?_units, tokens]
  cases hus : s.units with
  | nil => simp
  | cons u us =>
    have unit : u ∈ s.units := hus ▸ List.mem_cons_self ..
    obtain ⟨c, r, rfl⟩ := List.exists_cons_of_ne_nil (mem_units unit).1
    constructor
    · intro first
      obtain rfl : c = '/' := Option.some.inj first
      obtain rfl := (undivided_of_mem_units unit).eq_slash
      rfl
    · intro read
      have spec := Token.ofUnit_spec (List.cons_ne_nil c r)
      rw [Option.some.inj read] at spec
      rw [spec]
      rfl

/-- **How a line is taken** can be told from its tokens. -/
theorem isExpression_iff (line : Text) : line.IsExpression ↔ Token.IsExpression line.tokens := by
  have visible := (trim_eq_nil_iff line).not
  have plain := (mem_equals_iff line).not
  rw [← mem_trim_iff (s := line) rfl] at plain
  have composed := (isName_trim_iff line).not
  rw [Bool.not_eq_true, not_exists] at composed
  have slashless := (head?_trim_eq_slash_iff line).not
  have balanced : line.trim.bracketsBalanced = Bracket.balanced (Token.brackets line.tokens) := by
    rw [bracketsBalanced, brackets_tokens, tokens_trim]
  constructor
  · intro h
    exact ⟨visible.1 h.visible, plain.1 h.plain, composed.1 h.composed, slashless.1 h.slashless,
      balanced ▸ h.balanced⟩
  · intro h
    exact ⟨visible.2 h.visible, plain.2 h.plain, composed.2 h.composed, slashless.2 h.slashless,
      balanced.trans h.balanced⟩

end Text

/-! ### Folding -/

namespace Token

/-- Merging signs neither takes away the last token nor brings one in where there is none. -/
theorem Merges.eq_nil_iff {ts us : List Token} (h : Merges ts us) : ts = [] ↔ us = [] := by
  cases h <;> simp

theorem Merges.mem_unknown_iff {ts us : List Token} (h : Merges ts us) (s : Text) :
    .unknown s ∈ ts ↔ .unknown s ∈ us := by
  induction h with
  | nil => rfl
  | keep t _ ih => rw [List.mem_cons, List.mem_cons, ih]
  | sign _ _ _ _ ih => simpa using ih

theorem Merges.eq_name_iff {ts us : List Token} (h : Merges ts us) (name : Text) :
    ts = [.name name] ↔ us = [.name name] := by
  cases h with
  | nil => rfl
  | keep t rest => rw [List.cons_eq_cons, List.cons_eq_cons, rest.eq_nil_iff]
  | sign _ _ _ _ => simp

theorem Merges.head?_eq_over_iff {ts us : List Token} (h : Merges ts us) :
    ts.head? = some (.op .over) ↔ us.head? = some (.op .over) := by
  cases h with
  | nil => rfl
  | keep t _ => rfl
  | @sign o p q _ _ ho _ hq _ =>
    constructor
    · rintro ⟨⟩
      cases ho
    · rintro ⟨⟩
      cases hq

theorem Merges.isExpression_iff {ts us : List Token} (h : Merges ts us) :
    IsExpression ts ↔ IsExpression us := by
  have balanced : Bracket.balanced (Token.brackets ts) = Bracket.balanced (Token.brackets us) := by
    rw [h.brackets]
  constructor
  · intro e
    exact ⟨h.eq_nil_iff.not.1 e.visible, (h.mem_unknown_iff _).not.1 e.plain,
      fun name => (h.eq_name_iff name).not.1 (e.composed name),
      h.head?_eq_over_iff.not.1 e.slashless, balanced.symm.trans e.balanced⟩
  · intro e
    exact ⟨h.eq_nil_iff.not.2 e.visible, (h.mem_unknown_iff _).not.2 e.plain,
      fun name => (h.eq_name_iff name).not.2 (e.composed name),
      h.head?_eq_over_iff.not.2 e.slashless, balanced.trans e.balanced⟩

end Token

/-- Folding the signs of a line leaves it what it is taken for. -/
theorem Text.isExpression_foldSigns (s : Text) :
    Token.IsExpression s.foldSigns.tokens ↔ Token.IsExpression s.tokens :=
  iff_of_eq <| eq_foldSigns (f := Token.IsExpression)
    (fun _ _ h => propext h.isExpression_iff) s

/-! ### Spaced text -/

namespace Text

theorem trim_eq_self {s : Text} (front : ∀ c ∈ s.head?, isBlank c = false)
    (behind : ∀ c ∈ s.getLast?, isBlank c = false) : s.trim = s := by
  have start : s.trimStart = s := by
    cases s with
    | nil => rfl
    | cons c s => exact List.dropWhile_cons_of_neg (by simp [front c rfl])
  rw [trim, start, trimEnd]
  cases hs : s.reverse with
  | nil => rw [List.reverse_eq_nil_iff.1 hs]; rfl
  | cons c r =>
    have last : s.getLast? = some c := by
      rw [List.getLast?_eq_head?_reverse, hs]
      rfl
    rw [List.dropWhile_cons_of_neg (by simp [behind c last]), ← hs, List.reverse_reverse]

/-- Whether a text can be put between spaces to be read on its own: it is visible, and there is
nothing in it to fold or to be refused. -/
structure IsPiece (s : Text) : Prop where
  visible : s ≠ [] ∧ ∀ c ∈ s, isBlank c = false
  folded : s.foldSigns = s
  apart : s.glued = false

theorem Undivided.isPiece {u : Text} (h : u.Undivided) : u.IsPiece where
  visible := by
    rcases h with digits | letters | ⟨c, rfl, visible⟩
    · exact ⟨digits.1, digits.visible isAlphanum_of_isDigit⟩
    · exact ⟨letters.1, letters.visible isAlphanum_of_isAlpha⟩
    · exact ⟨List.cons_ne_nil c [], List.forall_mem_singleton.2 visible⟩
  folded := h.foldSigns_eq
  apart := h.glued_eq

theorem isPiece_of_mem_units {s u : Text} (h : u ∈ s.units) : u.IsPiece :=
  (undivided_of_mem_units h).isPiece

theorem trim_unwords {us : List Text} (h : ∀ u ∈ us, u.IsPiece) : (unwords us).trim = unwords us :=
  trim_eq_self (isBlank_of_head?_unwords fun u hu => (h u hu).visible)
    (isBlank_of_getLast?_unwords fun u hu => (h u hu).visible)

end Text

/-! ### Fixed point -/

namespace Normalised

theorem ofText?_unwords {us : List Text} (h : ∀ u ∈ us, u.IsPiece) :
    ofText? (Text.unwords us) = some (ofUnits (Text.unwords us).units) := by
  rw [ofText?, Text.foldSigns_unwords fun u hu => (h u hu).folded,
    Text.glued_unwords fun u hu => (h u hu).apart]
  rfl

/-- A normal form is its own normal form. -/
theorem ofText?_of_spaced {s text : Text} (h : ofText? s = some (.spaced text)) :
    ofText? text = some (.spaced text) := by
  obtain ⟨-, lone, rfl⟩ := ofText?_eq_spaced_iff.1 h
  rw [ofText?_unwords fun _ => Text.isPiece_of_mem_units, Text.units_unwords_units, ofUnits, lone]

end Normalised

namespace Store

variable (store : Store) (limits : Limits)

theorem evaluate_of_isExpression {line : Text} (h : line.IsExpression) :
    store.evaluate limits line
      = ⟨(store.evaluateExpression limits line.trim).map fun a => ⟨some a.1, a.2⟩, store⟩ :=
  (if_neg h.visible).trans <| (if_neg h.plain).trans <|
    (if_neg (Bool.eq_false_iff.1 h.composed)).trans <| (if_neg h.slashless).trans <|
      if_pos h.balanced

/-- **Fixed point**: the normal form of a text is its own normal form; and where a line is taken for
an expression and not for a lone number, its normal form has the report of the line: the same events
and the same value with the same derivation, or the same refusal. -/
theorem evaluate_normalised :
    (∀ s text : Text, Normalised.ofText? s = some (.spaced text) →
      Normalised.ofText? text = some (.spaced text)) ∧
    ∀ line text : Text, line.IsExpression → Normalised.ofText? line.trim = some (.spaced text) →
      store.evaluate limits text = store.evaluate limits line := by
  refine ⟨fun s text => Normalised.ofText?_of_spaced, fun line text expression normal => ?_⟩
  have again := Normalised.ofText?_of_spaced normal
  obtain ⟨-, -, spaced⟩ := Normalised.ofText?_eq_spaced_iff.1 normal
  have trimmed : text.trim = text := spaced ▸ Text.trim_unwords fun _ => Text.isPiece_of_mem_units
  have expression' : text.IsExpression := by
    have tokens : text.tokens = line.trim.foldSigns.tokens := by
      rw [Text.tokens, Text.tokens, spaced, Text.units_unwords_units]
    rw [Text.isExpression_iff, tokens, Text.isExpression_foldSigns, Text.tokens_trim,
      ← Text.isExpression_iff]
    exact expression
  rw [store.evaluate_of_isExpression limits expression',
    store.evaluate_of_isExpression limits expression, trimmed, evaluateExpression, again,
    evaluateExpression, normal]

/-- A run of signs in front of a negative variable, which is folded in the line and in its normal
form is a sign on its own. -/
theorem evaluate_normalised_folded :
    let store := empty.bind "x".toList (-2)
    let line : Text := " 7--x*\t(1+ 1)".toList
    let text : Text := "7 + x * ( 1 + 1 )".toList
    line.IsExpression ∧ Normalised.ofText? line.trim = some (.spaced text) ∧
      Normalised.ofText? text = some (.spaced text) ∧
      store.evaluate .standard text = store.evaluate .standard line ∧
      store.result .standard text = .ok (some 3) := by
  intro store line text
  have expression : line.IsExpression :=
    ⟨by decide, by decide, by decide, by decide, by decide⟩
  have normal : Normalised.ofText? line.trim = some (.spaced text) := by decide
  obtain ⟨fixed, report⟩ := store.evaluate_normalised .standard
  exact ⟨expression, normal, fixed line.trim text normal, report line text expression normal,
    by decide⟩

end Store

end Abacus
