import Abacus.Proofs.Commands
import Abacus.Proofs.Lexing
import Abacus.Proofs.Replacement

/-!
# Names without a value

A line is refused for a name without a value before anything else about its tokens is looked at, and
after its brackets have been counted and its characters been searched for glued operators. So
whether it is refused for a name, and for which one, can be told from its characters.

- **Names in a line** (`Text.LetterRun`): the names among the tokens are the longest runs of letters
  in the raw line, in the same order; folding the signs in between does not touch them.
- **The first of them without a value** (`Store.FirstUnbound`) is the one that the substitution
  stops at.
- **What comes first** (`Text.Orderly`): what is asked of a line before its names are looked up.
- **Priority** (`Store.outcome_unknownVariable`): which of two causes a line is refused for.
-/

namespace Abacus

namespace Text

/-! ### Names in a line -/

/-- Whether a text is a longest run of letters in another one, behind `front`. -/
structure LetterRun (s front name behind : Text) : Prop where
  text : s = front ++ (name ++ behind)
  letters : name.Consists Char.isAlpha
  start : ∀ c ∈ front.getLast?, c.isAlpha = false
  stop : ∀ c ∈ behind.head?, c.isAlpha = false

/-- A longest run of letters is a token of its own. -/
theorem LetterRun.tokens {s a n b : Text} (h : LetterRun s a n b) :
    s.tokens = a.tokens ++ .name n :: b.tokens := by
  obtain ⟨rfl, letters, start, stop⟩ := h
  have apart : ∀ c ∈ a.getLast?, ∀ d ∈ (n ++ b).head?, sameUnit c d = false := by
    intro c hc d hd
    rw [List.head?_append_of_ne_nil _ letters.1] at hd
    have letter := letters.2 d (List.mem_of_head? hd)
    simp [sameUnit, start c hc, isDigit_of_isAlpha letter]
  rw [Text.tokens, units_append apart, units_name_append letters stop, List.map_append,
    List.map_cons, Token.ofUnit_name letters]
  rfl

/-- What is put in front of a text leaves its runs of letters, unless it ends with a letter and a
run starts the text. -/
theorem LetterRun.append_left {s a n b : Text} (h : LetterRun s a n b) {w : Text}
    (apart : a = [] → ∀ c ∈ w.getLast?, c.isAlpha = false) : LetterRun (w ++ s) (w ++ a) n b where
  text := by rw [h.text, List.append_assoc]
  letters := h.letters
  start := by
    intro c hc
    rcases List.eq_nil_or_concat a with rfl | ⟨a, d, rfl⟩
    · rw [List.append_nil] at hc
      exact apart rfl c hc
    · rw [List.concat_eq_append, ← List.append_assoc, List.getLast?_concat] at hc
      refine h.start c ?_
      rwa [List.concat_eq_append, List.getLast?_concat]
  stop := h.stop

/-- A run at the start of a text starts it with a letter. -/
theorem LetterRun.exists_letter {s n b : Text} (h : LetterRun s [] n b) :
    ∃ c ∈ s.head?, c.isAlpha = true := by
  obtain ⟨c, r, hn⟩ := List.exists_cons_of_ne_nil h.letters.1
  refine ⟨c, ?_, h.letters.2 c (hn ▸ List.mem_cons_self ..)⟩
  rw [h.text, hn]
  rfl

/-- Every name among the units of a text is a longest run of letters in it. -/
theorem Lexed.exists_letterRun {s : Text} {us : List (Text × Token)} (h : Lexed s us) {n : Text}
    (name : .name n ∈ us.map Prod.snd) : ∃ a b, LetterRun s a n b := by
  -- a character that is no letter can be put in front of a text
  have shift {c : Char} {s : Text} (letter : c.isAlpha = false) :
      (∃ a b, LetterRun s a n b) → ∃ a b, LetterRun (c :: s) a n b := by
    rintro ⟨a, b, run⟩
    refine ⟨c :: a, b, run.append_left (w := [c]) fun _ d hd => ?_⟩
    obtain rfl : c = d := Option.some.inj hd
    exact letter
  induction h with
  | done => cases name
  | blank white _ ih =>
    exact shift (Bool.eq_false_iff.2 fun letter =>
      absurd (isBlank_of_isAlphanum (isAlphanum_of_isAlpha letter)) (by simp [white])) (ih name)
  | numeral digits _ _ ih =>
    obtain ⟨a, b, run⟩ := ih ((List.mem_cons.1 name).resolve_left nofun)
    exact ⟨_, b, run.append_left fun _ c hc =>
      isAlpha_of_isDigit (digits.2 c (List.mem_of_getLast? hc))⟩
  | @name w s us letters longest _ ih =>
    rcases List.mem_cons.1 name with here | later
    · obtain rfl : n = w := Token.name.inj here
      exact ⟨[], s, rfl, letters, nofun, longest⟩
    · obtain ⟨a, b, run⟩ := ih later
      refine ⟨_, b, run.append_left ?_⟩
      -- no name starts where another one has ended
      rintro rfl
      obtain ⟨c, hc, letter⟩ := run.exists_letter
      rw [longest c hc] at letter
      cases letter
  | symbol known _ ih =>
    have symbol := mem_symbols_iff.1 known
    refine shift (Bool.eq_false_iff.2 fun letter => ?_)
      (ih ((List.mem_cons.1 name).resolve_left ?_))
    · rw [Token.ofSymbol?_eq_none (isAlphanum_of_isAlpha letter)] at symbol
      cases symbol
    · rintro rfl
      rcases Token.eq_of_ofSymbol? symbol with ⟨-, same⟩ | ⟨-, same⟩ | ⟨o, -, same⟩ <;> cases same
  | other _ _ letter _ _ ih => exact shift letter (ih ((List.mem_cons.1 name).resolve_left nofun))

/-- **Names in a line**: they are its longest runs of letters. -/
theorem name_mem_tokens_iff {s n : Text} : .name n ∈ s.tokens ↔ ∃ a b, LetterRun s a n b := by
  constructor
  · intro name
    refine (lexed_units s).exists_letterRun ?_
    rw [List.map_map]
    exact name
  · rintro ⟨a, b, run⟩
    rw [run.tokens]
    exact List.mem_append_right _ (List.mem_cons_self ..)

/-- The runs of letters in front of a run are runs of the text, and end before it starts. -/
theorem LetterRun.append_right {s a n b a' m b' : Text} (h : LetterRun s a n b)
    (run : LetterRun a a' m b') :
    LetterRun s a' m (b' ++ (n ++ b)) ∧ a'.length < a.length := by
  obtain ⟨rfl, letters, start, stop⟩ := run
  refine ⟨⟨?_, letters, start, ?_⟩, ?_⟩
  · rw [h.text, List.append_assoc, List.append_assoc]
  · cases b' with
    | nil =>
      -- the two runs would be one
      exfalso
      have last : (a' ++ (m ++ [])).getLast? = some (m.getLast letters.1) := by
        rw [List.append_nil, List.getLast?_append, List.getLast?_eq_some_getLast letters.1]
        rfl
      have letter := letters.2 _ (List.getLast_mem letters.1)
      rw [h.start _ last] at letter
      cases letter
    | cons d b' => exact stop
  · have := List.length_pos_of_ne_nil letters.1
    simp only [List.length_append]
    omega

end Text

/-! ### The first name without a value -/

namespace Store

open Text (LetterRun)

variable (store : Store)

/-- Whether a text is the leftmost longest run of letters in a line that is no bound name. -/
def FirstUnbound (line name : Text) : Prop :=
  ∃ a b, LetterRun line a name b ∧ store.get? name = none ∧
    ∀ a' m b', LetterRun line a' m b' → a'.length < a.length → store.get? m ≠ none

theorem isUnbound_iff {t : Token} :
    store.isUnbound t = true ↔ ∃ n, t = .name n ∧ store.get? n = none := by
  cases t <;> simp [isUnbound]

/-- The substitution stops at the leftmost run of letters without a value. -/
theorem find?_of_firstUnbound {line name : Text} (h : store.FirstUnbound line name) :
    line.tokens.find? store.isUnbound = some (.name name) := by
  obtain ⟨a, b, run, unbound, first⟩ := h
  rw [run.tokens, List.find?_eq_some_iff_append]
  refine ⟨store.isUnbound_iff.2 ⟨name, rfl, unbound⟩, _, _, rfl, fun t ht => ?_⟩
  rw [Bool.not_eq_true', Bool.eq_false_iff]
  intro earlier
  obtain ⟨m, rfl, free⟩ := store.isUnbound_iff.1 earlier
  obtain ⟨a', b', before⟩ := Text.name_mem_tokens_iff.1 ht
  obtain ⟨inside, shorter⟩ := run.append_right before
  exact first a' m _ inside shorter free

/-- Of runs of letters without a value one is the leftmost. -/
theorem exists_firstUnbound {line : Text} :
    ∀ {a n b : Text}, LetterRun line a n b → store.get? n = none →
      ∃ name, store.FirstUnbound line name := by
  intro a
  -- from one of them to one further left, as long as there is any
  induction h : a.length using Nat.strongRecOn generalizing a with
  | ind k ih =>
    subst h
    intro n b run unbound
    by_cases first : ∀ a' m b', LetterRun line a' m b' → a'.length < a.length → store.get? m ≠ none
    · exact ⟨n, a, b, run, unbound, first⟩
    · push Not at first
      obtain ⟨a', m, b', earlier, shorter, free⟩ := first
      exact ih _ shorter rfl earlier free

theorem firstUnbound_iff {line name : Text} :
    store.FirstUnbound line name ↔ line.tokens.find? store.isUnbound = some (.name name) := by
  refine ⟨store.find?_of_firstUnbound, fun found => ?_⟩
  obtain ⟨n, same, unbound⟩ := store.isUnbound_iff.1 (List.find?_some found)
  obtain rfl := Token.name.inj same
  obtain ⟨a, b, run⟩ := Text.name_mem_tokens_iff.1 (List.mem_of_find?_eq_some found)
  obtain ⟨first, h⟩ := store.exists_firstUnbound run unbound
  have same := (store.find?_of_firstUnbound h).symm.trans found
  rw [← Token.name.inj (Option.some.inj same)]
  exact h

/-- Merging signs does not touch names. -/
theorem find?_isUnbound_of_merges {ts us : List Token} (h : Token.Merges ts us) :
    ts.find? store.isUnbound = us.find? store.isUnbound := by
  induction h with
  | nil => rfl
  | keep t _ ih => rw [List.find?_cons, List.find?_cons, ih]
  | sign _ _ _ _ ih => exact ih

theorem find?_isUnbound_foldSigns (line : Text) :
    line.foldSigns.tokens.find? store.isUnbound = line.tokens.find? store.isUnbound :=
  Text.eq_foldSigns (f := fun ts => ts.find? store.isUnbound)
    (fun _ _ h => store.find?_isUnbound_of_merges h) line

/-- Tokens are refused for the name that the substitution stops at. -/
theorem calculate_eq_unknownVariable_iff (limits : Limits) {ts : List Token} {name : Text} :
    store.calculate limits ts = .error (.unknownVariable name) ↔
      ts.find? store.isUnbound = some (.name name) := by
  rw [calculate_eq_outcome]
  cases found : ts.find? store.isUnbound with
  | some t =>
    obtain ⟨n, rfl, -⟩ := store.isUnbound_iff.1 (List.find?_some found)
    simp [Token.text]
  | none =>
    refine ⟨fun refused => ?_, nofun⟩
    -- no calculation ends with a name
    exact (Token.ofCalculation_of_outcome refused).elim

end Store

/-! ### What comes first -/

/-- Whether a line is fit to have its names looked up: its round brackets match, and no two of the
operators `*`, `/` and `^` touch. -/
structure Text.Orderly (s : Text) : Prop where
  opened : ∀ p, p <+: s → p.count ')' ≤ p.count '('
  closed : s.count '(' = s.count ')'
  apart : ∀ c ∈ ['*', '/', '^'], ∀ d ∈ ['*', '/', '^'], ¬ [c, d] <:+: s

namespace Text

theorem bracketsBalanced_iff {s : Text} : s.bracketsBalanced = true ↔
    (∀ p, p <+: s → p.count ')' ≤ p.count '(') ∧ s.count '(' = s.count ')' := by
  have opening (c : Char) : (Bracket.ofChar? c == some .opening) = (c == '(') := by
    unfold Bracket.ofChar?
    split <;> simp_all
  have closing (c : Char) : (Bracket.ofChar? c == some .closing) = (c == ')') := by
    unfold Bracket.ofChar?
    split <;> simp_all
  rw [bracketsBalanced, Bracket.balanced_filterMap_iff]
  simp only [opening, closing]
  rfl

theorem isMultiplicative_iff {c : Char} : isMultiplicative c = true ↔ c ∈ ['*', '/', '^'] := by
  simp [isMultiplicative, or_assoc]

theorem orderly_iff {s : Text} :
    s.Orderly ↔ s.bracketsBalanced = true ∧ s.glued = false := by
  rw [bracketsBalanced_iff, Bool.eq_false_iff, ne_eq, glued_iff]
  simp only [isMultiplicative_iff]
  constructor
  · rintro ⟨opened, closed, apart⟩
    refine ⟨⟨opened, closed⟩, ?_⟩
    rintro ⟨c, d, touch, hc, hd⟩
    exact apart c hc d hd touch
  · rintro ⟨⟨opened, closed⟩, apart⟩
    exact ⟨opened, closed, fun c hc d hd touch => apart ⟨c, d, touch, hc, hd⟩⟩

end Text

/-! ### Priority -/

namespace Store

variable (store : Store) (limits : Limits)

theorem outcome_eq_error_iff {line : Text} {e : Refusal} :
    (store.evaluate limits line).outcome = .error e ↔ store.result limits line = .error e := by
  rw [result]
  cases (store.evaluate limits line).outcome <;> simp [Except.map]

/-- **Priority**: a line that is not blank, no assignment and no command is refused for a name
exactly when its brackets match, no operators are glued in it and the name is the leftmost of its
runs of letters that has no value. So it is refused for its brackets or for glued operators whatever
its names are; and if it is not, a name without a value anywhere in it is what it is refused for,
whatever else is wrong with it. -/
theorem outcome_unknownVariable {line : Text} (visible : line.trim ≠ []) (plain : '=' ∉ line.trim)
    (slashless : line.trim.head? ≠ some '/') :
    (∀ name, (store.evaluate limits line).outcome = .error (.unknownVariable name) ↔
        line.Orderly ∧ store.FirstUnbound line name) ∧
      (¬ line.Orderly → (store.evaluate limits line).outcome = .error .invalidExpression) ∧
      (line.Orderly → (∃ a n b, Text.LetterRun line a n b ∧ store.get? n = none) →
        ∃ name, store.FirstUnbound line name ∧
          (store.evaluate limits line).outcome = .error (.unknownVariable name)) := by
  have equation := store.result_eq limits visible ((Text.mem_trim_iff rfl).not.1 plain) slashless
  rw [← Text.brackets_tokens, ← Text.bracketsBalanced, Text.glued_foldSigns] at equation
  have refused (name : Text) :
      (store.evaluate limits line).outcome = .error (.unknownVariable name) ↔
        line.Orderly ∧ store.FirstUnbound line name := by
    rw [outcome_eq_error_iff, equation, Text.orderly_iff, firstUnbound_iff,
      ← find?_isUnbound_foldSigns, ← store.calculate_eq_unknownVariable_iff limits]
    split
    · next orderly =>
      cases store.calculate limits line.foldSigns.tokens <;> simp [Except.map, orderly]
    · next disorderly => simp [disorderly]
  refine ⟨refused, fun disorderly => ?_, ?_⟩
  · rw [outcome_eq_error_iff, equation, if_neg (Text.orderly_iff.not.1 disorderly)]
  · rintro orderly ⟨a, n, b, run, unbound⟩
    obtain ⟨name, first⟩ := store.exists_firstUnbound run unbound
    exact ⟨name, first, (refused name).2 ⟨orderly, first⟩⟩

/-- A division by zero, misplaced operators, a character of no kind, a bound name and a second name
without a value, none of which counts. -/
theorem outcome_unknownVariable_first :
    let store := empty.bind "x".toList 2
    let line : Text := " 1/0 é(+)x--ab3^-1cd".toList
    line.trim ≠ [] ∧ '=' ∉ line.trim ∧ line.trim.head? ≠ some '/' ∧ line.Orderly ∧
      store.FirstUnbound line "ab".toList ∧
      (store.evaluate .standard line).outcome = .error (.unknownVariable "ab".toList) := by
  intro store line
  have orderly : line.Orderly := Text.orderly_iff.2 (by decide)
  have first : store.FirstUnbound line "ab".toList := store.firstUnbound_iff.2 (by decide)
  have visible : line.trim ≠ [] := by decide
  have plain : '=' ∉ line.trim := by decide
  have slashless : line.trim.head? ≠ some '/' := by decide
  obtain ⟨refused, -, -⟩ := store.outcome_unknownVariable .standard visible plain slashless
  exact ⟨visible, plain, slashless, orderly, first, (refused _).2 ⟨orderly, first⟩⟩

end Store

end Abacus
