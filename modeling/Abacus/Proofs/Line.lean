import Abacus.Proofs.Calculation
import Abacus.Proofs.Folding
import Mathlib.Data.List.TakeWhile

/-!
# What comes of a line

`Store.result` is the value that a line shows, or its refusal. This module reduces it to the value
of tokens (`Store.calculate`).

- **The general equation** (`result_eq`): a line that is not blank, no assignment and no command is
  refused if its brackets are not balanced or if operators are glued, and otherwise has the value of
  the tokens of its folded text. The two shortcuts, for a bare name and for a negative literal, and
  the white space at the ends make no difference.
- **A sentence** (`result_of_isSentence`) is refused for neither reason, so its line has the value
  of these tokens without more ado.
- **An accepted line** (`of_result_eq_some`) has passed both tests.
-/

namespace Abacus

/-! ### White space around a line -/

/-- A test that fails on the three operators that are never a sign holds of none of them. -/
theorem isMultiplicative_of_test {p : Char → Bool} (star : p '*' = false) (slash : p '/' = false)
    (caret : p '^' = false) {c : Char} (h : p c = true) : Text.isMultiplicative c = false := by
  refine Bool.eq_false_iff.2 fun operator => ?_
  simp only [Text.isMultiplicative, Bool.or_eq_true, decide_eq_true_eq] at operator
  rcases operator with (rfl | rfl) | rfl
  · rw [star] at h
    cases h
  · rw [slash] at h
    cases h
  · rw [caret] at h
    cases h

theorem isMultiplicative_of_isBlank {c : Char} :
    isBlank c = true → Text.isMultiplicative c = false :=
  isMultiplicative_of_test rfl rfl rfl

theorem isMultiplicative_of_isAlphanum {c : Char} :
    c.isAlphanum = true → Text.isMultiplicative c = false :=
  isMultiplicative_of_test rfl rfl rfl

namespace Text

theorem takeWhile_blank (s : Text) : (s.takeWhile isBlank).all isBlank = true :=
  List.all_takeWhile

/-- A line is its trimmed text between white space. -/
theorem exists_trim (s : Text) :
    ∃ b b' : Text, s = b ++ (s.trim ++ b') ∧ b.all isBlank = true ∧ b'.all isBlank = true := by
  refine ⟨s.takeWhile isBlank, (s.trimStart.reverse.takeWhile isBlank).reverse, ?_, ?_, ?_⟩
  · have ends : s.trimStart = s.trim ++ (s.trimStart.reverse.takeWhile isBlank).reverse := by
      rw [trim, trimEnd, ← List.reverse_append, List.takeWhile_append_dropWhile,
        List.reverse_reverse]
    rw [← ends]
    exact List.takeWhile_append_dropWhile.symm
  · exact takeWhile_blank s
  · rw [List.all_reverse]
    exact takeWhile_blank _

theorem trim_blank_append {b : Text} (h : b.all isBlank = true) (s : Text) :
    (b ++ s).trim = s.trim := by
  rw [trim, trimStart, List.dropWhile_append_of_pos (List.all_eq_true.1 h)]
  rfl

theorem trim_append_blank {b : Text} (h : b.all isBlank = true) (s : Text) :
    (s ++ b).trim = s.trim := by
  rw [trim, trim, trimStart, trimStart, List.dropWhile_append]
  cases visible : (s.dropWhile isBlank).isEmpty with
  | true =>
    rw [List.isEmpty_iff] at visible
    rw [visible, if_pos rfl, List.dropWhile_eq_nil_iff.2 (List.all_eq_true.1 h)]
  | false =>
    rw [if_neg Bool.false_ne_true, trimEnd, trimEnd, List.reverse_append,
      List.dropWhile_append_of_pos fun c hc => List.all_eq_true.1 h c (List.mem_reverse.1 hc)]

theorem trim_trim (s : Text) : s.trim.trim = s.trim := by
  obtain ⟨b, b', hs, hb, hb'⟩ := s.exists_trim
  conv => rhs; rw [hs, trim_blank_append hb, trim_append_blank hb']

theorem not_mem_of_blank {b : Text} (h : b.all isBlank = true) {c : Char}
    (visible : isBlank c = false) : c ∉ b := by
  intro hc
  rw [List.all_eq_true.1 h c hc] at visible
  cases visible

/-- Trimming takes away white space only. -/
theorem mem_trim_iff {c : Char} (visible : isBlank c = false) {s : Text} :
    c ∈ s.trim ↔ c ∈ s := by
  obtain ⟨b, b', hs, hb, hb'⟩ := s.exists_trim
  constructor
  · intro inner
    rw [hs]
    exact List.mem_append_right b (List.mem_append_left b' inner)
  · intro hc
    rw [hs] at hc
    rcases List.mem_append.1 hc with front | hc
    · exact absurd front (not_mem_of_blank hb visible)
    · exact (List.mem_append.1 hc).resolve_right (not_mem_of_blank hb' visible)

/-- A text without white space is all that trimming leaves of it. -/
theorem trim_between {b s b' : Text} (hb : b.all isBlank = true) (hb' : b'.all isBlank = true)
    (visible : ∀ c ∈ s, isBlank c = false) : (b ++ s ++ b').trim = s := by
  obtain ⟨d, d', hs, hd, hd'⟩ := s.exists_trim
  have nothing {g : Text} (hg : g.all isBlank = true) (inside : ∀ c ∈ g, c ∈ s) : g = [] := by
    rw [List.eq_nil_iff_forall_not_mem]
    intro c hc
    exact not_mem_of_blank hg (visible c (inside c hc)) hc
  have front : d = [] := nothing hd fun c hc => hs ▸ List.mem_append_left _ hc
  have back : d' = [] := nothing hd' fun c hc =>
    hs ▸ List.mem_append_right _ (List.mem_append_right _ hc)
  rw [List.append_assoc, trim_blank_append hb, trim_append_blank hb']
  rw [front, back, List.append_nil] at hs
  exact hs.symm

/-- A trimmed text starts with no white space. -/
theorem isBlank_of_head?_trim {s : Text} {c : Char} (h : s.trim.head? = some c) :
    isBlank c = false := by
  have front : s.trim <+: s.trimStart := by
    have ends := List.reverse_prefix.2 (List.dropWhile_suffix isBlank (l := s.trimStart.reverse))
    rwa [List.reverse_reverse] at ends
  obtain ⟨r, hr⟩ := List.head?_eq_some_iff.1 h
  obtain ⟨t, ht⟩ := front
  have first : (s.dropWhile isBlank).head? = some c := by
    show s.trimStart.head? = some c
    rw [← ht, hr]
    rfl
  have dropped := List.head?_dropWhile_not isBlank s
  rw [first] at dropped
  simpa using dropped

/-- A trimmed text starts with the first character of the text that is not white. -/
theorem head?_trim (s : Text) : s.trim.head? = s.find? fun c => !isBlank c := by
  obtain ⟨b, b', hs, hb, hb'⟩ := s.exists_trim
  have nowhere {g : Text} (hg : g.all isBlank = true) : (g.find? fun c => !isBlank c) = none := by
    rw [List.find?_eq_none]
    intro c hc
    simp [List.all_eq_true.1 hg c hc]
  conv => rhs; rw [hs, List.find?_append, List.find?_append, nowhere hb, nowhere hb']
  cases h : s.trim with
  | nil => rfl
  | cons c r =>
    have visible : isBlank c = false := isBlank_of_head?_trim (s := s) (by rw [h]; rfl)
    simp [visible]

theorem foldSigns_blank_append {b : Text} (h : b.all isBlank = true) (s : Text) :
    foldSigns (b ++ s) = b ++ foldSigns s :=
  foldSigns_append (fun c hc => isSign_of_isBlank (List.all_eq_true.1 h c hc)) s

theorem foldSigns_append_blank {b : Text} (h : b.all isBlank = true) (s : Text) :
    foldSigns (s ++ b) = foldSigns s ++ b := by
  cases b with
  | nil => rw [List.append_nil, List.append_nil]
  | cons c b =>
    have signs : ∀ d ∈ c :: b, isSign d = false := fun d hd =>
      isSign_of_isBlank (List.all_eq_true.1 h d hd)
    have rest : foldSigns b = b :=
      foldSigns_of_forall fun d hd => signs d (List.mem_cons_of_mem c hd)
    rw [foldSigns_append_cons (signs c (List.mem_cons_self ..)), rest]

theorem glued_blank_append {b : Text} (h : b.all isBlank = true) (s : Text) :
    glued (b ++ s) = glued s := by
  induction b with
  | nil => rfl
  | cons c b ih =>
    obtain ⟨hc, hb⟩ := Bool.and_eq_true_iff.1 h
    have first := glued_append_cons (isMultiplicative_of_isBlank hc) (b ++ s) []
    rw [ih hb] at first
    exact first

theorem glued_append_blank {b : Text} (h : b.all isBlank = true) (s : Text) :
    glued (s ++ b) = glued s := by
  cases b with
  | nil => rw [List.append_nil]
  | cons c b =>
    obtain ⟨hc, hb⟩ := Bool.and_eq_true_iff.1 h
    have rest := glued_blank_append hb []
    rw [List.append_nil] at rest
    rw [glued_append_cons (isMultiplicative_of_isBlank hc), rest]
    exact Bool.or_false _

theorem tokens_blank_append {b : Text} (h : b.all isBlank = true) (s : Text) :
    tokens (b ++ s) = tokens s := by
  rw [tokens, units_blank_append h]
  rfl

theorem tokens_append_blank {b : Text} (h : b.all isBlank = true) (s : Text) :
    tokens (s ++ b) = tokens s := by
  rw [tokens, units_append_blank h]
  rfl

/-- White space at the ends makes no difference to the units. -/
theorem units_trim (s : Text) : units s.trim = units s := by
  obtain ⟨b, b', hs, hb, hb'⟩ := s.exists_trim
  conv => rhs; rw [hs, units_blank_append hb, units_append_blank hb']

theorem tokens_trim (s : Text) : tokens s.trim = tokens s := by
  rw [tokens, units_trim]
  rfl

/-! ### Brackets of a line -/

/-- A run of a text is a bracket, or there is no bracket about it. -/
theorem bracket_cases {s u : Text} (h : u ∈ runs sameUnit s) :
    u = ['('] ∨ u = [')'] ∨
      (∀ c ∈ u, Bracket.ofChar? c = none) ∧ Bracket.ofToken? (Token.ofUnit u) = none := by
  have other {c : Char} (opening : c ≠ '(') (closing : c ≠ ')') : Bracket.ofChar? c = none := by
    unfold Bracket.ofChar?
    split
    · exact absurd rfl opening
    · exact absurd rfl closing
    · rfl
  have alphanum (c d : Char) (hcd : sameUnit c d = true) :
      c.isAlphanum = true ∧ d.isAlphanum = true := by
    constructor
    · exact Bool.of_not_eq_false fun hc => by simp [sameUnit_of_left hc] at hcd
    · exact Bool.of_not_eq_false fun hd => by simp [sameUnit_of_right c hd] at hcd
  rcases forall_mem_run (fun c d h => (alphanum c d h).1) (fun c d h => (alphanum c d h).2) h with
    ⟨c, rfl⟩ | word
  · by_cases opening : c = '('
    · exact .inl (by rw [opening])
    · by_cases closing : c = ')'
      · exact .inr (.inl (by rw [closing]))
      · refine .inr (.inr ⟨List.forall_mem_singleton.2 (other opening closing), ?_⟩)
        have spec := Token.ofUnit_spec (List.cons_ne_nil c [])
        cases hu : Token.ofUnit [c] with
        | opening =>
          rw [hu] at spec
          exact absurd (List.singleton_inj.1 spec) opening
        | closing =>
          rw [hu] at spec
          exact absurd (List.singleton_inj.1 spec) closing
        | _ => rfl
  · refine .inr (.inr ⟨fun c hc => ?_, ?_⟩)
    · refine other ?_ ?_
      · rintro rfl
        cases word _ hc
      · rintro rfl
        cases word _ hc
    · rw [Token.ofUnit_eq_ofWord word]
      rcases Token.ofWord_cases u with ⟨-, hw⟩ | ⟨-, hw⟩ | ⟨-, -, hw⟩ <;> rw [hw] <;> rfl

/-- The brackets among the characters of a line are those among its tokens. -/
theorem brackets_tokens (s : Text) : s.filterMap Bracket.ofChar? = Token.brackets s.tokens := by
  have runs_brackets : ∀ rs : List Text, (∀ u ∈ rs, u ∈ runs sameUnit s) →
      rs.flatten.filterMap Bracket.ofChar?
        = Token.brackets ((rs.filter fun u => !u.all isBlank).map Token.ofUnit) := by
    intro rs
    induction rs with
    | nil =>
      intro _
      rfl
    | cons u rs ih =>
      intro cut
      rw [List.flatten_cons, List.filterMap_append,
        ih fun v hv => cut v (List.mem_cons_of_mem u hv)]
      rcases bracket_cases (cut u (List.mem_cons_self ..)) with rfl | rfl | ⟨none, word⟩
      · rfl
      · rfl
      · rw [List.filterMap_eq_nil_iff.2 none, List.nil_append, List.filter_cons]
        split
        · exact (List.filterMap_cons_none word).symm
        · rfl
  have := runs_brackets (runs sameUnit s) fun _ h => h
  rwa [flatten_runs] at this

end Text

namespace Normalised

/-- A line is spaced out when no operators are glued in it and it is no lone negative number. -/
theorem ofText?_eq_spaced_iff {s text : Text} :
    ofText? s = some (.spaced text) ↔
      s.foldSigns.glued = false ∧ literal? s.foldSigns.units = none ∧
        text = Text.unwords s.foldSigns.units := by
  rw [ofText?]
  cases s.foldSigns.glued with
  | true => simp
  | false => cases literal : literal? s.foldSigns.units <;> simp [ofUnits, literal, eq_comm]

/-- The tokens of a line that is spaced out are those of its folded text. -/
theorem scan_of_spaced {line text : Text} (h : ofText? line = some (.spaced text)) :
    Token.scan text = line.foldSigns.tokens := by
  obtain ⟨-, -, rfl⟩ := ofText?_eq_spaced_iff.1 h
  exact Text.scan_unwords line.foldSigns

/-- A lone negative number is read as a sign and a number. -/
theorem tokens_of_literal {s : Text} {n : Int} (h : literal? s.units = some n) :
    ∃ m : Nat, s.tokens = [.op .minus, .number m] ∧ n = -m := by
  unfold literal? at h
  split at h
  · next d units =>
    obtain ⟨w, signed, rfl⟩ := Option.map_eq_some_iff.1 h
    obtain ⟨m, read, same⟩ := Option.bind_eq_some_iff.1 signed
    obtain rfl := Option.some.inj same
    unfold Decimal.read? at read
    split at read
    · next numeral =>
      obtain rfl := Option.some.inj read
      refine ⟨_, ?_, rfl⟩
      rw [Text.tokens, units, List.map_cons, List.map_cons, List.map_nil,
        Token.ofUnit_numeral (Decimal.isNumeral_iff.1 numeral)]
      rfl
    · cases read
  · cases h

end Normalised

namespace Store

variable (store : Store) (limits : Limits)

/-- What a line shows: a value, nothing, or its refusal. -/
def result (line : Text) : Except Refusal (Option Int) :=
  (store.evaluate limits line).outcome.map Answer.value?

/-! ### The normal form and its shortcuts -/

theorem outcome_evaluateSpaced (text : Text) :
    (store.evaluateSpaced limits text).outcome.map Prod.fst
      = store.calculate limits (Token.scan text) := by
  rw [evaluateSpaced, calculate]
  cases store.resolve (Token.scan text) with
  | error e => rfl
  | ok resolved =>
    simp only [Except.bind]
    cases Token.toPostfix resolved with
    | error e => rfl
    | ok postfixed =>
      simp only [Report.outcome_after]
      cases Token.evaluate limits postfixed <;> rfl

/-- A bare name has the value that the shortcut for it reads. -/
theorem calculate_name (name : Text) : store.calculate limits [.name name] = store.read name := by
  rw [calculate, resolve, substitute_eq, read]
  cases h : store.get? name <;>
    simp only [List.find?_cons, List.find?_nil, isUnbound, valued, List.map_cons, h] <;> rfl

/-- The value of a line that is taken for an expression. -/
theorem outcome_evaluateExpression (s : Text) :
    (store.evaluateExpression limits s).outcome.map Prod.fst
      = if s.foldSigns.glued then .error .invalidExpression
        else store.calculate limits s.foldSigns.tokens := by
  rw [evaluateExpression, Normalised.ofText?]
  by_cases glued : s.foldSigns.glued = true
  · rw [if_pos glued, if_pos glued]
    rfl
  · rw [if_neg glued, if_neg glued, Normalised.ofUnits]
    cases h : Normalised.literal? s.foldSigns.units with
    | none =>
      show ((store.evaluateSpaced limits _).after _).outcome.map Prod.fst = _
      rw [Report.outcome_after, outcome_evaluateSpaced, Text.scan_unwords]
    | some n =>
      -- the shortcut, for the tokens that are a sign and a number
      obtain ⟨m, tokens, rfl⟩ := Normalised.tokens_of_literal h
      rw [tokens]
      rfl

/-! ### The general equation -/

/-- A name is one token, and nothing about it folds or is glued. -/
theorem of_isName {s : Text} (h : s.isName = true) :
    s.foldSigns = s ∧ s.tokens = [.name s] ∧ s.glued = false := by
  have letters := Text.isName_iff.1 h
  have tokens : s.tokens = [.name s] := by
    rw [Text.tokens, Text.units_word letters.1 (.inr (List.all_eq_true.2 letters.2))]
    exact congrArg (· :: []) (Token.ofUnit_name letters)
  refine ⟨?_, tokens, ?_⟩
  · refine Text.foldSigns_of_forall fun c hc => ?_
    exact Text.isSign_of_isAlphanum (isAlphanum_of_isAlpha (letters.2 c hc))
  · refine Text.glued_of_ordered ?_
    rw [tokens]
    rfl

/-- The equation for a text that has no white space at its ends. -/
theorem result_trim {s : Text} (blank : s.trim ≠ []) (assign : '=' ∉ s.trim)
    (command : s.trim.head? ≠ some '/') :
    store.result limits s
      = if Bracket.balanced (Token.brackets s.trim.tokens) ∧ s.trim.foldSigns.glued = false then
          (store.calculate limits s.trim.foldSigns.tokens).map some
        else .error .invalidExpression := by
  rw [result, evaluate]
  show Except.map _ (Evaluation.toReport (if s.trim = [] then _ else _)).outcome = _
  rw [if_neg blank, if_neg assign]
  by_cases name : s.trim.isName = true
  · obtain ⟨folded, tokens, glued⟩ := of_isName name
    rw [if_pos name, folded, tokens, if_pos ⟨rfl, glued⟩, calculate_name]
    cases store.read s.trim <;> rfl
  · rw [if_neg name, if_neg command, Text.bracketsBalanced, Text.brackets_tokens]
    by_cases balance : Bracket.balanced (Token.brackets s.trim.tokens) = true
    · have expression := store.outcome_evaluateExpression limits s.trim
      rw [if_pos balance]
      dsimp only [Report.outcome_map]
      by_cases glued : s.trim.foldSigns.glued = true
      · rw [if_pos glued] at expression
        rw [if_neg fun both => by simp [glued] at both]
        cases h : (store.evaluateExpression limits s.trim).outcome with
        | ok a =>
          rw [h] at expression
          cases expression
        | error e =>
          rw [h] at expression
          cases expression
          rfl
      · rw [if_neg glued] at expression
        rw [if_pos ⟨balance, Bool.eq_false_iff.2 glued⟩, ← expression]
        cases (store.evaluateExpression limits s.trim).outcome <;> rfl
    · rw [if_neg balance, if_neg fun both => balance both.1]
      rfl

/-- **The general equation**: a line that is not blank, no assignment and no command has the value
of the tokens of its folded text, unless its brackets are not balanced or operators are glued. -/
theorem result_eq {line : Text} (blank : line.trim ≠ []) (assign : '=' ∉ line)
    (command : line.trim.head? ≠ some '/') :
    store.result limits line
      = if Bracket.balanced (Token.brackets line.tokens) ∧ line.foldSigns.glued = false then
          (store.calculate limits line.foldSigns.tokens).map some
        else .error .invalidExpression := by
  obtain ⟨b, b', hline, hb, hb'⟩ := line.exists_trim
  have folded : line.foldSigns = b ++ (line.trim.foldSigns ++ b') := by
    conv => lhs; rw [hline, Text.foldSigns_blank_append hb, Text.foldSigns_append_blank hb']
  rw [store.result_trim limits blank ((Text.mem_trim_iff rfl).not.2 assign) command,
    Text.tokens_trim, folded, Text.glued_blank_append hb, Text.glued_append_blank hb',
    Text.tokens_blank_append hb, Text.tokens_append_blank hb']

/-- The three conditions of the equation, when the first tokens are known. -/
theorem result_of_tokens {line : Text} {t : Token} {ts : List Token} (ht : line.tokens = t :: ts)
    (slash : t ≠ .op .over) (assign : '=' ∉ line) :
    store.result limits line
      = if Bracket.balanced (Token.brackets line.tokens) ∧ line.foldSigns.glued = false then
          (store.calculate limits line.foldSigns.tokens).map some
        else .error .invalidExpression := by
  have tokens : line.trim.tokens = t :: ts := line.tokens_trim.trans ht
  refine store.result_eq limits ?_ assign ?_
  · intro blank
    rw [blank] at tokens
    cases tokens
  · intro command
    obtain ⟨r, hr⟩ := List.head?_eq_some_iff.1 command
    -- a command starts with a slash, and so would the tokens
    rw [hr, Text.tokens_cons (c := '/') rfl] at tokens
    exact slash (List.cons.inj tokens).1.symm

/-- An assignment has a token that no sentence has. -/
theorem assign_of_ordered {line : Text} (h : Token.Ordered line.tokens) : '=' ∉ line := by
  intro assign
  obtain ⟨a, b, rfl⟩ := List.append_of_mem assign
  rw [Text.tokens_append_lone rfl rfl] at h
  exact Token.unknown_not_mem_of_ordered h _ (List.mem_append_right _ (List.mem_cons_self ..))

/-- **Sentences**: the line of a sentence has the value of the tokens of its folded text. -/
theorem result_of_isSentence {line : Text} (h : IsSentence line.units) :
    store.result limits line = (store.calculate limits line.foldSigns.tokens).map some := by
  obtain ⟨order, balance⟩ := (isSentence_iff fun u hu => (Text.mem_units hu).1).1 h
  have assign : '=' ∉ line := assign_of_ordered order
  have glued : line.foldSigns.glued = false :=
    Text.glued_of_ordered ((line.foldlM_next_foldSigns true).trans order)
  cases ht : line.tokens with
  | nil =>
    change Token.Ordered line.tokens at order
    rw [ht] at order
    cases order
  | cons t ts =>
    have slash : t ≠ .op .over := by
      rintro rfl
      change Token.Ordered line.tokens at order
      rw [ht] at order
      cases order
    rw [store.result_of_tokens limits ht slash assign, if_pos ⟨balance, glued⟩]

/-- **Accepted lines**: a line with a value is balanced, is not glued, and its folded text has
tokens of this value. -/
theorem of_result_eq_some {line : Text} {v : Int} (assign : '=' ∉ line)
    (h : store.result limits line = .ok (some v)) :
    Bracket.balanced (Token.brackets line.tokens) = true ∧ line.foldSigns.glued = false ∧
      store.calculate limits line.foldSigns.tokens = .ok v := by
  have opened := h
  rw [result, evaluate] at opened
  change Except.map _ (Evaluation.toReport (if line.trim = [] then _ else _)).outcome = _ at opened
  have blank : line.trim ≠ [] := by
    intro blank
    rw [if_pos blank] at opened
    cases opened
  have command : line.trim.head? ≠ some '/' := by
    intro command
    -- a command has no value to show
    obtain ⟨r, hr⟩ := List.head?_eq_some_iff.1 command
    have name : ¬ line.trim.isName = true := by
      rw [hr]
      intro name
      cases (Bool.and_eq_true_iff.1 (Bool.and_eq_true_iff.1 name).2).1
    rw [if_neg blank, if_neg ((Text.mem_trim_iff rfl).not.2 assign), if_neg name,
      if_pos command] at opened
    cases opened
  rw [store.result_eq limits blank assign command] at h
  split at h
  · next both =>
    refine ⟨both.1, both.2, ?_⟩
    cases hc : store.calculate limits line.foldSigns.tokens with
    | error e =>
      rw [hc] at h
      cases h
    | ok w =>
      rw [hc] at h
      cases h
      rfl
  · cases h

end Store

end Abacus
