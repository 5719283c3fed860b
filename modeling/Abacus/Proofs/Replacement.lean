import Abacus.Proofs.Bracketing
import Abacus.Proofs.Numerals

/-!
# Variables stand for their values

In a line that is neither an assignment nor a command, a variable can be written out: its value, as
a numeral in brackets, takes the place of its name, and nothing else about the line changes. The two
go different ways through the stages. A sign in front of a name is folded into the value, a sign in
front of a bracket makes a negated group of it; so it is not the tokens that stay the same but what
they do, in front of anything and behind anything, whether the line is a sentence or not.

- **Stack** (`Token.AmountsTo`): tokens that put one number on the stack wherever they stand. Two
  such can stand for each other (`AmountsTo.outcome_eq`).
- **Signs** (`Signs.exists_run_numeral`): whatever the pass remembers, it makes of a number and of
  its numeral in brackets two things that amount to the same, and goes on alike.
- **Text** (`Text.Apart`, `Text.SelfContained`): where a text can be cut before signs are folded and
  units are formed, and what can be put in between.
- **Lines** (`Store.result_replaceName`): first for one occurrence (`Store.result_numeral`), then
  for all of them, from left to right.
-/

namespace Abacus

/-! ### Tokens that amount to a number -/

namespace Yard

/-- What was sent out before stays in front of what is sent out. -/
theorem release_append_sent (o : Operator) (below : List Token) :
    ∀ (held : List Held) (sent : List Token),
      release o (sent ++ below) held
        = ⟨(release o sent held).sent ++ below, (release o sent held).held⟩
  | [], _ => rfl
  | .bracket :: _, _ => rfl
  | .op p :: held, sent => by
    rw [release, release]
    split
    · exact release_append_sent o below held (.op p :: sent)
    · rfl

theorem close_append_sent (below : List Token) :
    ∀ (held : List Held) (sent : List Token),
      close (sent ++ below) held = (close sent held).map fun y => ⟨y.sent ++ below, y.held⟩
  | [], _ => rfl
  | .bracket :: _, _ => rfl
  | .op p :: held, sent => close_append_sent below held (.op p :: sent)

theorem finish_append_sent (below : List Token) :
    ∀ (held : List Held) (sent : List Token),
      finish (sent ++ below) held = (finish sent held).map fun ps => below.reverse ++ ps
  | [], _ => congrArg Except.ok List.reverse_append
  | .bracket :: _, _ => rfl
  | .op p :: held, sent => finish_append_sent below held (.op p :: sent)

/-- **Step**: what has been sent out is never looked at. -/
theorem step_append_sent (below : List Token) (y : Yard) (t : Token) :
    step ⟨y.sent ++ below, y.held⟩ t = (y.step t).map fun y => ⟨y.sent ++ below, y.held⟩ := by
  cases t with
  | closing => exact close_append_sent below y.held y.sent
  | op o =>
    simp only [step, release_append_sent]
    rfl
  | _ => rfl

/-- **Run**: the same of many tokens. -/
theorem foldlM_step_append_sent (below : List Token) :
    ∀ (ts : List Token) (y : Yard),
      ts.foldlM step ⟨y.sent ++ below, y.held⟩
        = (ts.foldlM step y).map fun y => ⟨y.sent ++ below, y.held⟩
  | [], _ => rfl
  | t :: ts, y => by
    rw [List.foldlM_cons, List.foldlM_cons, step_append_sent]
    cases y.step t with
    | error _ => rfl
    | ok y' => exact foldlM_step_append_sent below ts y'

end Yard

namespace Token

open Yard (Block)

/-- What stands around a block is sent out around what the block sends out, whatever the block. -/
theorem exists_toPostfix_around (xs ys : List Token) :
    ∃ around : Except Refusal (List Token × List Token), ∀ {ts ps : List Token}, Block ts ps →
      toPostfix (xs ++ (ts ++ ys)) = around.map fun r => r.1 ++ (ps ++ r.2) := by
  cases front : xs.foldlM Yard.step {} with
  | error e =>
    refine ⟨.error e, fun _ => ?_⟩
    rw [toPostfix, List.foldlM_append, front]
    rfl
  | ok y =>
    -- behind the block the conversion goes on as if nothing had been sent out
    refine ⟨(ys.foldlM Yard.step ⟨[], y.held⟩).bind fun z =>
      (Yard.finish z.sent z.held).map fun qs => (y.sent.reverse, qs), fun {ts ps} block => ?_⟩
    have through : (xs ++ (ts ++ ys)).foldlM Yard.step {}
        = ys.foldlM Yard.step ⟨[] ++ (ps.reverse ++ y.sent), y.held⟩ := by
      rw [List.foldlM_append, front]
      show (ts ++ ys).foldlM Yard.step y = _
      rw [List.foldlM_append, block y.sent y.held]
      rfl
    rw [toPostfix, through, Yard.foldlM_step_append_sent _ ys ⟨[], y.held⟩]
    cases ys.foldlM Yard.step ⟨[], y.held⟩ with
    | error _ => rfl
    | ok z =>
      show Yard.finish (z.sent ++ (ps.reverse ++ y.sent)) z.held
        = ((Yard.finish z.sent z.held).map fun qs => (y.sent.reverse, qs)).map _
      rw [Yard.finish_append_sent]
      cases Yard.finish z.sent z.held with
      | error _ => rfl
      | ok qs => simp [Except.map]

/-- Whether tokens amount to a number: they send out what puts it on the stack, whatever stands in
front of them and under any limits. -/
def AmountsTo (ts : List Token) (v : Int) : Prop :=
  ∃ ps, Block ts ps ∧ ∀ limits, evaluate limits ps = .ok v

theorem AmountsTo.number (v : Int) : AmountsTo [.number v] v :=
  ⟨[.number v], Yard.block_number v, fun _ => rfl⟩

theorem AmountsTo.bracketed {ts : List Token} {v : Int} (h : AmountsTo ts v) :
    AmountsTo (Token.bracketed ts) v := by
  obtain ⟨ps, block, value⟩ := h
  exact ⟨ps, Yard.block_bracketed (toPostfix_of_block block), value⟩

/-- Minus one times a number, in brackets. -/
theorem AmountsTo.negated {ts : List Token} {v : Int} (h : AmountsTo ts v) :
    AmountsTo (Token.bracketed ([.number (-1)] ++ .op .times :: ts)) (-v) := by
  obtain ⟨ps, block, value⟩ := h
  have product := toPostfix_operation (Yard.block_number (-1)) block .times
  refine ⟨_, Yard.block_bracketed product, fun limits => ?_⟩
  rw [evaluate_operation (v := -1) rfl (value limits)]
  show Except.ok (-1 * v) = Except.ok (-v)
  rw [Int.neg_one_mul]

/-- What comes of tokens whose signs are worked off. -/
def outcome (limits : Limits) (ts : List Token) : Except Refusal Int :=
  (toPostfix ts).bind (evaluate limits)

/-- Tokens that amount to the same number can stand for each other. -/
theorem AmountsTo.outcome_eq {ts us : List Token} {v : Int} (hts : AmountsTo ts v)
    (hus : AmountsTo us v) (limits : Limits) (xs ys : List Token) :
    outcome limits (xs ++ (ts ++ ys)) = outcome limits (xs ++ (us ++ ys)) := by
  obtain ⟨ps, block, value⟩ := hts
  obtain ⟨qs, block', value'⟩ := hus
  obtain ⟨around, conversion⟩ := exists_toPostfix_around xs ys
  rw [outcome, outcome, conversion block, conversion block']
  cases around with
  | error _ => rfl
  | ok r =>
    show evaluate limits (r.1 ++ (ps ++ r.2)) = evaluate limits (r.1 ++ (qs ++ r.2))
    have run : (r.1 ++ (ps ++ r.2)).foldlM (push limits) []
        = (r.1 ++ (qs ++ r.2)).foldlM (push limits) [] := by
      rw [List.foldlM_append, List.foldlM_append]
      refine congrArg (Except.bind (r.1.foldlM (push limits) [])) (funext fun stack => ?_)
      rw [List.foldlM_append, List.foldlM_append, foldlM_push_of_evaluate (value limits),
        foldlM_push_of_evaluate (value' limits)]
    rw [evaluate, evaluate, run]

/-- The tokens of the numeral of an integer. -/
def numeral : Int → List Token
  | .ofNat n => [.number n]
  | .negSucc n => [.op .minus, .number (n + 1)]

end Token

/-! ### Signs in front of a number -/

namespace Signs

open Token (AmountsTo)

/-- **Signs**: whatever the pass remembers, what it sends out for a number and for the numeral of
the number in brackets amounts to the same, and behind both it goes on alike. -/
theorem exists_run_numeral (σ : Signs) (inside : ∀ g ∈ σ.groups, g ≤ σ.depth) (v : Int)
    (rest : List Token) :
    ∃ ts us w, AmountsTo ts w ∧ AmountsTo us w ∧
      σ.run (.number v :: rest) = ts ++ run ⟨false, none, σ.depth, σ.groups⟩ rest ∧
      σ.run (Token.bracketed (Token.numeral v) ++ rest)
        = us ++ run ⟨false, none, σ.depth, σ.groups⟩ rest := by
  obtain ⟨due, pending, d, groups⟩ := σ
  -- inside the bracket a sign is folded into the numeral, whatever groups are open
  have inner (own : List Nat) :
      run ⟨true, none, d + 1, own⟩ (Token.numeral v ++ .closing :: rest)
        = .number v :: run ⟨false, none, d + 1, own⟩ (.closing :: rest) := by
    cases v <;> rfl
  have split : Token.bracketed (Token.numeral v) ++ rest
      = .opening :: (Token.numeral v ++ .closing :: rest) := by
    simp [Token.bracketed]
  by_cases negated : pending = some true
  · -- the bracket becomes a negated group, which its closing bracket closes twice
    subst negated
    refine ⟨[.number (-v)], _, -v, .number (-v), (AmountsTo.number v).bracketed.negated, ?_, ?_⟩
    · cases due <;> rfl
    · have open_ : step ⟨due, some true, d, groups⟩ .opening
          = ([.opening, .number (-1), .op .times, .opening],
            ⟨true, none, d + 1, (d + 1) :: groups⟩) := by
        cases due <;> rfl
      rw [split, run, open_]
      show _ ++ run ⟨true, none, d + 1, (d + 1) :: groups⟩ _ = _
      rw [inner, run, step_closing_group]
      rfl
  · have plain : pending = none ∨ pending = some false := by
      cases pending with
      | none => exact .inl rfl
      | some sign =>
        cases sign with
        | false => exact .inr rfl
        | true => exact absurd rfl negated
    refine ⟨[.number v], _, v, .number v, (AmountsTo.number v).bracketed, ?_, ?_⟩
    · rcases plain with rfl | rfl <;> cases due <;> rfl
    · have open_ : step ⟨due, pending, d, groups⟩ .opening
          = ([.opening], ⟨true, none, d + 1, groups⟩) := by
        rcases plain with rfl | rfl <;> cases due <;> rfl
      rw [split, run, open_]
      show _ ++ run ⟨true, none, d + 1, groups⟩ _ = _
      rw [inner, run, step_closing inside]
      rfl

end Signs

/-! ### Values of tokens -/

namespace Store

theorem calculate_eq_outcome (store : Store) (limits : Limits) (ts : List Token) :
    store.calculate limits ts = match ts.find? store.isUnbound with
      | some t => .error (.unknownVariable t.text)
      | none => Token.outcome limits (Token.resolveSigns (ts.map store.valued)) := by
  rw [calculate, resolve, substitute_eq]
  cases ts.find? store.isUnbound <;> rfl

/-- **Tokens**: a name can give way to the numeral of its value in brackets, among any tokens. -/
theorem calculate_numeral {store : Store} {name : Text} {v : Int}
    (bound : store.get? name = some v) (limits : Limits) (xs ys : List Token) :
    store.calculate limits (xs ++ (Token.bracketed (Token.numeral v) ++ ys))
      = store.calculate limits (xs ++ .name name :: ys) := by
  have known : (Token.bracketed (Token.numeral v) ++ ys).find? store.isUnbound
      = (Token.name name :: ys).find? store.isUnbound := by
    have here : store.isUnbound (.name name) = false := by
      rw [isUnbound, bound]
      rfl
    rw [List.find?_cons, here]
    cases v <;> rfl
  have values : (Token.bracketed (Token.numeral v) ++ ys).map store.valued
      = Token.bracketed (Token.numeral v) ++ ys.map store.valued := by
    cases v <;> rfl
  have value : (Token.name name :: ys).map store.valued = .number v :: ys.map store.valued := by
    rw [List.map_cons, valued, bound]
    rfl
  rw [calculate_eq_outcome, calculate_eq_outcome, List.find?_append, known, ← List.find?_append,
    List.map_append, values, List.map_append, value]
  cases (xs ++ Token.name name :: ys).find? store.isUnbound with
  | some t => rfl
  | none =>
    have nested := Signs.nested_after (xs.map store.valued) Signs.nested_init
    obtain ⟨ts, us, w, hts, hus, number, numeral⟩ :=
      Signs.exists_run_numeral _ (Signs.le_depth_of_mem_groups nested) v (ys.map store.valued)
    show Token.outcome limits (Signs.run {} _) = Token.outcome limits (Signs.run {} _)
    rw [Signs.run_append, numeral, Signs.run_append, number]
    exact hus.outcome_eq hts limits _ _

end Store

/-! ### Texts that stay apart -/

namespace Text

/-- Whether no unit reaches from one text into the one behind it. -/
def Apart (s t : Text) : Prop :=
  ∀ c ∈ s.getLast?, ∀ d ∈ t.head?, sameUnit c d = false

theorem Apart.tokens {s t : Text} (h : Apart s t) : tokens (s ++ t) = tokens s ++ tokens t := by
  rw [Text.tokens, units_append h, List.map_append]
  rfl

theorem isAlphanum_of_isSign {c : Char} (h : isSign c = true) : c.isAlphanum = false := by
  refine Bool.eq_false_iff.2 fun alphanum => ?_
  rw [isSign_of_isAlphanum alphanum] at h
  cases h

/-- A sign joins no unit, so folding the signs in front leaves two texts apart. -/
theorem Apart.foldSigns_left {s t : Text} (h : Apart s t) : Apart s.foldSigns t := by
  intro c last d head
  cases hc : isSign c with
  | true => exact sameUnit_of_left (isAlphanum_of_isSign hc) d
  | false =>
    rw [foldSigns_eq] at last
    have minus := getLast?_foldRuns rfl changesSign_id hc last
    exact h c (getLast?_foldRuns rfl changesSign_flipSign hc minus) d head

theorem Apart.foldSigns_right {s t : Text} (h : Apart s t) : Apart s t.foldSigns := by
  intro c last d head
  cases hd : isSign d with
  | true => exact sameUnit_of_right c (isAlphanum_of_isSign hd)
  | false =>
    rw [foldSigns_eq] at head
    have minus := head?_foldRuns rfl changesSign_id hd head
    exact h c last d (head?_foldRuns rfl changesSign_flipSign hd minus)

theorem Apart.append_right {s m : Text} (h : Apart s m) (ne : m ≠ []) (t : Text) :
    Apart s (m ++ t) := by
  obtain ⟨c, m, rfl⟩ := List.exists_cons_of_ne_nil ne
  exact h

theorem Apart.append_left {m t : Text} (h : Apart m t) (ne : m ≠ []) (s : Text) :
    Apart (s ++ m) t := by
  intro c hc
  rw [List.getLast?_append, List.getLast?_eq_some_getLast ne] at hc
  refine h c ?_
  rw [List.getLast?_eq_some_getLast ne]
  exact hc

/-- Brackets stay apart from what is in front of them. -/
theorem apart_bracketed_right (s t : Text) : Apart s (bracketed t) := by
  intro c _ d hd
  obtain rfl : '(' = d := Option.some.inj hd
  exact sameUnit_of_right c rfl

/-- Brackets stay apart from what is behind them. -/
theorem apart_bracketed_left (s t : Text) : Apart (bracketed s) t := by
  intro c hc d _
  rw [bracketed, ← List.cons_append, List.getLast?_concat] at hc
  obtain rfl : ')' = c := Option.some.inj hc
  exact sameUnit_of_left rfl d

theorem glued_around {m : Text} (ne : m ≠ []) (h : ∀ c ∈ m, isMultiplicative c = false)
    (s t : Text) : glued (s ++ (m ++ t)) = (glued s || glued t) := by
  induction m generalizing s with
  | nil => exact absurd rfl ne
  | cons c m ih =>
    obtain ⟨hc, hm⟩ := List.forall_mem_cons.1 h
    rw [List.cons_append, glued_append_cons hc]
    cases m with
    | nil => rfl
    | cons d m =>
      have rest := ih (List.cons_ne_nil d m) hm []
      rw [List.nil_append] at rest
      rw [rest]
      rfl

/-- Whether nothing is to be folded in a text, and nothing around it folds with it, is glued to it
or makes it part of an assignment or a command. -/
structure SelfContained (m : Text) : Prop where
  first : ∃ c r, m = c :: r ∧ isSign c = false ∧ isBlank c = false ∧ c ≠ '/'
  last : ∃ r c, m = r ++ [c] ∧ isSign c = false
  plain : ∀ c ∈ m, isMultiplicative c = false ∧ c ≠ '='
  folded : m.foldSigns = m

theorem SelfContained.ne_nil {m : Text} (h : SelfContained m) : m ≠ [] := by
  obtain ⟨c, r, rfl, -⟩ := h.first
  exact List.cons_ne_nil c r

theorem SelfContained.foldSigns_around {m : Text} (h : SelfContained m) (s t : Text) :
    foldSigns (s ++ (m ++ t)) = s.foldSigns ++ (m ++ t.foldSigns) := by
  obtain ⟨c, r, hm, sign, -, -⟩ := h.first
  have head : ∃ c r, m ++ t = c :: r ∧ isSign c = false := ⟨c, r ++ t, by rw [hm]; rfl, sign⟩
  rw [foldSigns_append_of_head head, foldSigns_append_of_last h.last, h.folded]

theorem selfContained_of_isName {s : Text} (h : s.isName = true) : SelfContained s := by
  obtain ⟨visible, letters⟩ := Bool.and_eq_true_iff.1 h
  have ne : s ≠ [] := by simpa using visible
  have alphanum : ∀ c ∈ s, c.isAlphanum = true := fun c hc =>
    isAlphanum_of_isAlpha (List.all_eq_true.1 letters c hc)
  have sign : ∀ c ∈ s, isSign c = false := fun c hc => isSign_of_isAlphanum (alphanum c hc)
  refine ⟨?_, ?_, fun c hc => ⟨isMultiplicative_of_isAlphanum (alphanum c hc), ?_⟩,
    (Store.of_isName h).1⟩
  · obtain ⟨c, r, rfl⟩ := List.exists_cons_of_ne_nil ne
    have first := alphanum c (List.mem_cons_self ..)
    refine ⟨c, r, rfl, isSign_of_isAlphanum first, isBlank_of_isAlphanum first, ?_⟩
    rintro rfl
    cases first
  · exact ⟨s.dropLast, s.getLast ne, (List.dropLast_concat_getLast ne).symm,
      sign _ (List.getLast_mem ne)⟩
  · rintro rfl
    cases alphanum _ hc

/-! ### Numerals as texts -/

theorem foldSigns_ofInt (v : Int) : foldSigns (Decimal.ofInt v) = Decimal.ofInt v :=
  (Decimal.signedNumeral_ofInt v).foldSigns_eq

theorem tokens_ofInt (v : Int) : tokens (Decimal.ofInt v) = Token.numeral v := by
  have digits (n : Nat) : tokens (Decimal.digits n) = [.number n] := by
    rw [tokens_of_digits (Decimal.isNumeral_iff.1 (Decimal.isNumeral_digits n)),
      ← Decimal.value_eq_denoted, Decimal.value_digits]
  cases v with
  | ofNat n => exact digits n
  | negSucc n =>
    rw [Decimal.ofInt, tokens_cons (c := '-') rfl, digits]
    rfl

theorem selfContained_bracketed_ofInt (v : Int) : SelfContained (bracketed (Decimal.ofInt v)) where
  first := ⟨'(', _, rfl, rfl, rfl, by decide⟩
  last := ⟨'(' :: Decimal.ofInt v, ')', rfl, rfl⟩
  plain := by
    have digit {n : Nat} {c : Char} (hc : c ∈ Decimal.digits n) :
        isMultiplicative c = false ∧ c ≠ '=' := by
      have alphanum := isAlphanum_of_isDigit (Decimal.isDigit_of_mem_digits hc)
      refine ⟨isMultiplicative_of_isAlphanum alphanum, ?_⟩
      rintro rfl
      cases alphanum
    intro c hc
    simp only [bracketed, List.mem_cons, List.mem_append, List.not_mem_nil, or_false] at hc
    rcases hc with rfl | hc | rfl
    · decide
    · cases v with
      | ofNat n => exact digit hc
      | negSucc n =>
        rcases List.mem_cons.1 hc with rfl | hc
        · decide
        · exact digit hc
    · decide
  folded := by
    have folded := foldSigns_bracketed (Decimal.ofInt v) []
    rwa [List.append_nil, foldSigns_ofInt, foldSigns_nil, List.append_nil] at folded

/-! ### Lines -/

/-- Whether a line is neither an assignment nor a command. -/
structure IsFormula (line : Text) : Prop where
  assign : '=' ∉ line
  command : line.trim.head? ≠ some '/'

/-- It is no matter which text of its own stands in a line. -/
theorem IsFormula.replace {m n s t : Text} (hn : SelfContained n)
    (h : IsFormula (s ++ (m ++ t))) : IsFormula (s ++ (n ++ t)) := by
  obtain ⟨assign, command⟩ := h
  refine ⟨?_, ?_⟩
  · simp only [List.mem_append, not_or] at assign ⊢
    exact ⟨assign.1, fun equals => (hn.plain _ equals).2 rfl, assign.2.2⟩
  · obtain ⟨d, q, rfl, -, visible, slash⟩ := hn.first
    rw [head?_trim, List.find?_append] at command ⊢
    cases h : s.find? fun c => !isBlank c with
    | some b =>
      rw [h] at command
      exact command
    | none => simpa [visible] using slash

/-- The text with another one in the place of every maximal run of letters that is the name. -/
def replaceName (s name new : Text) : Text :=
  (runs sameUnit s).flatMap fun u => if u = name then new else u

/-- The first run of a text, and the text behind it. -/
theorem exists_of_runs_eq_cons {sticks : Char → Char → Bool} {u : Text} {us : List Text} :
    ∀ {s : Text}, runs sticks s = u :: us → ∃ t, s = u ++ t ∧ runs sticks t = us ∧
      ∀ c ∈ u.getLast?, ∀ d ∈ t.head?, sticks c d = false
  | [], h => by cases h
  | [c], h => by
    cases h
    exact ⟨[], rfl, rfl, fun _ _ _ hd => by cases hd⟩
  | c :: d :: s, h => by
    obtain ⟨p, ps, hp⟩ := exists_runs_cons sticks d s
    rw [runs_cons hp] at h
    split at h
    · -- the first character has joined the first run behind it
      obtain ⟨t, text, cut, apart⟩ := exists_of_runs_eq_cons hp
      cases h
      refine ⟨t, by rw [text]; rfl, cut, ?_⟩
      rwa [List.getLast?_cons_cons]
    · next joins =>
      cases h
      refine ⟨d :: s, rfl, hp, ?_⟩
      rintro c' hc d' hd
      obtain rfl : c = c' := Option.some.inj hc
      obtain rfl : d = d' := Option.some.inj hd
      exact Bool.eq_false_iff.2 joins

end Text

namespace Store

variable {store : Store} {name : Text} {v : Int}

/-- The general equation, for a line with a text of its own in it. -/
theorem result_of_selfContained {m s t : Text} (h : Text.SelfContained m)
    (formula : Text.IsFormula (s ++ (m ++ t))) (limits : Limits) :
    store.result limits (s ++ (m ++ t))
      = if Bracket.balanced (Token.brackets (Text.tokens (s ++ (m ++ t)))) ∧
          (s.foldSigns.glued || t.foldSigns.glued) = false then
          (store.calculate limits (Text.tokens (s.foldSigns ++ (m ++ t.foldSigns)))).map some
        else .error .invalidExpression := by
  obtain ⟨c, r, hm, -, visible, -⟩ := h.first
  have blank : (s ++ (m ++ t)).trim ≠ [] := by
    intro blank
    have here : c ∈ (s ++ (m ++ t)).trim := (Text.mem_trim_iff visible).2 (by simp [hm])
    rw [blank] at here
    cases here
  rw [store.result_eq limits blank formula.assign formula.command, h.foldSigns_around,
    Text.glued_around h.ne_nil fun d hd => (h.plain d hd).1]

/-- **One occurrence** of a name can give way to the numeral of its value in brackets. -/
theorem result_numeral (letters : name.isName = true) (bound : store.get? name = some v)
    {s t : Text} (front : Text.Apart s name) (behind : Text.Apart name t)
    (formula : Text.IsFormula (s ++ (name ++ t))) (limits : Limits) :
    store.result limits (s ++ (Text.bracketed (Decimal.ofInt v) ++ t))
      = store.result limits (s ++ (name ++ t)) := by
  have word := Text.selfContained_of_isName letters
  have numeral := Text.selfContained_bracketed_ofInt v
  have named {s t : Text} (front : Text.Apart s name) (behind : Text.Apart name t) :
      Text.tokens (s ++ (name ++ t)) = s.tokens ++ .name name :: t.tokens := by
    rw [(front.append_right word.ne_nil t).tokens, behind.tokens, (of_isName letters).2.1]
    rfl
  have numbered (s t : Text) : Text.tokens (s ++ (Text.bracketed (Decimal.ofInt v) ++ t))
      = s.tokens ++ (Token.bracketed (Token.numeral v) ++ t.tokens) := by
    have front := Text.apart_bracketed_right s (Decimal.ofInt v)
    rw [(front.append_right numeral.ne_nil t).tokens, Text.tokens_bracketed, Text.tokens_ofInt]
  have brackets : Token.brackets (s.tokens ++ (Token.bracketed (Token.numeral v) ++ t.tokens))
      = Token.brackets s.tokens ++ .opening :: .closing :: Token.brackets t.tokens := by
    rw [Token.brackets_append, Token.brackets_append]
    cases v <;> rfl
  have balance : Bracket.balanced
        (Token.brackets (s.tokens ++ (Token.bracketed (Token.numeral v) ++ t.tokens)))
      = Bracket.balanced (Token.brackets (s.tokens ++ .name name :: t.tokens)) := by
    rw [brackets, Token.brackets_append, Bracket.balanced, Bracket.balanced, Bracket.depth?_append,
      Bracket.depth?_append]
    rfl
  rw [result_of_selfContained word formula,
    result_of_selfContained numeral (formula.replace numeral), numbered, numbered,
    named front behind, named front.foldSigns_left behind.foldSigns_right, balance,
    calculate_numeral bound]

/-- All occurrences behind a text `s` that has been gone through, one run after the other. -/
theorem result_append_replaceName (letters : name.isName = true)
    (bound : store.get? name = some v) (limits : Limits) :
    ∀ (us : List Text) (s t : Text), Text.runs Text.sameUnit t = us → Text.Apart s t →
      Text.IsFormula (s ++ t) →
      store.result limits (s ++ t.replaceName name (Text.bracketed (Decimal.ofInt v)))
        = store.result limits (s ++ t) := by
  intro us
  induction us with
  | nil =>
    intro s t cut _ _
    have empty : t = [] := by
      rw [← Text.flatten_runs Text.sameUnit t, cut]
      rfl
    rw [empty]
    rfl
  | cons u us ih =>
    intro s t cut front formula
    have ne : u ≠ [] := Text.ne_nil_of_mem_runs (by rw [cut]; exact List.mem_cons_self ..)
    obtain ⟨t', rfl, cut', behind⟩ := Text.exists_of_runs_eq_cons cut
    rw [Text.replaceName, cut, List.flatMap_cons, ← cut', ← Text.replaceName]
    by_cases here : u = name
    · subst here
      have front' : Text.Apart s u := by
        obtain ⟨c, r, rfl⟩ := List.exists_cons_of_ne_nil ne
        exact front
      have formula' := formula.replace (Text.selfContained_bracketed_ofInt v)
      rw [← List.append_assoc] at formula'
      rw [if_pos rfl, ← result_numeral letters bound front' behind formula limits,
        ← List.append_assoc, ← List.append_assoc]
      exact ih _ t' cut'
        ((Text.apart_bracketed_left _ t').append_left (List.cons_ne_nil _ _) s) formula'
    · rw [← List.append_assoc] at formula
      rw [if_neg here, ← List.append_assoc, ← List.append_assoc]
      exact ih _ t' cut' (Text.Apart.append_left behind ne s) formula

/-- **Variables stand for their values**: in a line that is neither an assignment nor a command, a
variable can be replaced everywhere by the numeral of its value in brackets. The line has the same
value, or is refused for the same cause, whether it is a sentence or not. -/
theorem result_replaceName (store : Store) (limits : Limits) {line name : Text} {v : Int}
    (assign : '=' ∉ line.trim) (command : line.trim.head? ≠ some '/')
    (letters : name.isName = true) (bound : store.get? name = some v) :
    store.result limits (line.replaceName name (Text.bracketed (Decimal.ofInt v)))
      = store.result limits line := by
  have formula : Text.IsFormula line := ⟨(Text.mem_trim_iff rfl).not.1 assign, command⟩
  exact result_append_replaceName letters bound limits _ [] line rfl (fun _ hc => by cases hc)
    formula

/-- A negative value, behind an operator and in front of a power. -/
theorem result_replaceName_negative :
    '=' ∉ Text.trim "2-x^2".toList ∧ (Text.trim "2-x^2".toList).head? ≠ some '/' ∧
      Text.isName ['x'] = true ∧ (empty.bind ['x'] (-3)).get? ['x'] = some (-3) ∧
      Text.replaceName "2-x^2".toList ['x'] (Text.bracketed (Decimal.ofInt (-3)))
        = "2-(-3)^2".toList ∧
      (empty.bind ['x'] (-3)).result .standard
          (Text.replaceName "2-x^2".toList ['x'] (Text.bracketed (Decimal.ofInt (-3))))
        = (empty.bind ['x'] (-3)).result .standard "2-x^2".toList :=
  ⟨by decide, by decide, by decide, by decide, by decide,
    result_replaceName _ _ (by decide) (by decide) (by decide) (by decide)⟩

end Store

end Abacus
