import Abacus.Proofs.Line

/-!
# Accepted lines in brackets

A line that has a value can be put in brackets and calculated with, whatever it looks like: nothing
is asked of it but that it is accepted.

- **Postfix** (`Yard.Block`): tokens that send out the same, whatever was sent out and held back in
  front of them. A number is one, and so are brackets around anything that has a postfix form.
- **Tokens** (`Store.calculate_bracketed`, `Store.calculate_negated`, `Store.calculate_operation`):
  the value of tokens in brackets, negated, and as an operand.
- **Lines** (`Text.Passes`): the same of the text of a line. A text that gets past all tests still
  does when it is put in brackets, and when an operator is put in front of these.
-/

namespace Abacus

/-! ### Blocks -/

/-- Tokens in brackets. -/
def Token.bracketed (ts : List Token) : List Token :=
  .opening :: (ts ++ [.closing])

namespace Yard

/-- Whether tokens send out `ps` and leave nothing held back, whatever is in front of them. -/
def Block (ts ps : List Token) : Prop :=
  ∀ (sent : List Token) (held : List Held),
    ts.foldlM step ⟨sent, held⟩ = .ok ⟨ps.reverse ++ sent, held⟩

theorem block_number (n : Int) : Block [.number n] [.number n] :=
  fun _ _ => rfl

theorem block_bracketed {ts ps : List Token} (h : Token.toPostfix ts = .ok ps) :
    Block (Token.bracketed ts) ps :=
  foldlM_step_bracketed h

end Yard

namespace Token

open Yard (Block)

theorem toPostfix_of_block {ts ps : List Token} (h : Block ts ps) : toPostfix ts = .ok ps := by
  rw [toPostfix, h [] []]
  show Except.ok (ps.reverse ++ []).reverse = Except.ok ps
  rw [List.append_nil, List.reverse_reverse]

/-- An operator between two blocks comes behind both. -/
theorem toPostfix_operation {ts ps us qs : List Token} (hts : Block ts ps) (hus : Block us qs)
    (o : Operator) : toPostfix (ts ++ .op o :: us) = .ok (ps ++ (qs ++ [.op o])) := by
  have first : (ts ++ Token.op o :: us).foldlM Yard.step {}
      = us.foldlM Yard.step ⟨ps.reverse ++ [], [.op o]⟩ := by
    rw [List.foldlM_append, hts [] []]
    rfl
  rw [toPostfix, first, hus]
  show Except.ok (Token.op o :: (qs.reverse ++ (ps.reverse ++ []))).reverse = _
  simp

/-- Two values and an operator on the stack are the result of the operator. -/
theorem evaluate_operation {limits : Limits} {ps qs : List Token} {v w : Int}
    (hv : evaluate limits ps = .ok v) (hw : evaluate limits qs = .ok w) (o : Operator) :
    evaluate limits (ps ++ (qs ++ [.op o])) = o.apply limits v w := by
  have run : (ps ++ (qs ++ [Token.op o])).foldlM (push limits) []
      = (o.apply limits v w).map fun r => [r] := by
    rw [List.foldlM_append, foldlM_push_of_evaluate hv]
    show (qs ++ [Token.op o]).foldlM (push limits) [v] = _
    rw [List.foldlM_append, foldlM_push_of_evaluate hw]
    show ((o.apply limits v w).map (· :: [])).bind pure = _
    cases o.apply limits v w <;> rfl
  rw [evaluate, run]
  cases o.apply limits v w <;> rfl

theorem brackets_bracketed (ts : List Token) :
    brackets (bracketed ts) = .opening :: (brackets ts ++ [.closing]) := by
  show Bracket.opening :: brackets (ts ++ [.closing]) = _
  rw [brackets_append]
  rfl

/-- Brackets around what is balanced are balanced, and so is what follows them if it is. -/
theorem balanced_bracketed {ts us : List Token} (hts : Bracket.balanced (brackets ts) = true)
    (hus : Bracket.balanced (brackets us) = true) :
    Bracket.balanced (brackets (bracketed ts ++ us)) = true := by
  have inner : Bracket.depth? 1 (brackets ts) = some 1 :=
    Bracket.depth?_add (of_decide_eq_true hts) 1
  refine decide_eq_true ?_
  rw [brackets_append, brackets_bracketed, List.cons_append, List.append_assoc]
  show Bracket.depth? 1 (brackets ts ++ _) = _
  rw [Bracket.depth?_append, inner]
  exact of_decide_eq_true hus

end Token

/-! ### Tokens -/

namespace Store

open Token (bracketed)

variable {store : Store} {limits : Limits} {ts us : List Token} {v w : Int}

theorem map_valued_bracketed (store : Store) (ts : List Token) :
    (bracketed ts).map store.valued = bracketed (ts.map store.valued) := by
  show Token.opening :: (ts ++ [Token.closing]).map store.valued = _
  rw [List.map_append]
  rfl

theorem find?_bracketed (h : ts.find? store.isUnbound = none) :
    (bracketed ts).find? store.isUnbound = none := by
  show (ts ++ [Token.closing]).find? store.isUnbound = none
  rw [List.find?_append, h]
  rfl

theorem balanced_valued (h : Bracket.balanced (Token.brackets ts) = true) :
    Bracket.balanced (Token.brackets (ts.map store.valued)) = true := by
  rwa [brackets_valued]

theorem resolveSigns_bracketed_valued (hts : Bracket.balanced (Token.brackets ts) = true) :
    Token.resolveSigns ((bracketed ts).map store.valued)
      = bracketed (Token.resolveSigns (ts.map store.valued)) := by
  rw [map_valued_bracketed]
  exact Token.resolveSigns_bracketed (balanced_valued hts) []

/-- Brackets leave the value as it is. -/
theorem calculate_bracketed (hts : Bracket.balanced (Token.brackets ts) = true)
    (hv : store.calculate limits ts = .ok v) : store.calculate limits (bracketed ts) = .ok v := by
  obtain ⟨bound, ps, converted, evaluated⟩ := store.calculate_eq_ok_iff.1 hv
  refine store.calculate_eq_ok_iff.2 ⟨find?_bracketed bound, ps, ?_, evaluated⟩
  rw [resolveSigns_bracketed_valued hts]
  exact Token.toPostfix_of_block (Yard.block_bracketed converted)

/-- A minus sign in front of brackets negates the value. -/
theorem calculate_negated (hts : Bracket.balanced (Token.brackets ts) = true)
    (hv : store.calculate limits ts = .ok v) :
    store.calculate limits (.op .minus :: bracketed ts) = .ok (-v) := by
  obtain ⟨bound, ps, converted, evaluated⟩ := store.calculate_eq_ok_iff.1 hv
  have resolved : Token.resolveSigns ((.op .minus :: bracketed ts).map store.valued)
      = bracketed ([.number (-1)] ++ .op .times ::
          bracketed (Token.resolveSigns (ts.map store.valued))) := by
    show Token.resolveSigns (.op .minus :: (bracketed ts).map store.valued) = _
    rw [map_valued_bracketed, bracketed, Token.resolveSigns_negated (balanced_valued hts) []]
    simp [bracketed, Signs.run]
  -- the negated group is an operation between blocks in brackets, and so a block itself
  have product := Token.toPostfix_operation (Yard.block_number (-1))
    (Yard.block_bracketed converted) .times
  have value : Token.evaluate limits ([.number (-1)] ++ (ps ++ [.op .times])) = .ok (-v) := by
    rw [Token.evaluate_operation (v := -1) rfl evaluated]
    show Except.ok (-1 * v) = Except.ok (-v)
    rw [Int.neg_one_mul]
  refine store.calculate_eq_ok_iff.2 ⟨find?_bracketed bound, _, ?_, value⟩
  rw [resolved]
  exact Token.toPostfix_of_block (Yard.block_bracketed product)

/-- An operator between brackets is applied to the two values. -/
theorem calculate_operation (hts : Bracket.balanced (Token.brackets ts) = true)
    (hus : Bracket.balanced (Token.brackets us) = true) (hv : store.calculate limits ts = .ok v)
    (hw : store.calculate limits us = .ok w) (o : Operator) :
    store.calculate limits (bracketed ts ++ .op o :: bracketed us) = o.apply limits v w := by
  obtain ⟨bound, ps, converted, evaluated⟩ := store.calculate_eq_ok_iff.1 hv
  obtain ⟨bound', qs, converted', evaluated'⟩ := store.calculate_eq_ok_iff.1 hw
  have found : (bracketed ts ++ .op o :: bracketed us).find? store.isUnbound = none := by
    rw [List.find?_append, find?_bracketed bound]
    exact find?_bracketed bound'
  have resolved : Token.resolveSigns ((bracketed ts ++ .op o :: bracketed us).map store.valued)
      = bracketed (Token.resolveSigns (ts.map store.valued)) ++
          .op o :: bracketed (Token.resolveSigns (us.map store.valued)) := by
    have tokens : (bracketed ts ++ .op o :: bracketed us).map store.valued
        = .opening :: (ts.map store.valued ++
            .closing :: .op o :: (bracketed us).map store.valued) := by
      simp [bracketed, valued]
    rw [tokens, Token.resolveSigns_bracketed (balanced_valued hts)]
    -- behind the bracket an operator is due, and behind the operator signs start afresh
    show Token.opening :: (_ ++ .closing :: .op o ::
      Token.resolveSigns ((bracketed us).map store.valued)) = _
    rw [resolveSigns_bracketed_valued hus]
    simp [bracketed]
  rw [store.calculate_of_toPostfix limits found (resolved ▸ Token.toPostfix_operation
      (Yard.block_bracketed converted) (Yard.block_bracketed converted') o),
    Token.evaluate_operation evaluated evaluated']

end Store

/-! ### Lines -/

namespace Text

/-- A text in brackets. -/
def bracketed (s : Text) : Text :=
  '(' :: (s ++ [')'])

theorem tokens_bracketed (s t : Text) :
    tokens (bracketed s ++ t) = Token.bracketed (tokens s) ++ tokens t := by
  have split : bracketed s ++ t = '(' :: (s ++ ')' :: t) := by simp [bracketed]
  rw [split, tokens_cons (c := '(') rfl, tokens_append_cons (c := ')') rfl]
  simp [Token.bracketed]

theorem foldSigns_bracketed (s t : Text) :
    foldSigns (bracketed s ++ t) = bracketed (foldSigns s) ++ foldSigns t := by
  have split (s t : Text) : bracketed s ++ t = '(' :: (s ++ ')' :: t) := by simp [bracketed]
  rw [split, split, foldSigns_cons rfl, foldSigns_append_cons rfl]

theorem glued_bracketed (s t : Text) : glued (bracketed s ++ t) = (glued s || glued t) := by
  have split : bracketed s ++ t = [] ++ '(' :: (s ++ ')' :: t) := by simp [bracketed]
  rw [split, glued_append_cons rfl, glued_append_cons rfl]
  rfl

/-- A sign in front of a bracket has nothing to fold with. -/
theorem foldSigns_symbol_opening (o : Operator) (s : Text) :
    foldSigns (o.symbol :: '(' :: s) = o.symbol :: foldSigns ('(' :: s) := by
  have single : foldSigns [o.symbol] = [o.symbol] := by cases o <;> rfl
  have split := foldSigns_append_cons (c := '(') rfl [o.symbol] s
  rw [single, ← foldSigns_cons rfl] at split
  exact split

/-- A line that gets past all tests with these tokens. -/
structure Passes (s : Text) (ts : List Token) : Prop where
  assign : '=' ∉ s
  balance : Bracket.balanced (Token.brackets s.tokens) = true
  smooth : s.foldSigns.glued = false
  folded : s.foldSigns.tokens = ts

theorem Passes.nil : Passes [] [] :=
  ⟨nofun, rfl, rfl, rfl⟩

theorem Passes.bracketed {s t : Text} {ts us : List Token} (hs : Passes s ts) (ht : Passes t us) :
    Passes (s.bracketed ++ t) (Token.bracketed ts ++ us) where
  assign := by simp [Text.bracketed, hs.assign, ht.assign]
  balance := by
    rw [tokens_bracketed]
    exact Token.balanced_bracketed hs.balance ht.balance
  smooth := by
    rw [foldSigns_bracketed, glued_bracketed, hs.smooth, ht.smooth]
    rfl
  folded := by rw [foldSigns_bracketed, tokens_bracketed, hs.folded, ht.folded]

theorem Passes.bracketed_nil {s : Text} {ts : List Token} (hs : Passes s ts) :
    Passes s.bracketed (Token.bracketed ts) := by
  have := hs.bracketed .nil
  rwa [List.append_nil, List.append_nil] at this

theorem Passes.operator {s : Text} {ts : List Token} (hs : Passes s ts) (o : Operator) :
    Passes (o.symbol :: s.bracketed) (.op o :: Token.bracketed ts) where
  assign := by
    have other : '=' ≠ o.symbol := by cases o <;> decide
    simp [other, hs.bracketed_nil.assign]
  balance := by
    rw [tokens_cons (Token.ofSymbol?_symbol o)]
    exact hs.bracketed_nil.balance
  smooth := by
    have inner := hs.bracketed_nil.smooth
    rw [Text.bracketed, foldSigns_cons rfl] at inner
    rw [Text.bracketed, foldSigns_symbol_opening, foldSigns_cons rfl]
    show (isMultiplicative o.symbol && isMultiplicative '(' || glued ('(' :: _)) = false
    rw [inner]
    cases o <;> rfl
  folded := by
    have inner := hs.bracketed_nil.folded
    rw [Text.bracketed, foldSigns_symbol_opening, tokens_cons (Token.ofSymbol?_symbol o)]
    rw [Text.bracketed] at inner
    rw [inner]

end Text

namespace Store

variable {store : Store} {limits : Limits}

/-- A line that gets past all tests has the value of its tokens. -/
theorem result_of_passes {s : Text} {ts : List Token} (h : s.Passes ts) {t : Token}
    {us : List Token} (first : s.tokens = t :: us) (slash : t ≠ .op .over) :
    store.result limits s = (store.calculate limits ts).map some := by
  rw [store.result_of_tokens limits first slash h.assign, if_pos ⟨h.balance, h.smooth⟩, h.folded]

/-- An accepted line gets past all tests, with tokens that have its value. -/
theorem exists_passes {s : Text} {v : Int} (assign : '=' ∉ s)
    (accepted : store.result limits s = .ok (some v)) :
    ∃ ts, s.Passes ts ∧ Bracket.balanced (Token.brackets ts) = true ∧
      store.calculate limits ts = .ok v := by
  obtain ⟨balance, smooth, value⟩ := store.of_result_eq_some limits assign accepted
  refine ⟨s.foldSigns.tokens, ⟨assign, balance, smooth, rfl⟩, ?_, value⟩
  rwa [s.brackets_foldSigns]

/-- **Accepted lines in brackets**: they have the same value, a minus sign in front negates it, and
an operator between two of them gives exactly the result that it has on the two values. -/
theorem result_bracketed {a b : Text} {v w : Int} (ha : '=' ∉ a) (hb : '=' ∉ b)
    (hv : store.result limits a = .ok (some v)) (hw : store.result limits b = .ok (some w))
    (o : Operator) :
    store.result limits a.bracketed = .ok (some v) ∧
      store.result limits ('-' :: a.bracketed) = .ok (some (-v)) ∧
      store.result limits (a.bracketed ++ o.symbol :: b.bracketed)
        = (o.apply limits v w).map some := by
  obtain ⟨ts, pa, balance, value⟩ := exists_passes ha hv
  obtain ⟨us, pb, balance', value'⟩ := exists_passes hb hw
  refine ⟨?_, ?_, ?_⟩
  · rw [result_of_passes pa.bracketed_nil (Text.tokens_cons (c := '(') rfl _) nofun,
      calculate_bracketed balance value]
    rfl
  · have negated : store.result limits ('-' :: a.bracketed)
        = (store.calculate limits (.op .minus :: Token.bracketed ts)).map some :=
      result_of_passes (pa.operator .minus) (Text.tokens_cons (c := '-') rfl _) nofun
    rw [negated, calculate_negated balance value]
    rfl
  · rw [result_of_passes (pa.bracketed (pb.operator o)) (Text.tokens_cons (c := '(') rfl _) nofun,
      calculate_operation balance balance' value value' o]

/-- A bare name and a negative literal, both answered by shortcuts, in brackets. -/
theorem result_bracketed_shortcuts :
    (empty.bind ['x'] 7).result .standard (Text.bracketed ['x']) = .ok (some 7) ∧
      (empty.bind ['x'] 7).result .standard ('-' :: Text.bracketed ['x']) = .ok (some (-7)) ∧
      (empty.bind ['x'] 7).result .standard
          (Text.bracketed ['x'] ++ '/' :: Text.bracketed ['-', '2']) = .ok (some (-3)) :=
  result_bracketed (a := ['x']) (b := ['-', '2']) (v := 7) (w := -2) (by decide) (by decide)
    (by decide) (by decide) .over

end Store

end Abacus
