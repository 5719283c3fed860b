import Abacus.Proofs.Balance
import Mathlib.Data.List.Perm.Subperm

/-!
# What the conversion keeps

The conversion to postfix form moves operators behind their operands and drops brackets, and that is
all that it does, with tokens in whatever order. It neither loses nor doubles an operator that it
holds back, and it only ever sends out what it has taken in.

- **Steps** (`Yard.Moves`): what a step may send out, and what it leaves held back.
- **Kept** (`Yard.Keeps`): what has been sent out is the numbers taken in, in their order, and some
  of the operators; the rest of these is held back. In front of a number no more operators are sent
  out than were taken in there (`Token.Punctual`).
- **Conversion** (`Token.toPostfix_conserves`): which tokens have a postfix form, and what it has
  in common with them.
-/

namespace Abacus

namespace Token

/-- The operators of a list of tokens. -/
def operators (ts : List Token) : List Operator :=
  ts.filterMap fun
    | .op o => some o
    | _ => none

/-- Whether no operator is in front of a number too early: every number of the first list is a
number of the second, with the same numbers in front of it, and the operators in front of it are
among those that are in front of it there. -/
def Punctual (ps ts : List Token) : Prop :=
  ∀ front n back, ps = front ++ .number n :: back →
    ∃ front' back', ts = front' ++ .number n :: back' ∧ numbers front' = numbers front ∧
      (operators front).Subperm (operators front')

theorem operators_append (ts us : List Token) :
    operators (ts ++ us) = operators ts ++ operators us :=
  List.filterMap_append ..

theorem numbers_ops (os : List Operator) : numbers (os.map .op) = [] := by
  induction os with
  | nil => rfl
  | cons o os ih => exact ih

theorem operators_ops (os : List Operator) : operators (os.map .op) = os := by
  induction os with
  | nil => rfl
  | cons o os ih => exact congrArg (o :: ·) ih

variable {ps ts : List Token}

theorem Punctual.append_right (h : Punctual ps ts) (us : List Token) : Punctual ps (ts ++ us) := by
  intro front n back split
  obtain ⟨front', back', rfl, numbers, operators⟩ := h front n back split
  exact ⟨front', back' ++ us, List.append_assoc .., numbers, operators⟩

/-- What is sent out last is in front of no number. -/
theorem Punctual.concat {t : Token} (h : Punctual ps ts)
    (last : ∀ n, t = .number n → ∃ front' back', ts = front' ++ .number n :: back' ∧
      numbers front' = numbers ps ∧ (operators ps).Subperm (operators front')) :
    Punctual (ps ++ [t]) ts := by
  intro front n back split
  rcases List.eq_nil_or_concat back with rfl | ⟨back, u, rfl⟩
  · obtain ⟨rfl, here⟩ := List.append_inj' split rfl
    exact last n (List.head_eq_of_cons_eq here)
  · rw [List.concat_eq_append, ← List.cons_append, ← List.append_assoc] at split
    obtain ⟨earlier, -⟩ := List.append_inj' split rfl
    exact h front n back earlier

theorem Punctual.append_ops :
    ∀ {os : List Operator} {ps : List Token}, Punctual ps ts → Punctual (ps ++ os.map .op) ts
  | [], ps, h => (List.append_nil ps).symm ▸ h
  | o :: os, ps, h => by
    have first : Punctual (ps ++ [.op o]) ts := h.concat nofun
    have rest : Punctual (ps ++ [.op o] ++ os.map .op) ts := first.append_ops
    rwa [List.append_assoc] at rest

/-- A number is sent out in front of all that is taken in behind it. -/
theorem Punctual.append_number (h : Punctual ps ts) (numbers : numbers ps = numbers ts)
    (operators : (operators ps).Subperm (operators ts)) (n : Int) :
    Punctual (ps ++ [.number n]) (ts ++ [.number n]) := by
  refine (h.append_right [.number n]).concat fun m same => ?_
  cases same
  exact ⟨ts, [], rfl, numbers.symm, operators⟩

end Token

namespace Yard

open Token (numbers operators Punctual)

/-! ### Steps -/

/-- The ways in which the conversion takes in a token. -/
inductive Moves (y : Yard) : Token → Yard → Prop
  | number (n : Int) : Moves y (.number n) ⟨.number n :: y.sent, y.held⟩
  | opening : Moves y .opening ⟨y.sent, .bracket :: y.held⟩
  /-- The operators above the innermost open bracket are sent out. -/
  | closing {ops : List Operator} {held : List Held}
      (above : y.held = ops.map .op ++ .bracket :: held) : Moves y .closing ⟨flush ops y.sent, held⟩
  /-- Some of the operators on top are sent out. -/
  | op (o : Operator) {ops : List Operator} {held : List Held}
      (above : y.held = ops.map .op ++ held) : Moves y (.op o) ⟨flush ops y.sent, .op o :: held⟩

theorem exists_release (o : Operator) :
    ∀ (held : List Held) (sent : List Token), ∃ ops held', held = ops.map .op ++ held' ∧
      release o sent held = ⟨flush ops sent, held'⟩
  | [], _ => ⟨[], [], rfl, rfl⟩
  | .bracket :: held, _ => ⟨[], .bracket :: held, rfl, rfl⟩
  | .op top :: held, sent => by
    rw [release]
    split
    · obtain ⟨ops, held', rfl, released⟩ := exists_release o held (.op top :: sent)
      exact ⟨top :: ops, held', rfl, by rw [released, flush_cons]⟩
    · exact ⟨[], .op top :: held, rfl, rfl⟩

theorem of_close_eq_ok {y : Yard} :
    ∀ {held : List Held} {sent : List Token}, close sent held = .ok y →
      ∃ ops held', held = ops.map .op ++ .bracket :: held' ∧ y = ⟨flush ops sent, held'⟩
  | [], _, h => by cases h
  | .bracket :: held, _, h => ⟨[], held, rfl, (Except.ok.inj h).symm⟩
  | .op top :: held, sent, h => by
    have rest : close (.op top :: sent) held = .ok y := h
    obtain ⟨ops, held', rfl, rfl⟩ := of_close_eq_ok rest
    exact ⟨top :: ops, held', rfl, by rw [flush_cons]⟩

theorem of_finish_eq_ok {ps : List Token} :
    ∀ {held : List Held} {sent : List Token}, finish sent held = .ok ps →
      ∃ ops : List Operator, held = ops.map .op ∧ ps = (flush ops sent).reverse
  | [], _, h => ⟨[], rfl, (Except.ok.inj h).symm⟩
  | .bracket :: _, _, h => by cases h
  | .op top :: held, sent, h => by
    have rest : finish (.op top :: sent) held = .ok ps := h
    obtain ⟨ops, rfl, rfl⟩ := of_finish_eq_ok rest
    exact ⟨top :: ops, rfl, by rw [flush_cons]⟩

theorem moves_of_step {y y' : Yard} {t : Token} (h : y.step t = .ok y') : Moves y t y' := by
  cases t with
  | number n =>
    obtain rfl := Except.ok.inj h
    exact .number n
  | opening =>
    obtain rfl := Except.ok.inj h
    exact .opening
  | closing =>
    obtain ⟨ops, held, above, rfl⟩ := of_close_eq_ok h
    exact .closing above
  | op o =>
    obtain rfl := Except.ok.inj h
    obtain ⟨ops, held, above, released⟩ := exists_release o y.held y.sent
    rw [released]
    exact .op o above
  | name s => cases h
  | unknown s => cases h

/-! ### Kept -/

/-- The operators that are held back. -/
def heldOperators : List Held → List Operator
  | [] => []
  | .bracket :: held => heldOperators held
  | .op o :: held => o :: heldOperators held

theorem heldOperators_append (ops : List Operator) (held : List Held) :
    heldOperators (ops.map .op ++ held) = ops ++ heldOperators held := by
  induction ops with
  | nil => rfl
  | cons o ops ih => exact congrArg (o :: ·) ih

theorem reverse_flush (ops : List Operator) (sent : List Token) :
    (flush ops sent).reverse = sent.reverse ++ ops.map .op := by
  rw [flush, List.reverse_append, List.reverse_reverse]

/-- What the tokens taken in have in common with those sent out and those held back. -/
structure Keeps (y : Yard) (ts : List Token) : Prop where
  bracketless : .opening ∉ y.sent ∧ .closing ∉ y.sent
  numbers : numbers y.sent.reverse = numbers ts
  operators : (operators y.sent.reverse ++ heldOperators y.held).Perm (operators ts)
  punctual : Punctual y.sent.reverse ts

theorem Keeps.init : Keeps {} [] where
  bracketless := ⟨nofun, nofun⟩
  numbers := rfl
  operators := .refl _
  punctual := by
    intro front n back split
    cases front <;> cases split

theorem Keeps.subperm {y : Yard} {ts : List Token} (h : y.Keeps ts) :
    (Token.operators y.sent.reverse).Subperm (Token.operators ts) :=
  (List.sublist_append_left ..).subperm.trans h.operators.subperm

/-- Operators that are held back may be sent out at any time. -/
theorem Keeps.flush {ops : List Operator} {sent : List Token} {held : List Held} {ts : List Token}
    (h : Keeps ⟨sent, ops.map .op ++ held⟩ ts) : Keeps ⟨flush ops sent, held⟩ ts where
  bracketless := by
    obtain ⟨opening, closing⟩ := h.bracketless
    simp only [Yard.flush, List.mem_append, List.mem_reverse, List.mem_map, reduceCtorEq, and_false,
      exists_false, false_or]
    exact ⟨opening, closing⟩
  numbers := by
    rw [reverse_flush, Token.numbers_append, Token.numbers_ops, List.append_nil]
    exact h.numbers
  operators := by
    rw [reverse_flush, Token.operators_append, Token.operators_ops, List.append_assoc,
      ← heldOperators_append]
    exact h.operators
  punctual := by
    rw [reverse_flush]
    exact h.punctual.append_ops

variable {sent : List Token} {held : List Held} {ts : List Token}

theorem Keeps.number (h : Keeps ⟨sent, held⟩ ts) (n : Int) :
    Keeps ⟨.number n :: sent, held⟩ (ts ++ [.number n]) where
  bracketless := by
    obtain ⟨opening, closing⟩ := h.bracketless
    exact ⟨List.not_mem_cons_of_ne_of_not_mem nofun opening,
      List.not_mem_cons_of_ne_of_not_mem nofun closing⟩
  numbers := by
    rw [List.reverse_cons, Token.numbers_append, Token.numbers_append, h.numbers]
  operators := by
    have none : Token.operators [.number n] = [] := rfl
    rw [List.reverse_cons, Token.operators_append, Token.operators_append, none, List.append_nil,
      List.append_nil]
    exact h.operators
  punctual := by
    rw [List.reverse_cons]
    exact h.punctual.append_number h.numbers h.subperm n

theorem Keeps.op (h : Keeps ⟨sent, held⟩ ts) (o : Operator) :
    Keeps ⟨sent, .op o :: held⟩ (ts ++ [.op o]) where
  bracketless := h.bracketless
  numbers := by
    rw [Token.numbers_append, ← h.numbers]
    exact (List.append_nil _).symm
  operators := by
    rw [Token.operators_append]
    exact List.perm_middle.trans ((h.operators.cons o).trans (List.perm_append_singleton o _).symm)
  punctual := h.punctual.append_right _

/-- Brackets are neither numbers nor operators. -/
theorem Keeps.bracket (h : Keeps ⟨sent, held⟩ ts) {t : Token}
    (bracket : t = .opening ∨ t = .closing) (held' : List Held)
    (same : heldOperators held' = heldOperators held) :
    Keeps ⟨sent, held'⟩ (ts ++ [t]) where
  bracketless := h.bracketless
  numbers := by
    rw [Token.numbers_append, ← h.numbers]
    rcases bracket with rfl | rfl <;> exact (List.append_nil _).symm
  operators := by
    rw [Token.operators_append, same]
    rcases bracket with rfl | rfl <;> exact (List.append_nil _).symm ▸ h.operators
  punctual := h.punctual.append_right _

/-- **Step**: whatever token is taken in, nothing is lost, doubled or sent out early. -/
theorem Keeps.moves {y y' : Yard} {t : Token} (h : y.Keeps ts) (m : y.Moves t y') :
    y'.Keeps (ts ++ [t]) := by
  obtain ⟨sent, held⟩ := y
  cases m with
  | number n => exact h.number n
  | opening => exact h.bracket (.inl rfl) (.bracket :: held) rfl
  | closing above =>
    obtain rfl := above
    exact h.flush.bracket (.inr rfl) _ rfl
  | op o above =>
    obtain rfl := above
    exact h.flush.op o

/-- **Run**: the same of any tokens. -/
theorem Keeps.foldlM_step :
    ∀ {us ts : List Token} {y y' : Yard}, y.Keeps ts → us.foldlM step y = .ok y' →
      y'.Keeps (ts ++ us)
  | [], ts, _, _, h, run => by
    obtain rfl := Except.ok.inj run
    rwa [List.append_nil]
  | u :: us, ts, _, _, h, run => by
    obtain ⟨z, first, rest⟩ := bind_eq_ok_iff.1 run
    have later := (h.moves (moves_of_step first)).foldlM_step rest
    rwa [List.append_assoc] at later

end Yard

/-! ### Conversion -/

namespace Token

variable {ps ts : List Token}

/-- At the end nothing is held back any more. -/
theorem keeps_of_toPostfix (h : toPostfix ts = .ok ps) : Yard.Keeps ⟨ps.reverse, []⟩ ts := by
  obtain ⟨⟨sent, held⟩, run, finish⟩ := bind_eq_ok_iff.1 h
  obtain ⟨ops, rfl, rfl⟩ := Yard.of_finish_eq_ok finish
  have kept : Yard.Keeps ⟨sent, ops.map .op ++ []⟩ ts := by
    rw [List.append_nil]
    exact Yard.Keeps.init.foldlM_step run
  rw [List.reverse_reverse]
  exact kept.flush

theorem convertible_iff {t : Token} :
    t.convertible = true ↔ (∀ s, t ≠ .name s) ∧ ∀ s, t ≠ .unknown s := by
  cases t <;> simp [convertible]

theorem countP_opening (ts : List Token) :
    ts.countP (Bracket.ofToken? · == some .opening) = ts.count .opening :=
  List.countP_congr fun t _ => by cases t <;> simp [Bracket.ofToken?]

theorem countP_closing (ts : List Token) :
    ts.countP (Bracket.ofToken? · == some .closing) = ts.count .closing :=
  List.countP_congr fun t _ => by cases t <;> simp [Bracket.ofToken?]

/-- **Conversion**: tokens in any order have a postfix form if and only if none of them is a name or
unknown and the brackets among them are balanced, by counting; otherwise they are refused as an
invalid expression, and so is the text that they come from. The postfix form has no brackets, it has
the numbers in the same order and the same operators, each as often, and no operator is in front of
a number that was behind that number. -/
theorem toPostfix_conserves (ts : List Token) :
    ((∃ ps, toPostfix ts = .ok ps) ↔
        (∀ t ∈ ts, (∀ s, t ≠ .name s) ∧ ∀ s, t ≠ .unknown s) ∧
          (∀ front, front <+: ts → front.count .closing ≤ front.count .opening) ∧
          ts.count .opening = ts.count .closing) ∧
      ((∀ ps, toPostfix ts ≠ .ok ps) → toPostfix ts = .error .invalidExpression ∧
        ∀ (store : Store) (limits : Limits) (text : Text), store.resolve (scan text) = .ok ts →
          (store.evaluateSpaced limits text).outcome = .error .invalidExpression) ∧
      ∀ ps, toPostfix ts = .ok ps →
        (.opening ∉ ps ∧ .closing ∉ ps) ∧ numbers ps = numbers ts ∧
          (operators ps).Perm (operators ts) ∧ Punctual ps ts := by
  refine ⟨?_, ?_, ?_⟩
  · rw [exists_toPostfix_iff, brackets, Bracket.balanced_filterMap_iff]
    simp only [countP_opening, countP_closing, convertible_iff]
  · intro unconverted
    have refused : toPostfix ts = .error .invalidExpression := by
      rw [toPostfix_eq_error_iff, ← exists_toPostfix_iff, not_exists]
      exact unconverted
    refine ⟨refused, fun store limits text resolution => ?_⟩
    simp only [Store.evaluateSpaced, resolution, refused]
    rfl
  · intro ps converted
    have kept := keeps_of_toPostfix converted
    refine ⟨?_, ?_, ?_, ?_⟩
    · simpa using kept.bracketless
    · simpa using kept.numbers
    · simpa [Yard.heldOperators] using kept.operators
    · simpa using kept.punctual

/-- An operator in front of everything, one in front of a closing bracket and one behind everything;
and a bracket that is never closed. -/
theorem toPostfix_conserves_misplaced :
    let ts := scan "+ 1 ( 2 * 3 - ) 4 ^".toList
    let ps := scan "1 2 3 * - 4 ^ +".toList
    let unclosed : Text := "( 1".toList
    (toPostfix ts = .ok ps ∧ (.opening ∉ ps ∧ .closing ∉ ps) ∧ numbers ps = numbers ts ∧
        (operators ps).Perm (operators ts) ∧ Punctual ps ts) ∧
      toPostfix (scan unclosed) = .error .invalidExpression ∧
        Store.empty.resolve (scan unclosed) = .ok (scan unclosed) ∧
        (Store.empty.evaluateSpaced .standard unclosed).outcome = .error .invalidExpression := by
  intro ts ps unclosed
  have converted : toPostfix ts = .ok ps := by decide
  have resolution : Store.empty.resolve (scan unclosed) = .ok (scan unclosed) := by decide
  have unconverted : ∀ ps, toPostfix (scan unclosed) ≠ .ok ps := by
    intro ps h
    cases h
  obtain ⟨refused, text⟩ := (toPostfix_conserves (scan unclosed)).2.1 unconverted
  exact ⟨⟨converted, (toPostfix_conserves ts).2.2 ps converted⟩, refused, resolution,
    text .empty .standard unclosed resolution⟩

end Token

end Abacus
