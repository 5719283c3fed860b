import Abacus.Postfix
import Abacus.Proofs.Expression

/-!
# Postfix forms

What the conversion to postfix form and the evaluation on a stack do, in several ways of looking at
them.

- **Of an expression** (`toPostfix_resolved`, `evaluate_postfixed`): the conversion of its tokens
  gives its postfix form, and the value of that is the value of the expression. The invariant of
  the conversion is `Yard.Pending`: what is held back since the expression began are operators that
  bind tightly enough to be sent out by whatever comes next.
- **Refusals** (`eq_of_toPostfix_eq_error`): tokens are refused a postfix form as an expression.
- **In brackets** (`foldlM_step_bracketed`, `foldlM_push_append`): tokens that have a postfix form
  have the same one between brackets, whatever is held back in front of them, and the stack below
  is not touched. Nothing is asked of the order of the tokens.
- **By counting** (`net_toPostfix`, `net_eq_one`): the conversion keeps the number of numbers less
  the number of operators, and an evaluation succeeds only where it is one.
-/

namespace Abacus

/-! ### The postfix form of an expression -/

namespace Yard

/-- Whether an operator of level `k` leaves alone what is held back. -/
def Waits (k : Nat) : List Held → Prop
  | .op p :: _ => p.level < k
  | _ => True

/-- What has been sent out once some operators, the last one first, are sent out too. -/
def flush (ops : List Operator) (sent : List Token) : List Token :=
  (ops.map Token.op).reverse ++ sent

theorem flush_cons (o : Operator) (ops : List Operator) (sent : List Token) :
    flush (o :: ops) sent = flush ops (.op o :: sent) := by
  simp [flush]

theorem flush_append (ops ops' : List Operator) (sent : List Token) :
    flush (ops ++ ops') sent = flush ops' (flush ops sent) := by
  simp [flush]

theorem release_op (o p : Operator) (sent : List Token) (held : List Held) :
    release o sent (.op p :: held)
      = if o.level ≤ p.level then release o (.op p :: sent) held else ⟨sent, .op p :: held⟩ := by
  rw [release, o.rank_eq_level, p.rank_eq_level]

theorem release_of_waits {o : Operator} (sent : List Token) :
    ∀ {held : List Held}, Waits o.level held → release o sent held = ⟨sent, held⟩
  | [], _ => rfl
  | .bracket :: _, _ => rfl
  | .op p :: held, h => (release_op o p sent held).trans (if_neg (Nat.not_le_of_lt h))

/-- An operator sends out all that binds at least as tightly. -/
theorem release_append {o : Operator} {held : List Held} (h : Waits o.level held) :
    ∀ {ops : List Operator} (sent : List Token), (∀ p ∈ ops, o.level ≤ p.level) →
      release o sent (ops.map .op ++ held) = ⟨flush ops sent, held⟩
  | [], sent, _ => release_of_waits sent h
  | p :: ops, sent, hp => by
    show release o sent (.op p :: (ops.map .op ++ held)) = _
    rw [release_op, if_pos (hp p (List.mem_cons_self ..)), flush_cons]
    exact release_append h _ fun q hq => hp q (List.mem_cons_of_mem p hq)

/-- A closing bracket sends out the operators above the bracket that it closes. -/
theorem close_append (held : List Held) :
    ∀ (ops : List Operator) (sent : List Token),
      close sent (ops.map .op ++ .bracket :: held) = .ok ⟨flush ops sent, held⟩
  | [], _ => rfl
  | p :: ops, sent => by
    rw [flush_cons]
    exact close_append held ops (.op p :: sent)

theorem finish_ops :
    ∀ (ops : List Operator) (sent : List Token),
      finish sent (ops.map .op) = .ok (flush ops sent).reverse
  | [], _ => rfl
  | p :: ops, sent => by
    rw [flush_cons]
    exact finish_ops ops (.op p :: sent)

/-- How far the conversion has come when it has read tokens whose postfix form is `ps`: what it
still holds back of them are operators of level `k` or more, and with these `ps` is complete. -/
def Pending (k : Nat) (ps sent : List Token) (held : List Held) (y : Yard) : Prop :=
  ∃ (ops : List Operator) (sent' : List Token), y = ⟨sent', ops.map .op ++ held⟩ ∧
    (∀ o ∈ ops, k ≤ o.level) ∧ flush ops sent' = ps.reverse ++ sent

/-- Tokens that are pending with nothing held back above a bracket are complete when the bracket is
closed. -/
theorem step_closing {k : Nat} {ps sent : List Token} {held : List Held} {y : Yard}
    (h : Pending k ps sent (.bracket :: held) y) :
    y.step .closing = .ok ⟨ps.reverse ++ sent, held⟩ := by
  obtain ⟨ops, sent', rfl, -, complete⟩ := h
  rw [← complete]
  exact close_append held ops sent'

/-- **Reading an expression**: after its tokens its postfix form is pending, whatever is held back
in front of it, as long as its operators leave that alone. -/
theorem foldlM_step_resolved {α : Type} (f : α → Int) :
    ∀ (e : Expr α) {k : Nat}, e.Layered k → ∀ (sent : List Token) (held : List Held),
      Waits k held → ∃ y, (e.resolved f).foldlM step ⟨sent, held⟩ = .ok y ∧
        Pending k (e.postfixed f) sent held y
  | .leaf m a, k, _, sent, held, _ =>
    ⟨⟨.number ((-1) ^ m * f a) :: sent, held⟩, rfl, [], _, rfl, nofun, rfl⟩
  | .group m e, k, h, sent, held, _ => by
    by_cases odd : m % 2 = 1
    · -- the inner bracket stands behind `-1 *`, and the outer one completes the product
      obtain ⟨y, run, pending⟩ := foldlM_step_resolved f e h (.number (-1) :: sent)
        (.bracket :: .op .times :: .bracket :: held) trivial
      refine ⟨⟨((Expr.group m e).postfixed f).reverse ++ sent, held⟩, ?_, [], _, rfl, nofun, rfl⟩
      rw [Expr.resolved, if_pos odd, Expr.postfixed, if_pos odd]
      show (e.resolved f ++ [Token.closing, .closing]).foldlM step
        ⟨.number (-1) :: sent, .bracket :: .op .times :: .bracket :: held⟩ = _
      rw [List.foldlM_append, run]
      show (y.step .closing).bind (fun y => [Token.closing].foldlM step y) = _
      rw [step_closing pending]
      show Except.ok
        (Yard.mk (.op .times :: ((e.postfixed f).reverse ++ .number (-1) :: sent)) held) = _
      simp
    · obtain ⟨y, run, pending⟩ :=
        foldlM_step_resolved f e h sent (.bracket :: held) trivial
      refine ⟨⟨((Expr.group m e).postfixed f).reverse ++ sent, held⟩, ?_, [], _, rfl, nofun, rfl⟩
      rw [Expr.resolved, if_neg odd, Expr.postfixed, if_neg odd]
      show (e.resolved f ++ [Token.closing]).foldlM step ⟨sent, .bracket :: held⟩ = _
      rw [List.foldlM_append, run]
      show (y.step .closing).bind (fun y => .ok y) = _
      rw [step_closing pending]
      rfl
  | .binary o l r, k, ⟨ho, hl, hr⟩, sent, held, waits => by
    have waits' : Waits o.level held := by
      cases held with
      | nil => trivial
      | cons t held =>
        cases t with
        | bracket => trivial
        | op p => exact Nat.lt_of_lt_of_le waits ho
    obtain ⟨-, run, ops, sent', rfl, tight, complete⟩ :=
      foldlM_step_resolved f l hl sent held waits'
    -- the operator sends out what is left of its left operand and is then held back itself
    have shift : step ⟨sent', ops.map .op ++ held⟩ (.op o)
        = .ok ⟨(l.postfixed f).reverse ++ sent, .op o :: held⟩ := by
      rw [step, release_append waits' sent' tight, complete]
    obtain ⟨-, run', ops', sent'', rfl, tight', complete'⟩ :=
      foldlM_step_resolved f r hr ((l.postfixed f).reverse ++ sent)
        (.op o :: held) (Nat.lt_succ_self _)
    refine ⟨⟨sent'', ops'.map .op ++ .op o :: held⟩, ?_, ops' ++ [o], sent'', by simp, ?_, ?_⟩
    · rw [Expr.resolved, List.foldlM_append, run]
      show (step ⟨sent', ops.map .op ++ held⟩ (.op o)).bind
        (fun y => (r.resolved f).foldlM step y) = _
      rw [shift]
      exact run'
    · -- what is left of the right operand binds more tightly than `o`
      intro p hp
      rcases List.mem_append.1 hp with hp | hp
      · exact Nat.le_trans ho (Nat.le_of_succ_le (tight' p hp))
      · exact List.mem_singleton.1 hp ▸ ho
    · rw [flush_append, complete']
      simp [flush, Expr.postfixed]

end Yard

namespace Token

/-- The conversion of the tokens of an expression gives its postfix form. -/
theorem toPostfix_resolved {α : Type} (f : α → Int) {e : Expr α} (h : e.Layered 0) :
    toPostfix (e.resolved f) = .ok (e.postfixed f) := by
  obtain ⟨-, run, ops, sent, rfl, -, complete⟩ :=
    Yard.foldlM_step_resolved f e h [] [] trivial
  rw [toPostfix, run]
  show Yard.finish sent (ops.map .op ++ []) = _
  rw [List.append_nil, Yard.finish_ops, complete, List.append_nil, List.reverse_reverse]

/-- An operator puts what comes of it in the place of its two operands. -/
theorem push_op (limits : Limits) (o : Operator) (a b : Int) (rest : List Int) :
    push limits (b :: a :: rest) (.op o) = (o.value limits a b).map (· :: rest) := by
  rw [push, o.apply_eq_value]

/-- The postfix form of an expression puts its value on the stack, or stops with its refusal. -/
theorem foldlM_push_postfixed {α : Type} (limits : Limits) (f : α → Int) :
    ∀ (e : Expr α) (stack : List Int), (e.postfixed f).foldlM (push limits) stack
      = (e.value limits f).map (· :: stack)
  | .leaf _ _, _ => rfl
  | .group m e, stack => by
    by_cases odd : m % 2 = 1
    · rw [Expr.postfixed, if_pos odd]
      show (e.postfixed f ++ [Token.op .times]).foldlM (push limits) (-1 :: stack) = _
      rw [List.foldlM_append, foldlM_push_postfixed limits f e, Expr.value]
      cases e.value limits f with
      | error _ => rfl
      | ok v =>
        show Except.ok (-1 * v :: stack) = Except.ok ((-1) ^ m * v :: stack)
        rw [Expr.signed_of_odd odd, neg_one_mul]
    · rw [Expr.postfixed, if_neg odd, foldlM_push_postfixed limits f e, Expr.value]
      cases e.value limits f with
      | error _ => rfl
      | ok v =>
        show Except.ok (v :: stack) = Except.ok ((-1) ^ m * v :: stack)
        rw [Expr.signed_of_even odd]
  | .binary o l r, stack => by
    rw [Expr.postfixed, List.foldlM_append, foldlM_push_postfixed limits f l, Expr.value]
    cases l.value limits f with
    | error _ => rfl
    | ok a =>
      show (r.postfixed f ++ [Token.op o]).foldlM (push limits) (a :: stack) = _
      rw [List.foldlM_append, foldlM_push_postfixed limits f r]
      show _ = Except.map _ ((r.value limits f).bind fun b => o.value limits a b)
      cases r.value limits f with
      | error _ => rfl
      | ok b =>
        show (push limits (b :: a :: stack) (.op o)).bind pure
          = (o.value limits a b).map (· :: stack)
        rw [push_op]
        cases o.value limits a b <;> rfl

/-- The value of the postfix form of an expression is that of the expression. -/
theorem evaluate_postfixed {α : Type} (limits : Limits) (f : α → Int) (e : Expr α) :
    evaluate limits (e.postfixed f) = e.value limits f := by
  rw [evaluate, foldlM_push_postfixed]
  cases e.value limits f <;> rfl

end Token

/-! ### Refusals of the conversion -/

namespace Yard

variable {e : Refusal}

theorem eq_of_close_eq_error :
    ∀ (held : List Held) (sent : List Token), close sent held = .error e → e = .invalidExpression
  | [], _, h => (Except.error.inj h).symm
  | .op p :: held, sent, h => eq_of_close_eq_error held (.op p :: sent) h

theorem eq_of_finish_eq_error :
    ∀ (held : List Held) (sent : List Token), finish sent held = .error e → e = .invalidExpression
  | .bracket :: _, _, h => (Except.error.inj h).symm
  | .op p :: held, sent, h => eq_of_finish_eq_error held (.op p :: sent) h

theorem eq_of_step_eq_error {y : Yard} {t : Token} (h : y.step t = .error e) :
    e = .invalidExpression := by
  cases t with
  | closing => exact eq_of_close_eq_error _ _ h
  | name s => exact (Except.error.inj h).symm
  | unknown s => exact (Except.error.inj h).symm
  | _ => cases h

theorem eq_of_foldlM_step_eq_error {ts : List Token} :
    ∀ {y : Yard}, ts.foldlM step y = .error e → e = .invalidExpression := by
  induction ts with
  | nil => nofun
  | cons t ts ih =>
    intro y h
    obtain stopped | ⟨z, -, later⟩ := bind_eq_error_iff.1 h
    · exact eq_of_step_eq_error stopped
    · exact ih later

end Yard

/-- The conversion refuses tokens for one cause only. -/
theorem Token.eq_of_toPostfix_eq_error {ts : List Token} {e : Refusal}
    (h : toPostfix ts = .error e) : e = .invalidExpression := by
  obtain stopped | ⟨y, -, unclosed⟩ := bind_eq_error_iff.1 h
  · exact Yard.eq_of_foldlM_step_eq_error stopped
  · exact Yard.eq_of_finish_eq_error _ _ unclosed

/-! ### Tokens in brackets -/

namespace Yard

/-- The state of a conversion that goes on inside a bracket, with what was sent out and held back
in front of the bracket below it. -/
def inside (sent : List Token) (held : List Held) (y : Yard) : Yard :=
  ⟨y.sent ++ sent, y.held ++ .bracket :: held⟩

theorem release_inside (o : Operator) (sent : List Token) (held : List Held) :
    ∀ (held' : List Held) (sent' : List Token),
      release o (sent' ++ sent) (held' ++ .bracket :: held)
        = (release o sent' held').inside sent held
  | [], _ => rfl
  | .bracket :: _, _ => rfl
  | .op p :: held', sent' => by
    show (if o.rank ≤ p.rank then release o (.op p :: (sent' ++ sent)) (held' ++ .bracket :: held)
      else _) = _
    rw [release]
    split
    · exact release_inside o sent held held' (.op p :: sent')
    · rfl

theorem close_inside {sent : List Token} {held : List Held} {y' : Yard} :
    ∀ (held' : List Held) (sent' : List Token), close sent' held' = .ok y' →
      close (sent' ++ sent) (held' ++ .bracket :: held) = .ok (y'.inside sent held)
  -- where no bracket is held back there is none to close, so that the induction starts at one
  | .bracket :: _, _, h => by
    cases h
    rfl
  | .op p :: held', sent', h => close_inside held' (.op p :: sent') h

/-- A step that succeeds does the same inside a bracket. -/
theorem step_inside {y y' : Yard} {t : Token} (sent : List Token) (held : List Held)
    (h : y.step t = .ok y') : (y.inside sent held).step t = .ok (y'.inside sent held) := by
  cases t with
  | number n =>
    cases h
    rfl
  | opening =>
    cases h
    rfl
  | closing => exact close_inside y.held y.sent h
  | op o =>
    cases h
    show Except.ok (Yard.mk _ (.op o :: (release o _ _).held)) = _
    simp only [inside, release_inside]
    rfl
  | name s => cases h
  | unknown s => cases h

theorem foldlM_step_inside {sent : List Token} {held : List Held} :
    ∀ {ts : List Token} {y y' : Yard}, ts.foldlM step y = .ok y' →
      ts.foldlM step (y.inside sent held) = .ok (y'.inside sent held)
  | [], _, _, h => by
    cases h
    rfl
  | t :: ts, y, y', h => by
    obtain ⟨z, hz, hy'⟩ := bind_eq_ok_iff.1 h
    exact bind_eq_ok_iff.2 ⟨_, step_inside sent held hz, foldlM_step_inside hy'⟩

theorem close_of_finish {sent : List Token} (held : List Held) {ps : List Token} :
    ∀ (held' : List Held) (sent' : List Token), finish sent' held' = .ok ps →
      close (sent' ++ sent) (held' ++ .bracket :: held) = .ok ⟨ps.reverse ++ sent, held⟩
  | [], sent', h => by
    cases h
    rw [List.reverse_reverse]
    rfl
  | .op p :: held', sent', h =>
    close_of_finish held held' (.op p :: sent') h

/-- **Brackets isolate**: tokens that have a postfix form on their own have the same one between
brackets, and nothing that is held back in front of the brackets is sent out. -/
theorem foldlM_step_bracketed {ts ps : List Token} (h : Token.toPostfix ts = .ok ps)
    (sent : List Token) (held : List Held) :
    (.opening :: (ts ++ [.closing])).foldlM step ⟨sent, held⟩
      = .ok ⟨ps.reverse ++ sent, held⟩ := by
  obtain ⟨y, run, finish⟩ := bind_eq_ok_iff.1 h
  show (ts ++ [Token.closing]).foldlM step (Yard.inside sent held {}) = _
  rw [List.foldlM_append, foldlM_step_inside run]
  show (close (y.sent ++ sent) (y.held ++ .bracket :: held)).bind Except.ok = _
  rw [close_of_finish held y.held y.sent finish]
  rfl

end Yard

namespace Token

/-- What a step of an evaluation can do: push a number, or put a result in the place of two
operands. -/
theorem push_cases {limits : Limits} {t : Token} {stack stack' : List Int}
    (h : push limits stack t = .ok stack') :
    (∃ n, t = .number n ∧ stack' = n :: stack) ∨
      ∃ o a b rest v, t = .op o ∧ stack = b :: a :: rest ∧ o.apply limits a b = .ok v ∧
        stack' = v :: rest := by
  cases t with
  | number n => exact .inl ⟨n, rfl, (Except.ok.inj h).symm⟩
  | op o =>
    match stack, h with
    | b :: a :: rest, h =>
      change (o.apply limits a b).map (· :: rest) = _ at h
      cases ho : o.apply limits a b with
      | error e =>
        rw [ho] at h
        cases h
      | ok v =>
        rw [ho] at h
        exact .inr ⟨o, a, b, rest, v, rfl, rfl, ho, (Except.ok.inj h).symm⟩
  | name s => cases h
  | opening => cases h
  | closing => cases h
  | unknown s => cases h

theorem push_append {limits : Limits} {t : Token} {stack stack' : List Int} (below : List Int)
    (h : push limits stack t = .ok stack') :
    push limits (stack ++ below) t = .ok (stack' ++ below) := by
  obtain ⟨n, rfl, rfl⟩ | ⟨o, a, b, rest, v, rfl, rfl, ho, rfl⟩ := push_cases h
  · rfl
  · show (o.apply limits a b).map (· :: (rest ++ below)) = _
    rw [ho]
    rfl

/-- An evaluation that succeeds does not touch the stack below it. -/
theorem foldlM_push_append {limits : Limits} (below : List Int) :
    ∀ {ts : List Token} {stack stack' : List Int},
      ts.foldlM (push limits) stack = .ok stack' →
        ts.foldlM (push limits) (stack ++ below) = .ok (stack' ++ below)
  | [], _, _, h => by
    cases h
    rfl
  | t :: ts, stack, stack', h => by
    obtain ⟨next, step, run⟩ := bind_eq_ok_iff.1 h
    rw [List.foldlM_cons, push_append below step]
    exact foldlM_push_append below run

/-- What an evaluation with a value does on any stack. -/
theorem foldlM_push_of_evaluate {limits : Limits} {ts : List Token} {v : Int}
    (h : evaluate limits ts = .ok v) (stack : List Int) :
    ts.foldlM (push limits) stack = .ok (v :: stack) := by
  unfold evaluate at h
  split at h
  · next run =>
    cases h
    exact foldlM_push_append stack run
  · cases h
  · cases h

/-! ### Counting numbers and operators -/

/-- What a token adds to the numbers on the stack. -/
def weight : Token → Int
  | .number _ => 1
  | .op _ => -1
  | _ => 0

/-- The number of numbers less the number of operators. -/
def net (ts : List Token) : Int :=
  (ts.map weight).sum

@[simp] theorem net_nil : net [] = 0 := rfl

@[simp] theorem net_cons (t : Token) (ts : List Token) : net (t :: ts) = t.weight + net ts :=
  List.sum_cons

@[simp] theorem net_append (ts us : List Token) : net (ts ++ us) = net ts + net us := by
  rw [net, List.map_append, List.sum_append]
  rfl

@[simp] theorem net_reverse (ts : List Token) : net ts.reverse = net ts := by
  rw [net, List.map_reverse, List.sum_reverse]
  rfl

/-- A step of an evaluation adds the weight of its token to the length of the stack. -/
theorem length_push {limits : Limits} {t : Token} {stack stack' : List Int}
    (h : push limits stack t = .ok stack') : (stack'.length : Int) = stack.length + t.weight := by
  obtain ⟨n, rfl, rfl⟩ | ⟨o, a, b, rest, v, rfl, rfl, -, rfl⟩ := push_cases h
  · rfl
  · simp only [List.length_cons, weight]
    omega

theorem length_foldlM_push {limits : Limits} :
    ∀ {ts : List Token} {stack stack' : List Int}, ts.foldlM (push limits) stack = .ok stack' →
      (stack'.length : Int) = stack.length + net ts
  | [], _, _, h => by
    cases h
    simp
  | t :: ts, stack, stack', h => by
    obtain ⟨next, step, run⟩ := bind_eq_ok_iff.1 h
    have first := length_push step
    have rest := length_foldlM_push run
    rw [net_cons]
    omega

/-- Tokens with a value have one number more than operators. -/
theorem net_eq_one {limits : Limits} {ts : List Token} {v : Int}
    (h : evaluate limits ts = .ok v) : net ts = 1 := by
  have := length_foldlM_push (foldlM_push_of_evaluate h [])
  simp at this
  omega

end Token

namespace Yard

/-- The weight of what is held back. -/
def heldNet : List Held → Int
  | [] => 0
  | .bracket :: held => heldNet held
  | .op _ :: held => heldNet held - 1

/-- The weight of all that a state has taken in. -/
def total (y : Yard) : Int :=
  Token.net y.sent + heldNet y.held

theorem total_release (o : Operator) :
    ∀ (held : List Held) (sent : List Token),
      (release o sent held).total = Token.net sent + heldNet held
  | [], _ => rfl
  | .bracket :: _, _ => rfl
  | .op p :: held, sent => by
    rw [release]
    split
    · rw [total_release o held, Token.net_cons, heldNet, Token.weight]
      omega
    · rfl

theorem total_close {y : Yard} :
    ∀ (held : List Held) (sent : List Token), close sent held = .ok y →
      y.total = Token.net sent + heldNet held
  | .bracket :: _, _, h => by
    cases h
    rfl
  | .op p :: held, sent, h => by
    have := total_close held (.op p :: sent) h
    rw [Token.net_cons, Token.weight] at this
    rw [heldNet]
    omega

/-- A step adds the weight of its token. -/
theorem total_step {y y' : Yard} {t : Token} (h : y.step t = .ok y') :
    y'.total = y.total + t.weight := by
  cases t with
  | number n =>
    cases h
    simp only [total, Token.net_cons]
    omega
  | opening =>
    cases h
    simp [total, heldNet, Token.weight]
  | closing =>
    rw [total_close y.held y.sent h]
    exact (Int.add_zero _).symm
  | op o =>
    cases h
    -- what the operator sends out has been counted among what was held back
    have := total_release o y.held y.sent
    simp only [total, heldNet, Token.weight] at this ⊢
    omega
  | name s => cases h
  | unknown s => cases h

theorem total_foldlM_step :
    ∀ {ts : List Token} {y y' : Yard}, ts.foldlM step y = .ok y' →
      y'.total = y.total + Token.net ts
  | [], _, _, h => by
    cases h
    simp
  | t :: ts, y, y', h => by
    obtain ⟨z, hz, hy'⟩ := bind_eq_ok_iff.1 h
    rw [total_foldlM_step hy', total_step hz, Token.net_cons, Int.add_assoc]

theorem net_finish {ps : List Token} :
    ∀ (held : List Held) (sent : List Token), finish sent held = .ok ps →
      Token.net ps = Token.net sent + heldNet held
  | [], _, h => by
    cases h
    simp [heldNet]
  | .op p :: held, sent, h => by
    have := net_finish held (.op p :: sent) h
    rw [Token.net_cons, Token.weight] at this
    rw [heldNet]
    omega

end Yard

/-- The conversion to postfix form loses and adds no number and no operator. -/
theorem Token.net_toPostfix {ts ps : List Token} (h : toPostfix ts = .ok ps) :
    net ps = net ts := by
  obtain ⟨y, run, finish⟩ := bind_eq_ok_iff.1 h
  have taken := Yard.total_foldlM_step run
  rw [Yard.net_finish y.held y.sent finish]
  simpa [Yard.total, Yard.heldNet] using taken

end Abacus
