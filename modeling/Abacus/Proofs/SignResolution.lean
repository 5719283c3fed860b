import Abacus.Proofs.Expression
import Abacus.Signs

/-!
# Signs worked off

What the pass over the signs in front of operands makes of a list of tokens.

- **Closing brackets** (`send_closing_cases`): whether a bracket ends a negated group with it.
- **Of a sentence** (`resolveSigns_tokens`): the tokens of the expression that it is read as. The
  pass may be at any depth, inside any negated groups, as long as these are open.
- **One token** (`Signs.Step`, `Signs.step_spec`): the four ways in which a token is taken in. What
  the pass does to depths, groups and numbers is read off these.
- **In brackets** (`resolveSigns_bracketed`, `resolveSigns_negated`): tokens that close the brackets
  they open are treated between brackets as they are on their own. Nothing else is asked of them;
  what carries this over is that the pass at a greater depth is the pass at depth zero with its
  depths moved (`Signs.under`).
-/

namespace Abacus

namespace Signs

/-! ### Closing brackets -/

/-- A closing bracket is sent out once, or twice if it ends the innermost negated group. -/
theorem send_closing_cases (σ : Signs) :
    (∀ own, σ.groups ≠ σ.depth :: own) ∧ σ.send .closing
        = ([.closing], { σ with operandDue := false, pending := none, depth := σ.depth - 1 }) ∨
      ∃ own, σ.groups = σ.depth :: own ∧
        σ.send .closing = ([.closing, .closing], ⟨false, none, σ.depth - 1, own⟩) := by
  obtain ⟨due, pending, d, groups⟩ := σ
  cases groups with
  | nil => exact .inl ⟨fun own => (List.cons_ne_nil d own).symm, rfl⟩
  | cons g own =>
    by_cases here : g = d
    · exact .inr ⟨own, by rw [here], by simp [send, here]⟩
    · exact .inl ⟨fun _ same => here (List.cons.inj same).1, by simp [send, here]⟩

section Closing

variable {d : Nat} {groups : List Nat}

/-- A bracket inside of all groups that are open ends none of them. -/
theorem step_closing (hg : ∀ g ∈ groups, g ≤ d) :
    step ⟨false, none, d + 1, groups⟩ .closing = ([.closing], ⟨false, none, d, groups⟩) := by
  rcases send_closing_cases ⟨false, none, d + 1, groups⟩ with ⟨-, sent⟩ | ⟨own, first, -⟩
  · exact sent
  · obtain rfl : groups = (d + 1) :: own := first
    exact absurd (hg (d + 1) (List.mem_cons_self ..)) (Nat.not_succ_le_self d)

theorem step_closing_group :
    step ⟨false, none, d + 1, (d + 1) :: groups⟩ .closing
      = ([.closing, .closing], ⟨false, none, d, groups⟩) := by
  simp [step, send]

end Closing

/-! ### Sentences -/

/-- A run of signs is read as one sign. -/
theorem run_signs {γ : Type} (d : Nat) (groups : List Nat) (rest : List Token) :
    ∀ (signs : List (Mark γ)) (pending : Option Bool),
      ∃ pending', run ⟨true, pending, d, groups⟩ (signs.map (fun m => .op m.op) ++ rest)
          = run ⟨true, pending', d, groups⟩ rest ∧
        pending'.getD false = (pending.getD false ^^ decide (minuses signs % 2 = 1))
  | [], pending => ⟨pending, rfl, by simp [minuses]⟩
  | m :: signs, pending => by
    have sign : sign? (.op m.op) = some m.negative := by
      cases h : m.negative <;> simp [Mark.op, h, sign?]
    have read : step ⟨true, pending, d, groups⟩ (.op m.op)
        = ([], ⟨true, some (pending.getD false ^^ m.negative), d, groups⟩) := by
      cases pending <;> simp [step, sign]
    obtain ⟨pending', hrun, hp⟩ :=
      run_signs d groups rest signs (some (pending.getD false ^^ m.negative))
    refine ⟨pending', ?_, ?_⟩
    · rw [List.map_cons, List.cons_append, run, read]
      exact hrun
    · rw [hp, Option.getD_some, Bool.xor_assoc]
      congr 1
      have count : minuses (m :: signs) = minuses signs + if m.negative then 1 else 0 :=
        List.countP_cons
      rw [count]
      by_cases odd : minuses signs % 2 = 1 <;> cases m.negative <;> simp [odd] <;> omega

section Sentences

variable {γ α : Type} (f : α → Int)

mutual

/-- The pass over an atom behind a run of signs, at any depth and in any groups that are open. -/
theorem run_atom {d : Nat} {groups : List Nat} (hg : ∀ g ∈ groups, g ≤ d) (rest : List Token)
    {pending : Option Bool} {m : Nat} (hm : pending.getD false = decide (m % 2 = 1)) :
    ∀ a : Atom γ α, run ⟨true, pending, d, groups⟩ (laidTokens (Token.numberOf f) a.laid ++ rest)
      = (a.expr m).resolved f ++ run ⟨false, none, d, groups⟩ rest
  | .word _ a => by
    have read : step ⟨true, pending, d, groups⟩ (.number (f a))
        = ([.number ((-1) ^ m * f a)], ⟨false, none, d, groups⟩) := by
      by_cases odd : m % 2 = 1
      · have negative : pending = some true := by
          cases pending <;> simp_all
        rw [Expr.signed_of_odd odd, negative]
        rfl
      · rw [Expr.signed_of_even odd]
        match pending, hm with
        | none, _ => rfl
        | some false, _ => rfl
        | some true, hm => simp [odd] at hm
    show run ⟨true, pending, d, groups⟩ (.number (f a) :: rest) = _
    rw [run, read]
    rfl
  | .group g x g' => by
    have inner : laidTokens (Token.numberOf f) (Atom.group g x g').laid ++ rest
        = .opening :: (laidTokens (Token.numberOf f) x.laid ++ (.closing :: rest)) := by
      simp [Atom.laid, Lexeme.token]
    rw [inner]
    by_cases odd : m % 2 = 1
    · have negative : pending = some true := by
        cases pending <;> simp_all
      have hg' : ∀ g ∈ (d + 1) :: groups, g ≤ d + 1 :=
        List.forall_mem_cons.2 ⟨Nat.le_refl _, fun g h => Nat.le_succ_of_le (hg g h)⟩
      show run ⟨true, pending, d, groups⟩ (.opening :: _) = (Expr.group m x.expr).resolved f ++ _
      rw [negative, run]
      show .opening :: .number (-1) :: .op .times :: .opening ::
        run ⟨true, none, d + 1, (d + 1) :: groups⟩ _ = _
      rw [run_laid hg' (.closing :: rest) x, run, step_closing_group, Expr.resolved, if_pos odd]
      simp
    · have hg' : ∀ g ∈ groups, g ≤ d + 1 := fun g h => Nat.le_succ_of_le (hg g h)
      have open_ : step ⟨true, pending, d, groups⟩ .opening
          = ([.opening], ⟨true, none, d + 1, groups⟩) := by
        match pending, hm with
        | none, _ => rfl
        | some false, _ => rfl
        | some true, hm => simp [odd] at hm
      show run ⟨true, pending, d, groups⟩ (.opening :: _) = (Expr.group m x.expr).resolved f ++ _
      rw [run, open_]
      show .opening :: run ⟨true, none, d + 1, groups⟩ _ = _
      rw [run_laid hg' (.closing :: rest) x, run, step_closing hg, Expr.resolved, if_neg odd]
      simp

/-- The pass over a sentence, at any depth and in any groups that are open. -/
theorem run_laid {d : Nat} {groups : List Nat} (hg : ∀ g ∈ groups, g ≤ d) (rest : List Token) :
    ∀ x : Sentence γ α, run ⟨true, none, d, groups⟩ (laidTokens (Token.numberOf f) x.laid ++ rest)
      = x.expr.resolved f ++ run ⟨false, none, d, groups⟩ rest
  | .operand signs a => by
    rw [Sentence.laid, laidTokens_append, laidTokens_signs, List.append_assoc]
    obtain ⟨pending, hrun, hm⟩ :=
      run_signs d groups (laidTokens (Token.numberOf f) a.laid ++ rest) signs none
    rw [hrun]
    exact run_atom hg rest (by simpa using hm) a
  | .binary x g o signs a => by
    rw [Sentence.laid, laidTokens_append, laidTokens_cons, laidTokens_append, laidTokens_signs,
      List.append_assoc, run_laid hg _ x]
    show _ ++ (.op o :: run ⟨true, none, d, groups⟩ (_ ++ _ ++ rest)) = _
    rw [List.append_assoc]
    obtain ⟨pending, hrun, hm⟩ :=
      run_signs d groups (laidTokens (Token.numberOf f) a.laid ++ rest) signs none
    have operand := run_atom (m := minuses signs) hg rest (by simpa using hm) a
    rw [hrun, operand, Sentence.expr, Expr.resolved_attach]
    simp

end

end Sentences

end Signs

/-- **Signs of a sentence**: with its signs worked off, a sentence is the tokens of the expression
that it is read as. -/
theorem Token.resolveSigns_tokens {γ α : Type} (f : α → Int) (x : Sentence γ α) :
    resolveSigns (x.tokens (numberOf f)) = x.expr.resolved f := by
  have pass := Signs.run_laid f (List.forall_mem_nil (· ≤ 0)) [] x
  rw [List.append_nil] at pass
  rw [resolveSigns, Sentence.tokens]
  exact pass.trans (List.append_nil _)

/-! ### What a step can do -/

namespace Signs

/-- The ways in which the pass takes in a token: what it sends out for it, and what it remembers. -/
inductive Step (σ : Signs) : Token → List Token → Signs → Prop
  /-- A sign in front of an operand is kept for later. -/
  | sign {o : Operator} (sign : o.isSign = true) (negative : Bool) (due : σ.operandDue = true) :
      Step σ (.op o) [] { σ with pending := some negative }
  /-- A token is sent out as it is, behind the operator that a run of signs is left as. -/
  | token (t : Token) (front : Option Bool) :
      Step σ t ((front.map signOp).toList ++ (σ.send t).1) (σ.send t).2
  /-- A number takes on the minus sign in front of it. -/
  | number (n : Int) :
      Step σ (.number n) [.number (-n)] { σ with operandDue := false, pending := none }
  /-- A bracket with a minus sign in front of it opens a negated group. -/
  | group :
      Step σ .opening [.opening, .number (-1), .op .times, .opening]
        ⟨true, none, σ.depth + 1, (σ.depth + 1) :: σ.groups⟩

theorem exists_of_sign? {t : Token} {negative : Bool} (h : sign? t = some negative) :
    ∃ o : Operator, t = .op o ∧ o.isSign = true := by
  unfold sign? at h
  split at h
  · exact ⟨.minus, rfl, rfl⟩
  · exact ⟨.plus, rfl, rfl⟩
  · cases h

theorem resolve_spec (σ : Signs) (negative : Bool) (t : Token) :
    Step σ t (σ.resolve negative t).1 (σ.resolve negative t).2 := by
  cases t with
  | number n =>
    cases negative with
    | false => exact .token (.number n) none
    | true => exact .number n
  | opening =>
    cases negative with
    | false => exact .token .opening none
    | true => exact .group
  | op o => exact .token (.op o) (some negative)
  | closing => exact .token .closing (some negative)
  | name s => exact .token (.name s) (some negative)
  | unknown s => exact .token (.unknown s) (some negative)

theorem step_spec (σ : Signs) (t : Token) : Step σ t (σ.step t).1 (σ.step t).2 := by
  unfold step
  by_cases due : σ.operandDue = true
  · rw [if_pos due]
    cases read : sign? t with
    | some negative =>
      obtain ⟨o, rfl, sign⟩ := exists_of_sign? read
      cases σ.pending with
      | none => exact .sign sign negative due
      | some before => exact .sign sign (before ^^ negative) due
    | none =>
      cases σ.pending with
      | none => exact .token t none
      | some negative => exact resolve_spec σ negative t
  · rw [if_neg due]
    cases σ.pending with
    | none => exact .token t none
    | some negative => exact resolve_spec σ negative t

end Signs

/-! ### Tokens in brackets -/

namespace Signs

/-- The state after some tokens. -/
def after (σ : Signs) (ts : List Token) : Signs :=
  ts.foldl (fun σ t => (σ.step t).2) σ

/-- What is sent out for some tokens when a run of signs at their end is kept. -/
def sent (σ : Signs) : List Token → List Token
  | [] => []
  | t :: ts => (σ.step t).1 ++ sent (σ.step t).2 ts

/-- What a run of signs that is kept amounts to when no operand comes after it. -/
def orphan (σ : Signs) : List Token :=
  (σ.pending.map signOp).toList

theorem run_append (us : List Token) :
    ∀ (ts : List Token) (σ : Signs), σ.run (ts ++ us) = σ.sent ts ++ (σ.after ts).run us
  | [], _ => rfl
  | t :: ts, σ => by
    show (σ.step t).1 ++ run (σ.step t).2 (ts ++ us) = _
    rw [run_append us ts, sent, List.append_assoc]
    rfl

theorem run_eq_sent (σ : Signs) (ts : List Token) :
    σ.run ts = σ.sent ts ++ (σ.after ts).orphan := by
  have := run_append [] ts σ
  rwa [List.append_nil] at this

/-- The state of the pass when it goes on inside `k` brackets, some of them negated groups. -/
def under (k : Nat) (groups : List Nat) (σ : Signs) : Signs :=
  { σ with depth := σ.depth + k, groups := σ.groups.map (· + k) ++ groups }

theorem send_under {k : Nat} {groups : List Nat} (hg : ∀ g ∈ groups, g ≤ k) {σ : Signs}
    {t : Token} (ht : t = .closing → 0 < σ.depth) :
    (σ.under k groups).send t = ((σ.send t).1, (σ.send t).2.under k groups) := by
  cases t with
  | opening => simp [send, under, Nat.add_right_comm]
  | closing =>
    have open_ : 0 < σ.depth := ht rfl
    obtain ⟨due, pending, d, own⟩ := σ
    have depth : d + k - 1 = d - 1 + k := Nat.sub_add_comm open_
    cases own with
    | nil =>
      cases groups with
      | nil => simp [send, under, depth]
      | cons g groups =>
        have apart : ¬ g = d + k := by
          have := hg g (List.mem_cons_self ..)
          have : 0 < d := open_
          omega
        simp [send, under, depth, apart]
    | cons g own =>
      by_cases here : g = d
      · simp [send, under, depth, here]
      · simp [send, under, depth, here]
  | _ => rfl

/-- A step that closes no bracket in front of it is the same inside other brackets. -/
theorem step_under {k : Nat} {groups : List Nat} (hg : ∀ g ∈ groups, g ≤ k) {σ : Signs}
    {t : Token} (ht : t = .closing → 0 < σ.depth) :
    (σ.under k groups).step t = ((σ.step t).1, (σ.step t).2.under k groups) := by
  have hsend := send_under hg ht
  have due : (σ.under k groups).operandDue = σ.operandDue := rfl
  have pending : (σ.under k groups).pending = σ.pending := rfl
  unfold step
  rw [due, pending]
  split
  · rfl
  · rfl
  · next negative _ _ =>
    cases t with
    | opening => cases negative <;> simp [resolve, send, under, Nat.add_right_comm]
    | number n => rfl
    | _ => simp only [resolve, hsend]
  · exact hsend

/-- The depth after a token. -/
def deeper (d : Nat) : Token → Nat
  | .opening => d + 1
  | .closing => d - 1
  | _ => d

theorem depth_send (σ : Signs) (t : Token) : (σ.send t).2.depth = deeper σ.depth t := by
  cases t with
  | closing => rcases σ.send_closing_cases with ⟨-, sent⟩ | ⟨own, -, sent⟩ <;> rw [sent] <;> rfl
  | _ => rfl

/-- How the depth changes is for the brackets alone to say. -/
theorem Step.depth {σ σ' : Signs} {t : Token} {ts : List Token} (h : Step σ t ts σ') :
    σ'.depth = deeper σ.depth t := by
  cases h with
  | sign => rfl
  | token t front => exact depth_send σ t
  | number n => rfl
  | group => rfl

/-- Tokens that close no bracket in front of them are treated inside brackets as they are on their
own, and leave the depth that their brackets say. -/
theorem sent_under {k : Nat} {groups : List Nat} (hg : ∀ g ∈ groups, g ≤ k) {e : Nat} :
    ∀ (ts : List Token) (σ : Signs), Bracket.depth? σ.depth (Token.brackets ts) = some e →
      (σ.under k groups).sent ts = σ.sent ts ∧
        (σ.under k groups).after ts = (σ.after ts).under k groups ∧ (σ.after ts).depth = e
  | [], _, h => ⟨rfl, rfl, Option.some.inj h⟩
  | t :: ts, σ, h => by
    -- the brackets of the tokens say that there is one to close
    have ht : t = .closing → 0 < σ.depth := by
      rintro rfl
      refine Nat.pos_of_ne_zero fun zero => ?_
      rw [zero] at h
      cases h
    have h' : Bracket.depth? (σ.step t).2.depth (Token.brackets ts) = some e := by
      rw [(step_spec σ t).depth]
      cases t with
      | closing =>
        obtain ⟨d, hd⟩ := Nat.exists_eq_succ_of_ne_zero (Nat.pos_iff_ne_zero.1 (ht rfl))
        rw [hd] at h ⊢
        exact h
      | _ => exact h
    obtain ⟨hsent, hafter, hdepth⟩ := sent_under hg ts (σ.step t).2 h'
    refine ⟨?_, ?_, hdepth⟩
    · rw [sent, step_under hg ht, hsent]
      rfl
    · show ((σ.under k groups).step t).2.after ts = _
      rw [step_under hg ht]
      exact hafter

/-- The negated groups that are open began one inside the other, and not outside all brackets. -/
def Nested (σ : Signs) : Prop :=
  List.Pairwise (· > ·) ((σ.depth + 1) :: (σ.groups ++ [0]))

theorem nested_init : Nested {} :=
  List.pairwise_pair.2 Nat.one_pos

theorem nested_send {σ : Signs} (h : σ.Nested) (t : Token) : (σ.send t).2.Nested := by
  obtain ⟨due, pending, d, groups⟩ := σ
  obtain ⟨below, chain⟩ := List.pairwise_cons.1 h
  cases t with
  | opening => exact List.pairwise_cons.2 ⟨fun g hg => Nat.lt_succ_of_lt (below g hg), chain⟩
  | closing =>
    cases groups with
    | nil => exact List.pairwise_cons.2 ⟨by simp [send], chain⟩
    | cons g groups =>
      obtain ⟨below', chain'⟩ := List.pairwise_cons.1 chain
      have first : g < d + 1 := below g (List.mem_cons_self ..)
      have positive : 0 < g := below' 0 (by simp)
      by_cases here : g = d
      · subst here
        simp only [send, if_pos]
        refine List.pairwise_cons.2 ⟨fun g' hg' => ?_, chain'⟩
        have := below' g' hg'
        show g' < g - 1 + 1
        omega
      · simp only [send, if_neg here]
        refine List.pairwise_cons.2 ⟨fun g' hg' => ?_, chain⟩
        show g' < d - 1 + 1
        rcases List.mem_cons.1 hg' with rfl | hg'
        · omega
        · have := below' g' hg'
          omega
  | _ => exact h

theorem Step.nested {σ σ' : Signs} {t : Token} {ts : List Token} (h : Step σ t ts σ')
    (hσ : σ.Nested) : σ'.Nested := by
  cases h with
  | sign => exact hσ
  | token t front => exact nested_send hσ t
  | number n => exact hσ
  | group =>
    -- the new group begins where the new bracket is, inside all that are open
    obtain ⟨below, -⟩ := List.pairwise_cons.1 hσ
    refine List.pairwise_cons.2 ⟨fun g hg => ?_, hσ⟩
    rcases List.mem_cons.1 hg with rfl | hg
    · exact Nat.lt_succ_self _
    · exact Nat.lt_succ_of_lt (below g hg)

theorem nested_after : ∀ (ts : List Token) {σ : Signs}, σ.Nested → (σ.after ts).Nested
  | [], _, h => h
  | t :: ts, _, h => nested_after ts ((step_spec _ t).nested h)

/-- No group is open deeper than the brackets are. -/
theorem le_depth_of_mem_groups {σ : Signs} (h : σ.Nested) : ∀ g ∈ σ.groups, g ≤ σ.depth := by
  intro g hg
  obtain ⟨below, -⟩ := List.pairwise_cons.1 h
  exact Nat.le_of_lt_succ (below g (List.mem_append_left [0] hg))

/-- No group is open where no bracket is. -/
theorem groups_eq_nil {σ : Signs} (h : σ.Nested) (depth : σ.depth = 0) : σ.groups = [] := by
  obtain ⟨below, chain⟩ := List.pairwise_cons.1 h
  cases hg : σ.groups with
  | nil => rfl
  | cons g own =>
    rw [hg] at below chain
    have positive : 0 < g := (List.pairwise_cons.1 chain).1 0 (by simp)
    have first : g < σ.depth + 1 := below g (List.mem_cons_self ..)
    omega

/-- The pass over tokens that close the brackets they open, inside one bracket more, up to the
closing of this bracket. -/
theorem run_under {ts : List Token} (balance : Bracket.balanced (Token.brackets ts) = true)
    (rest : List Token) :
    run ⟨true, none, 1, []⟩ (ts ++ .closing :: rest)
        = Token.resolveSigns ts ++ .closing :: run ⟨false, none, 0, []⟩ rest ∧
      run ⟨true, none, 1, [1]⟩ (ts ++ .closing :: rest)
        = Token.resolveSigns ts ++ .closing :: .closing :: run ⟨false, none, 0, []⟩ rest := by
  have balance' := of_decide_eq_true balance
  have outside : ((({} : Signs).after ts).groups) = [] :=
    groups_eq_nil (nested_after ts nested_init)
      (sent_under (k := 0) (List.forall_mem_nil _) ts {} balance').2.2
  have pass (groups : List Nat) (hg : ∀ g ∈ groups, g ≤ 1) :
      run ⟨true, none, 1, groups⟩ (ts ++ .closing :: rest)
        = ({} : Signs).sent ts
          ++ ((({} : Signs).after ts).under 1 groups).run (.closing :: rest) := by
    obtain ⟨hsent, hafter, -⟩ := sent_under hg ts {} balance'
    rw [← hsent, ← hafter]
    exact run_append _ ts (under 1 groups {})
  obtain ⟨-, -, depth⟩ := sent_under (k := 0) (List.forall_mem_nil _) ts {} balance'
  have alone : Token.resolveSigns ts = ({} : Signs).sent ts ++ (({} : Signs).after ts).orphan :=
    run_eq_sent {} ts
  -- inside and alone the tokens leave one state, in which no bracket and no group is open
  rw [pass [] (List.forall_mem_nil _), pass [1] (by simp), alone]
  generalize ({} : Signs).after ts = σ at depth outside
  obtain ⟨due, pending, d, own⟩ := σ
  obtain rfl : d = 0 := depth
  obtain rfl : own = [] := outside
  cases due <;> cases pending <;>
    simp [under, run, step, sign?, resolve, send, orphan]

end Signs

namespace Token

/-- Brackets around tokens that close the brackets they open leave the pass over these as it is. -/
theorem resolveSigns_bracketed {ts : List Token}
    (balance : Bracket.balanced (brackets ts) = true) (rest : List Token) :
    resolveSigns (.opening :: (ts ++ .closing :: rest))
      = .opening :: (resolveSigns ts ++ .closing :: Signs.run ⟨false, none, 0, []⟩ rest) :=
  congrArg (Token.opening :: ·) (Signs.run_under balance rest).1

/-- A minus sign in front of the brackets makes a negated group of them. -/
theorem resolveSigns_negated {ts : List Token}
    (balance : Bracket.balanced (brackets ts) = true) (rest : List Token) :
    resolveSigns (.op .minus :: .opening :: (ts ++ .closing :: rest))
      = .opening :: .number (-1) :: .op .times :: .opening ::
        (resolveSigns ts ++ .closing :: .closing :: Signs.run ⟨false, none, 0, []⟩ rest) :=
  congrArg ([Token.opening, .number (-1), .op .times, .opening] ++ ·)
    (Signs.run_under balance rest).2

end Token

end Abacus
