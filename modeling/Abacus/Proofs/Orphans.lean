import Abacus.Proofs.Acceptance
import Abacus.Proofs.Balance

/-!
# Signs that are left over

The pass over the signs takes tokens in any order. Where an operand is due it works off a run of
signs if what comes next lets it: it folds the run into a number, and it opens a negated group at a
bracket. A run in front of anything else is left over as one sign, an orphan, for the stack to
refuse. So of the tokens that are sent out none is a sign that could still be worked off, and a
second pass leaves them as they are.

- **Steps** (`Signs.step_cases`): the three ways to take in a token, and when each of them is gone.
- **Orphans** (`Signs.WorkedOff`): no sign in front of an operand is left. Every run of the pass
  ends so (`Signs.workedOff_run`), whatever it has read before.
- **Fixed points** (`Signs.run_of_workedOff`): of such tokens the pass sends out what it reads, with
  one token of delay for the orphans.
- **Normal forms** (`Store.resolve_orphans`): both together, for any tokens whose names have values.
-/

namespace Abacus

namespace Token

/-- Whether an operand is due behind some tokens: at the start, behind an operator and behind an
opening bracket. -/
def OperandDue (front : List Token) : Prop :=
  ∀ t ∈ front.getLast?, t = .opening ∨ ∃ o, t = .op o

/-- Whether a sign in front of a token can be worked off: the token is a number, an opening bracket
or another sign. -/
def takesSign : Token → Bool
  | .number _ | .opening => true
  | .op o => o.isSign
  | .name _ | .closing | .unknown _ => false

end Token

namespace Signs

open Token (takesSign OperandDue)

variable {σ : Signs} {t : Token} {negative due : Bool}

/-! ### Steps -/

theorem eq_signOp_of_sign? (h : sign? t = some negative) : t = signOp negative := by
  unfold sign? at h
  split at h
  · cases h
    rfl
  · cases h
    rfl
  · cases h

theorem takesSign_of_sign? (h : sign? t = some negative) : t.takesSign = true := by
  obtain ⟨o, rfl, sign⟩ := exists_of_sign? h
  exact sign

theorem sign?_op_eq_none_iff {o : Operator} : sign? (.op o) = none ↔ o.isSign = false := by
  cases o <;> decide

/-- **Step**: where an operand is due a sign is kept; a run that is kept is worked off with the
token behind it; any other token is sent out. -/
theorem step_cases (settled : σ.Settled) (t : Token) :
    (σ.operandDue = true ∧ ∃ negative run, sign? t = some negative ∧
        (σ.pending = none → run = negative) ∧ σ.step t = ([], { σ with pending := some run })) ∨
      (σ.operandDue = true ∧ sign? t = none ∧
        ∃ negative, σ.pending = some negative ∧ σ.step t = σ.resolve negative t) ∨
      ((σ.operandDue = true → sign? t = none) ∧ σ.pending = none ∧ σ.step t = σ.send t) := by
  unfold step
  by_cases due : σ.operandDue = true
  · rw [if_pos due]
    cases read : sign? t with
    | some negative =>
      cases pending : σ.pending with
      | none => exact .inl ⟨due, negative, negative, rfl, fun _ => rfl, rfl⟩
      | some before => exact .inl ⟨due, negative, before ^^ negative, rfl, nofun, rfl⟩
    | none =>
      cases pending : σ.pending with
      | none => exact .inr (.inr ⟨fun _ => rfl, rfl, rfl⟩)
      | some negative => exact .inr (.inl ⟨due, rfl, negative, rfl, rfl⟩)
  · rw [if_neg due, settled (Bool.eq_false_iff.2 due)]
    exact .inr (.inr ⟨fun operand => absurd operand due, rfl, rfl⟩)

/-- What is sent out for a token begins with it, and nothing else in it is an operand or a sign. -/
theorem send_cases (σ : Signs) (t : Token) :
    (σ.send t).1 = [t] ∨ t = .closing ∧ (σ.send t).1 = [.closing, .closing] := by
  cases t with
  | closing =>
    rcases σ.send_closing_cases with ⟨-, once⟩ | ⟨own, -, twice⟩
    · exact .inl (by rw [once])
    · exact .inr ⟨rfl, by rw [twice]⟩
  | _ => exact .inl rfl

/-- A run of signs in front of a token that takes none is left over. -/
theorem resolve_of_takesSign_eq_false (h : t.takesSign = false) :
    σ.resolve negative t = (signOp negative :: (σ.send t).1, (σ.send t).2) := by
  cases t with
  | number n => cases h
  | opening => cases h
  | _ => rfl

/-! ### Orphans -/

/-- Whether no sign is left that could be worked off: no sign that stands where an operand is due
has a token behind it that takes a sign. -/
def WorkedOff (due : Bool) : List Token → Prop
  | [] => True
  | t :: ts =>
    (due = true → sign? t ≠ none → ∀ u ∈ ts.head?, u.takesSign = false) ∧
      WorkedOff (!t.endsOperand) ts

theorem workedOff_cons_of_not_sign {ts : List Token} (h : due = true → sign? t = none)
    (later : WorkedOff (!t.endsOperand) ts) : WorkedOff due (t :: ts) :=
  ⟨fun operand sign => absurd (h operand) sign, later⟩

theorem workedOff_send (h : due = true → sign? t = none) {rest : List Token}
    (later : WorkedOff (!t.endsOperand) rest) : WorkedOff due ((σ.send t).1 ++ rest) := by
  rcases σ.send_cases t with once | ⟨rfl, twice⟩
  · rw [once]
    exact workedOff_cons_of_not_sign h later
  · rw [twice]
    exact workedOff_cons_of_not_sign h (workedOff_cons_of_not_sign (fun _ => rfl) later)

/-- A run of signs is left over only in front of a token that takes none. -/
theorem workedOff_orphan (h : sign? t = none) (orphan : t.takesSign = false) {rest : List Token}
    (later : WorkedOff (!t.endsOperand) rest) :
    WorkedOff due (signOp negative :: ((σ.send t).1 ++ rest)) := by
  refine ⟨fun _ _ u first => ?_, ?_⟩
  · have head : ((σ.send t).1 ++ rest).head? = some t := by
      rcases σ.send_cases t with once | ⟨rfl, twice⟩
      · rw [once]
        rfl
      · rw [twice]
        rfl
    rw [head] at first
    exact Option.some.inj first ▸ orphan
  · exact workedOff_send (fun _ => h) later

theorem workedOff_resolve (h : sign? t = none) {rest : List Token}
    (later : WorkedOff (!t.endsOperand) rest) :
    WorkedOff due ((σ.resolve negative t).1 ++ rest) := by
  by_cases free : t.takesSign = false
  · rw [resolve_of_takesSign_eq_false free]
    exact workedOff_orphan h free later
  · cases t with
    | number n => exact workedOff_send (fun _ => rfl) later
    | opening =>
      cases negative with
      | false => exact workedOff_send (fun _ => rfl) later
      | true =>
        have inside : WorkedOff true (.opening :: rest) :=
          workedOff_cons_of_not_sign (fun _ => rfl) later
        exact ⟨fun _ sign => absurd rfl sign, fun _ sign => absurd rfl sign,
          fun _ sign => absurd rfl sign, inside⟩
    | op o => exact absurd (sign?_op_eq_none_iff.1 h) free
    | _ => exact absurd rfl free

/-- **Step**: no step sends out a sign that could be worked off with what comes next. -/
theorem workedOff_step (settled : σ.Settled) {rest : List Token}
    (later : WorkedOff (σ.step t).2.operandDue rest) :
    WorkedOff σ.operandDue ((σ.step t).1 ++ rest) := by
  have after : (σ.step t).2.operandDue = !t.endsOperand := (step_spec σ t).state.1
  rcases step_cases settled t with
    ⟨_, _, _, _, _, step⟩ | ⟨_, other, _, _, step⟩ | ⟨other, _, step⟩
  · rw [step] at later ⊢
    exact later
  · rw [after] at later
    rw [step]
    exact workedOff_resolve other later
  · rw [after] at later
    rw [step]
    exact workedOff_send other later

/-- **Run**: whatever the tokens are, no sign is sent out that could be worked off. -/
theorem workedOff_run :
    ∀ (ts : List Token) {σ : Signs}, σ.Settled → WorkedOff σ.operandDue (σ.run ts)
  | [], σ, _ => by
    rw [run]
    cases σ.pending with
    | none => trivial
    | some negative => exact ⟨fun _ _ => nofun, trivial⟩
  | t :: ts, σ, settled =>
    workedOff_step settled (workedOff_run ts (step_spec σ t).state.2)

/-! ### Fixed points -/

/-- Outside negated groups every token is sent out once. -/
theorem send_of_no_groups (h : σ.groups = []) (t : Token) :
    (σ.send t).1 = [t] ∧ (σ.send t).2.groups = [] := by
  obtain ⟨due, pending, d, groups⟩ := σ
  obtain rfl : groups = [] := h
  cases t with
  | _ => exact ⟨rfl, rfl⟩

/-- **Run**: where no sign can be worked off, the pass sends out what it reads, an orphan together
with the token behind it. -/
theorem run_of_workedOff :
    ∀ (ts : List Token) {σ : Signs}, σ.Settled → σ.groups = [] → WorkedOff σ.operandDue ts →
      (σ.pending ≠ none → ∀ t ∈ ts.head?, t.takesSign = false) → σ.run ts = σ.orphan ++ ts
  | [], σ, _, _, _, _ => (List.append_nil _).symm
  | t :: ts, σ, settled, outside, ⟨here, later⟩, behind => by
    obtain ⟨after, settled'⟩ := (step_spec σ t).state
    rw [← after] at later
    have rest := run_of_workedOff ts settled'
    show (σ.step t).1 ++ run (σ.step t).2 ts = σ.orphan ++ t :: ts
    obtain ⟨sent, outside'⟩ := send_of_no_groups outside t
    have ended : (σ.send t).2.pending = none := (send_state σ t).2
    have idle : (σ.send t).2.orphan = [] := by
      rw [orphan, ended]
      rfl
    rcases step_cases settled t with
      ⟨due, negative, sum, sign, first, step⟩ | ⟨due, other, negative, pending, step⟩ |
        ⟨other, pending, step⟩
    · -- the sign is the first of its run: behind another one it could be worked off
      have alone : σ.pending = none := by
        by_contra kept
        have orphan := behind kept t rfl
        rw [takesSign_of_sign? sign] at orphan
        cases orphan
      have signed : sign? t ≠ none := by
        rw [sign]
        exact Option.some_ne_none negative
      rw [step] at later rest ⊢
      rw [List.nil_append, rest outside later fun _ => here due signed, orphan, orphan, alone,
        first alone, eq_signOp_of_sign? sign]
      rfl
    · have kept : σ.pending ≠ none := by
        rw [pending]
        exact Option.some_ne_none negative
      have free : t.takesSign = false := behind kept t rfl
      rw [step, resolve_of_takesSign_eq_false free] at later rest ⊢
      rw [rest outside' later fun kept => absurd ended kept, sent, idle, orphan, pending]
      rfl
    · rw [step] at later rest ⊢
      rw [rest outside' later fun kept => absurd ended kept, sent, idle, orphan, pending]
      rfl

/-! ### Normal forms -/

/-- The tokens in front decide whether an operand is due. -/
theorem WorkedOff.of_append :
    ∀ {front ts : List Token} {due : Bool}, WorkedOff due (front ++ ts) →
      WorkedOff (front.foldl (fun _ t => !t.endsOperand) due) ts
  | [], _, _, h => h
  | _ :: front, ts, _, h => by
    have later : WorkedOff _ (front ++ ts) := h.2
    exact later.of_append

theorem foldl_of_operandDue {front : List Token} (h : OperandDue front) :
    front.foldl (fun _ t => !t.endsOperand) true = true := by
  rcases List.eq_nil_or_concat front with rfl | ⟨front, t, rfl⟩
  · rfl
  · rw [List.concat_eq_append] at h ⊢
    rw [List.foldl_append]
    rcases h t (by rw [List.getLast?_concat]; rfl) with rfl | ⟨o, rfl⟩ <;> rfl

end Signs

namespace Store

open Token (OperandDue)

/-- **Normal forms**: tokens in any order, of which every name has a value, are resolved. What is
left of them has no names, and no `+` or `-` that stands where an operand is due has a number, an
opening bracket or another sign behind it; resolved again, in any store, it stays as it is. -/
theorem resolve_orphans (store : Store) {ts : List Token}
    (bound : ∀ s, .name s ∈ ts → (store.get? s).isSome = true) :
    ∃ resolved, store.resolve ts = .ok resolved ∧ (∀ s, .name s ∉ resolved) ∧
      (∀ front o t back, resolved = front ++ .op o :: t :: back → o.isSign = true →
        OperandDue front → t.takesSign = false) ∧
      ∀ other : Store, other.resolve resolved = .ok resolved := by
  have resolution := store.resolve_of_bound bound
  have nameless : ∀ s, .name s ∉ Token.resolveSigns (ts.map store.valued) := by
    intro s hs
    rcases store.convertible_of_resolve resolution hs with fit | ⟨u, unknown⟩
    · cases fit
    · cases unknown
  have init : Signs.Settled {} := nofun
  have workedOff := Signs.workedOff_run (ts.map store.valued) init
  refine ⟨_, resolution, nameless, ?_, fun other => ?_⟩
  · intro front o t back split sign due
    rw [Token.resolveSigns] at split
    rw [split] at workedOff
    have orphan := workedOff.of_append.1
    rw [Signs.foldl_of_operandDue due] at orphan
    exact orphan rfl (Signs.sign?_op_eq_none_iff.not.2 (by rw [sign]; decide)) t rfl
  · rw [other.resolve_of_nameless nameless]
    have fixed := Signs.run_of_workedOff _ init rfl workedOff fun kept => absurd rfl kept
    exact congrArg Except.ok fixed

/-- Orphans in front of an operator, of a closing bracket, of an unknown token and at the end, and
two negated groups, the second of which is never closed. -/
theorem resolve_orphans_unclosed :
    let store := empty.bind "x".toList (-2)
    let ts := Token.scan "- ( - x * - ) + - + 3 - - ( - * - $ -".toList
    (∀ s, .name s ∈ ts → (store.get? s).isSome = true) ∧
      ∃ resolved, store.resolve ts = .ok resolved ∧
        Token.render resolved = "( -1 * ( 2 * - ) ) + -3 - ( -1 * ( - * - $ -".toList ∧
        (∀ s, .name s ∉ resolved) ∧
        (∀ front o t back, resolved = front ++ .op o :: t :: back → o.isSign = true →
          OperandDue front → t.takesSign = false) ∧
        ∀ other : Store, other.resolve resolved = .ok resolved := by
  intro store ts
  have valued : ∀ t ∈ ts, store.isUnbound t = false := by decide
  have bound : ∀ s, .name s ∈ ts → (store.get? s).isSome = true := by
    intro s hs
    exact Option.isNone_eq_false_iff.1 (valued _ hs)
  obtain ⟨resolved, resolution, normal⟩ := store.resolve_orphans bound
  have shown : (store.resolve ts).map Token.render
      = .ok "( -1 * ( 2 * - ) ) + -3 - ( -1 * ( - * - $ -".toList := by decide
  rw [resolution] at shown
  exact ⟨bound, resolved, resolution, Except.ok.inj shown, normal⟩

end Store

end Abacus
