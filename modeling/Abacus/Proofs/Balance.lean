import Abacus.Proofs.Line

/-!
# Brackets through the stages

Brackets are counted three times: among the characters of a raw line, in the pass over the signs,
which adds brackets of its own, and in the conversion to postfix form. No stage relies on what the
one before it counted, so this module says that they count alike, whatever the tokens are.

- **Signs** (`Signs.depth?_run`): what has been sent out has the brackets open that the input has,
  and one more for each negated group that is open. A bracket that is closed before it was opened is
  closed where no group is open (`Signs.Nested`), so it is sent out as it came.
- **Conversion** (`Yard.opened_foldlM_step`): the brackets held back are those that are open, and a
  closing bracket is refused exactly when there is none.
- **Agreement** (`Store.brackets_agree`): the brackets of a line that has passed the first count are
  never the reason why the conversion refuses its tokens.
-/

namespace Abacus

namespace Token

/-- Whether the conversion to postfix form has a use for a token. -/
def convertible : Token → Bool
  | .number _ | .op _ | .opening | .closing => true
  | .name _ | .unknown _ => false

theorem depth?_append (d : Nat) (ts us : List Token) :
    Bracket.depth? d (brackets (ts ++ us))
      = (Bracket.depth? d (brackets ts)).bind fun e => Bracket.depth? e (brackets us) := by
  rw [brackets_append, Bracket.depth?_append]

theorem depth?_cons (d : Nat) (t : Token) (ts : List Token) :
    Bracket.depth? d (brackets (t :: ts))
      = (Bracket.depth? d (brackets [t])).bind fun e => Bracket.depth? e (brackets ts) :=
  depth?_append d [t] ts

end Token

/-! ### Brackets behind the signs -/

namespace Signs

open Token (brackets convertible)

theorem deeper_of_depth? {d e : Nat} {t : Token} (h : Bracket.depth? d (brackets [t]) = some e) :
    deeper d t = e := by
  cases t with
  | closing =>
    cases d with
    | zero => cases h
    | succ d => exact Option.some.inj h
  | _ => exact Option.some.inj h

/-- A token that is sent out closes as many brackets as it does in the input, and those of the
groups that end with it. -/
theorem depth?_send {σ : Signs} (hσ : σ.Nested) (t : Token) :
    Bracket.depth? (σ.depth + σ.groups.length) (brackets (σ.send t).1)
      = (Bracket.depth? σ.depth (brackets [t])).map (· + (σ.send t).2.groups.length) := by
  cases t with
  | opening =>
    show some (σ.depth + σ.groups.length + 1) = some (σ.depth + 1 + σ.groups.length)
    rw [Nat.add_right_comm]
  | closing =>
    obtain ⟨due, pending, d, groups⟩ := σ
    cases d with
    | zero =>
      obtain rfl : groups = [] := groups_eq_nil hσ rfl
      rfl
    | succ d =>
      cases groups with
      | nil => rfl
      | cons g groups =>
        by_cases here : g = d + 1
        · simp [send, here, brackets, Bracket.ofToken?, Bracket.depth?, Nat.add_right_comm]
        · simp [send, here, brackets, Bracket.ofToken?, Bracket.depth?, Nat.add_assoc, Nat.add_comm]
  | _ => rfl

theorem brackets_front (front : Option Bool) (ts : List Token) :
    brackets ((front.map signOp).toList ++ ts) = brackets ts := by
  cases front <;> rfl

/-- **Step**: a step closes a bracket too many exactly when its token does. -/
theorem Step.depth? {σ σ' : Signs} {t : Token} {ts : List Token} (h : Step σ t ts σ')
    (hσ : σ.Nested) :
    Bracket.depth? (σ.depth + σ.groups.length) (brackets ts)
      = (Bracket.depth? σ.depth (brackets [t])).map (· + σ'.groups.length) := by
  cases h with
  | sign => rfl
  | token t front =>
    rw [brackets_front]
    exact depth?_send hσ t
  | number n => rfl
  | group =>
    -- the bracket that the group adds is closed together with the one that it begins with
    show some (σ.depth + σ.groups.length + 1 + 1) = some (σ.depth + 1 + (σ.groups.length + 1))
    congr 1
    omega

/-- **Run**: so does a whole run; besides the brackets of the input, those of the groups that are
open are left open. -/
theorem depth?_run :
    ∀ (ts : List Token) {σ : Signs}, σ.Nested →
      Bracket.depth? (σ.depth + σ.groups.length) (brackets (σ.run ts))
        = (Bracket.depth? σ.depth (brackets ts)).map (· + (σ.after ts).groups.length)
  | [], σ, _ => by
    have none : brackets (σ.run []) = [] := by
      show brackets (σ.pending.map signOp).toList = []
      cases σ.pending <;> rfl
    rw [none]
    rfl
  | t :: ts, σ, hσ => by
    have step := step_spec σ t
    show Bracket.depth? _ (brackets ((σ.step t).1 ++ (σ.step t).2.run ts)) = _
    rw [Token.depth?_append, step.depth? hσ, Token.depth?_cons σ.depth t ts]
    cases inner : Bracket.depth? σ.depth (brackets [t]) with
    | none => rfl
    | some e =>
      have depth : (σ.step t).2.depth = e := step.depth.trans (deeper_of_depth? inner)
      show Bracket.depth? (e + _) _ = (Bracket.depth? e _).map _
      rw [← depth, depth?_run ts (step.nested hσ)]
      rfl

/-- What is sent out for a token is the token itself, or something that can be converted. -/
theorem Step.mem {σ σ' : Signs} {t u : Token} {ts : List Token} (h : Step σ t ts σ')
    (hu : u ∈ ts) : u = t ∨ u.convertible = true := by
  have sent (t : Token) (inside : u ∈ (σ.send t).1) : u = t ∨ u.convertible = true := by
    cases t with
    | closing =>
      -- a closing bracket is sent out once or twice, and nothing with it
      left
      rcases σ.send_closing_cases with ⟨-, once⟩ | ⟨own, -, twice⟩
      · rw [once] at inside
        exact List.mem_singleton.1 inside
      · rw [twice] at inside
        exact (List.mem_cons.1 inside).elim id List.mem_singleton.1
    | _ => exact .inl (List.mem_singleton.1 inside)
  cases h with
  | sign => cases hu
  | token t front =>
    rcases List.mem_append.1 hu with sign | inside
    · right
      obtain ⟨negative, -, rfl⟩ : ∃ negative ∈ front, signOp negative = u := by
        simpa using sign
      rfl
    · exact sent t inside
  | number n =>
    obtain rfl := List.mem_singleton.1 hu
    exact .inr rfl
  | group =>
    right
    simp only [List.mem_cons, List.not_mem_nil, or_false] at hu
    rcases hu with rfl | rfl | rfl | rfl <;> rfl

theorem mem_run :
    ∀ (ts : List Token) {σ : Signs} {u : Token}, u ∈ σ.run ts → u ∈ ts ∨ u.convertible = true
  | [], σ, u, h => by
    right
    obtain ⟨negative, -, rfl⟩ : ∃ negative ∈ σ.pending, signOp negative = u := by
      simpa [run] using h
    rfl
  | t :: ts, σ, u, h => by
    rcases List.mem_append.1 h with here | later
    · rcases (step_spec σ t).mem here with rfl | new
      · exact .inl (List.mem_cons_self ..)
      · exact .inr new
    · rcases mem_run ts later with old | new
      · exact .inl (List.mem_cons_of_mem t old)
      · exact .inr new

end Signs

/-- Signs worked off leave balanced brackets exactly where they were balanced before. -/
theorem Token.balanced_resolveSigns (ts : List Token) :
    Bracket.balanced (brackets (resolveSigns ts)) = Bracket.balanced (brackets ts) := by
  have run := Signs.depth?_run ts Signs.nested_init
  have after := Signs.nested_after ts Signs.nested_init
  refine decide_eq_decide.2 ?_
  change Bracket.depth? 0 (brackets (resolveSigns ts)) = _ at run
  rw [run, Option.map_eq_some_iff]
  constructor
  · rintro ⟨e, inner, none⟩
    rw [inner]
    exact congrArg some (Nat.eq_zero_of_add_eq_zero_right none)
  · intro inner
    -- with all brackets closed no group is open any more
    obtain ⟨-, -, closed⟩ := Signs.sent_under (k := 0) (List.forall_mem_nil _) ts {} inner
    refine ⟨0, inner, ?_⟩
    rw [Signs.groups_eq_nil after closed]
    rfl

/-! ### Brackets in the conversion -/

namespace Yard

open Token (brackets)

/-- The number of brackets among what is held back. -/
def heldBrackets : List Held → Nat
  | [] => 0
  | .bracket :: held => heldBrackets held + 1
  | .op _ :: held => heldBrackets held

/-- The number of brackets that a state holds back. -/
def opened (y : Yard) : Nat :=
  heldBrackets y.held

theorem opened_release (o : Operator) :
    ∀ (held : List Held) (sent : List Token), (release o sent held).opened = heldBrackets held
  | [], _ => rfl
  | .bracket :: _, _ => rfl
  | .op p :: held, sent => by
    rw [release]
    split
    · exact opened_release o held (.op p :: sent)
    · rfl

/-- A bracket can be closed exactly when one is held back. -/
theorem opened_close :
    ∀ (held : List Held) (sent : List Token),
      (close sent held).toOption.map opened = Bracket.depth? (heldBrackets held) [.closing]
  | [], _ => rfl
  | .bracket :: _, _ => rfl
  | .op p :: held, sent => opened_close held (.op p :: sent)

/-- **Step**: brackets are the only reason to refuse a token that can be converted. -/
theorem opened_step (y : Yard) {t : Token} (ht : t.convertible = true) :
    (y.step t).toOption.map opened = Bracket.depth? y.opened (brackets [t]) := by
  cases t with
  | number n => rfl
  | op o =>
    show some (release o y.sent y.held).opened = some y.opened
    rw [opened_release]
    rfl
  | opening => rfl
  | closing => exact opened_close y.held y.sent
  | name s => cases ht
  | unknown s => cases ht

/-- **Run**: the brackets held back are those that are open. -/
theorem opened_foldlM_step :
    ∀ {ts : List Token} (y : Yard), (∀ t ∈ ts, t.convertible = true) →
      (ts.foldlM step y).toOption.map opened = Bracket.depth? y.opened (brackets ts)
  | [], _, _ => rfl
  | t :: ts, y, h => by
    rw [List.foldlM_cons, Token.depth?_cons, ← y.opened_step (h t (List.mem_cons_self ..))]
    cases y.step t with
    | error e => rfl
    | ok y' => exact opened_foldlM_step y' fun u hu => h u (List.mem_cons_of_mem t hu)

/-- Tokens that can be converted are taken in as far as their brackets can be counted. -/
theorem exists_foldlM_step_of_depth? {ts : List Token} {d : Nat}
    (all : ∀ t ∈ ts, t.convertible = true) (depth : Bracket.depth? 0 (brackets ts) = some d) :
    ∃ y, ts.foldlM step {} = .ok y ∧ y.opened = d := by
  have run := (opened_foldlM_step {} all).trans depth
  cases reached : ts.foldlM step {} with
  | error e =>
    rw [reached] at run
    cases run
  | ok y =>
    rw [reached] at run
    exact ⟨y, rfl, Option.some.inj run⟩

theorem convertible_of_step {y y' : Yard} {t : Token} (h : y.step t = .ok y') :
    t.convertible = true := by
  cases t with
  | name s => cases h
  | unknown s => cases h
  | _ => rfl

theorem convertible_of_foldlM_step :
    ∀ {ts : List Token} {y y' : Yard}, ts.foldlM step y = .ok y' →
      ∀ t ∈ ts, t.convertible = true
  | [], _, _, _ => List.forall_mem_nil _
  | t :: ts, y, y', h => by
    obtain ⟨z, first, rest⟩ := bind_eq_ok_iff.1 h
    exact List.forall_mem_cons.2 ⟨convertible_of_step first, convertible_of_foldlM_step rest⟩

/-- At the end nothing may be held back but operators. -/
theorem exists_finish_iff :
    ∀ (held : List Held) (sent : List Token),
      (∃ ps, finish sent held = .ok ps) ↔ heldBrackets held = 0
  | [], sent => ⟨fun _ => rfl, fun _ => ⟨sent.reverse, rfl⟩⟩
  | .bracket :: held, _ => by
    constructor
    · rintro ⟨ps, h⟩
      cases h
    · nofun
  | .op p :: held, sent => exists_finish_iff held (.op p :: sent)

end Yard

/-- **Conversion**: tokens have a postfix form exactly when they can all be converted and their
brackets are balanced. -/
theorem Token.exists_toPostfix_iff {ts : List Token} :
    (∃ ps, toPostfix ts = .ok ps) ↔
      (∀ t ∈ ts, t.convertible = true) ∧ Bracket.balanced (brackets ts) = true := by
  constructor
  · rintro ⟨ps, converted⟩
    obtain ⟨y, run, finish⟩ := bind_eq_ok_iff.1 converted
    have all := Yard.convertible_of_foldlM_step run
    have opened := Yard.opened_foldlM_step {} all
    have none : y.opened = 0 := (Yard.exists_finish_iff y.held y.sent).1 ⟨ps, finish⟩
    rw [run] at opened
    change some y.opened = _ at opened
    rw [none] at opened
    exact ⟨all, decide_eq_true opened.symm⟩
  · rintro ⟨all, balance⟩
    obtain ⟨y, run, none⟩ := Yard.exists_foldlM_step_of_depth? all (of_decide_eq_true balance)
    obtain ⟨ps, finish⟩ := (Yard.exists_finish_iff y.held y.sent).2 none
    exact ⟨ps, bind_eq_ok_iff.2 ⟨y, run, finish⟩⟩

/-- All other tokens are refused, as an expression. -/
theorem Token.toPostfix_eq_error_iff {ts : List Token} :
    toPostfix ts = .error .invalidExpression ↔
      ¬ ((∀ t ∈ ts, t.convertible = true) ∧ Bracket.balanced (brackets ts) = true) := by
  rw [← exists_toPostfix_iff]
  constructor
  · rintro refused ⟨ps, converted⟩
    rw [refused] at converted
    cases converted
  · intro unconverted
    cases converted : toPostfix ts with
    | error e => rw [eq_of_toPostfix_eq_error converted]
    | ok ps => exact absurd ⟨ps, converted⟩ unconverted

/-- In balanced tokens no bracket stops the conversion: it comes as far as there are tokens that can
be converted. -/
theorem Yard.exists_foldlM_step {ts us : List Token} {t : Token}
    (balance : Bracket.balanced (Token.brackets (ts ++ t :: us)) = true)
    (all : ∀ u ∈ ts, u.convertible = true) :
    ∃ y, ts.foldlM step {} = .ok y ∧
      (y.step t = .error .invalidExpression ↔ t.convertible = false) := by
  have whole := of_decide_eq_true balance
  rw [Token.depth?_append] at whole
  obtain ⟨d, front, rest⟩ := Option.bind_eq_some_iff.1 whole
  rw [Token.depth?_cons] at rest
  obtain ⟨e, here, -⟩ := Option.bind_eq_some_iff.1 rest
  obtain ⟨y, run, opened⟩ := exists_foldlM_step_of_depth? all front
  refine ⟨y, run, ?_⟩
  constructor
  · intro stuck
    refine Bool.eq_false_iff.2 fun convertible => ?_
    have step := y.opened_step convertible
    rw [stuck, opened, here] at step
    cases step
  · intro unfit
    cases step : y.step t with
    | error e => rw [eq_of_step_eq_error step]
    | ok y' =>
      rw [convertible_of_step step] at unfit
      cases unfit

/-! ### Agreement -/

namespace Store

variable (store : Store)

/-- Names and signs worked off leave balanced brackets exactly where they were balanced before. -/
theorem balanced_of_resolve {ts resolved : List Token} (h : store.resolve ts = .ok resolved) :
    Bracket.balanced (Token.brackets resolved) = Bracket.balanced (Token.brackets ts) := by
  obtain ⟨-, rfl⟩ := store.resolve_eq_ok_iff.1 h
  rw [Token.balanced_resolveSigns, brackets_valued]

/-- Of the tokens that cannot be converted only the unknown ones are left. -/
theorem convertible_of_resolve {ts resolved : List Token} (h : store.resolve ts = .ok resolved)
    {t : Token} (ht : t ∈ resolved) : t.convertible = true ∨ ∃ s, t = .unknown s := by
  obtain ⟨-, rfl⟩ := store.resolve_eq_ok_iff.1 h
  rcases Signs.mem_run _ ht with old | new
  · obtain ⟨u, -, rfl⟩ := List.mem_map.1 old
    cases u with
    | unknown s => exact .inr ⟨s, rfl⟩
    | _ => exact .inl rfl
  · exact .inl new

theorem convertible_iff_of_resolve {ts resolved : List Token}
    (h : store.resolve ts = .ok resolved) {t : Token} (ht : t ∈ resolved) :
    t.convertible = false ↔ ∃ s, t = .unknown s := by
  constructor
  · intro unfit
    rcases store.convertible_of_resolve h ht with fit | unknown
    · rw [fit] at unfit
      cases unfit
    · exact unknown
  · rintro ⟨s, rfl⟩
    rfl

/-- **Agreement**: names and signs worked off leave balanced brackets exactly where they were
balanced before, whatever the tokens are. So when a line has passed the count of its characters and
is not a lone number, the brackets of its tokens are balanced behind the signs too, and no bracket
stops the conversion: in front of the first unknown token every token is taken in, and without one
there is a postfix form. -/
theorem brackets_agree :
    (∀ ts resolved : List Token, store.resolve ts = .ok resolved →
      (Bracket.balanced (Token.brackets resolved) = true ↔
        Bracket.balanced (Token.brackets ts) = true)) ∧
    ∀ (line text : Text) (resolved : List Token), line.bracketsBalanced = true →
      Normalised.ofText? line = some (.spaced text) →
      store.resolve (Token.scan text) = .ok resolved →
        Bracket.balanced (Token.brackets resolved) = true ∧
        (∀ ts t us, resolved = ts ++ t :: us → (∀ s, Token.unknown s ∉ ts) →
          ∃ y, ts.foldlM Yard.step {} = .ok y ∧
            (y.step t = .error .invalidExpression ↔ ∃ s, t = .unknown s)) ∧
        (Token.toPostfix resolved = .error .invalidExpression ↔
          ∃ s, Token.unknown s ∈ resolved) := by
  refine ⟨fun ts resolved h => by rw [store.balanced_of_resolve h], ?_⟩
  intro line text resolved passed normal resolution
  have balance : Bracket.balanced (Token.brackets resolved) = true := by
    rw [store.balanced_of_resolve resolution, Normalised.scan_of_spaced normal,
      Text.brackets_foldSigns, ← Text.brackets_tokens]
    exact passed
  have unfit {t : Token} (ht : t ∈ resolved) := store.convertible_iff_of_resolve resolution ht
  refine ⟨balance, ?_, ?_⟩
  · rintro ts t us rfl known
    have all : ∀ u ∈ ts, u.convertible = true := by
      intro u hu
      refine Bool.of_not_eq_false fun h => ?_
      obtain ⟨s, rfl⟩ := (unfit (List.mem_append_left _ hu)).1 h
      exact known s hu
    obtain ⟨y, run, stops⟩ := Yard.exists_foldlM_step balance all
    exact ⟨y, run, stops.trans (unfit (List.mem_append_right ts (List.mem_cons_self ..)))⟩
  · rw [Token.toPostfix_eq_error_iff]
    constructor
    · intro refused
      by_contra known
      refine refused ⟨fun t ht => Bool.of_not_eq_false fun h => ?_, balance⟩
      obtain ⟨s, rfl⟩ := (unfit ht).1 h
      exact known ⟨s, ht⟩
    · rintro ⟨s, hs⟩ ⟨all, -⟩
      cases all _ hs

/-- Negated groups inside each other, with an unknown token in the last; and a group that is never
closed. -/
theorem brackets_agree_groups :
    let line : Text := "-(2^-(3))*-(4 $ 5)".toList
    let text : Text := "- ( 2 ^ - ( 3 ) ) * - ( 4 $ 5 )".toList
    let resolved := Token.resolveSigns (Token.scan text)
    let broken := Token.scan "- ( 2 ) ) - (".toList
    line.bracketsBalanced = true ∧ Normalised.ofText? line = some (.spaced text) ∧
      empty.resolve (Token.scan text) = .ok resolved ∧
      Token.brackets resolved ≠ Token.brackets (Token.scan text) ∧
      Bracket.balanced (Token.brackets resolved) = true ∧
      (Token.toPostfix resolved = .error .invalidExpression ↔
        ∃ s, Token.unknown s ∈ resolved) ∧
      empty.resolve broken = .ok (Token.resolveSigns broken) ∧
      (Bracket.balanced (Token.brackets (Token.resolveSigns broken)) = true ↔
        Bracket.balanced (Token.brackets broken) = true) := by
  intro line text resolved broken
  have passed : line.bracketsBalanced = true := by decide
  have normal : Normalised.ofText? line = some (.spaced text) := by decide
  have resolution : empty.resolve (Token.scan text) = .ok resolved := by decide
  have resolution' : empty.resolve broken = .ok (Token.resolveSigns broken) := by decide
  obtain ⟨unbalanced, agree⟩ := empty.brackets_agree
  obtain ⟨balance, -, stops⟩ := agree line text resolved passed normal resolution
  exact ⟨passed, normal, resolution, by decide, balance, stops, resolution',
    unbalanced broken _ resolution'⟩

end Store

end Abacus
