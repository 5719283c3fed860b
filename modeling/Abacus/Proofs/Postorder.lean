import Abacus.Proofs.Limits

/-!
# Trees in postorder

A postfix form is a tree of operations written down in postorder. The evaluation on a stack never
builds the tree; all the same it accepts the postorders and nothing else, with the value of the
tree, and refuses everything else for the first cause it meets from left to right.

- **Trees** (`Tree`): their tokens in postorder and their value, each told from the tree alone.
- **Reading** (`Tree.plant`): the stack with trees in the place of values. What has been read is the
  trees on the stack in postorder, one after the other, so a list of tokens can be read in one way
  only (`Tree.foldlM_plant_eq_some_iff`).
- **Following** (`Tree.values`): as long as tokens can be read, the values on the stack are those of
  the trees, step by step (`Tree.bind_push_of_plant`) and over a run
  (`Tree.foldlM_push_postorders`).
- **Refusals** (`Tree.Stops`): the calculation that is refused first, with the operator at which it
  stands. A postorder is refused for nothing else, and any other list is refused as an expression if
  no calculation is refused before its first token out of place
  (`Token.evaluate_accepts_postorder`).
-/

namespace Abacus

/-! ### Trees -/

/-- A tree of operations with integers for its leaves. -/
inductive Tree where
  | number (n : Int)
  | operation (o : Operator) (l r : Tree)

namespace Tree

/-- The tokens of a tree, every operator behind its two operands. -/
def postorder : Tree → List Token
  | .number n => [.number n]
  | .operation o l r => l.postorder ++ (r.postorder ++ [.op o])

/-- The value of a tree under limits: that of the left operand first, then that of the right one,
then that of the operator. -/
def value (limits : Limits) : Tree → Except Refusal Int
  | .number n => .ok n
  | .operation o l r =>
    (l.value limits).bind fun a => (r.value limits).bind fun b => o.value limits a b

/-- The tokens of trees that stand one behind the other, the last of them at the head of the
list. -/
def postorders : List Tree → List Token
  | [] => []
  | t :: below => postorders below ++ t.postorder

/-! ### Reading -/

/-- Takes in one token as `Token.push` does, with trees in the place of values. -/
def plant (stack : List Tree) : Token → Option (List Tree)
  | .number n => some (.number n :: stack)
  | .op o =>
    match stack with
    | r :: l :: below => some (.operation o l r :: below)
    | _ => none
  | _ => none

/-- What a step of the reading can do: plant a number, or put an operation in the place of its
operands. -/
theorem plant_cases {stack next : List Tree} {t : Token} (h : plant stack t = some next) :
    (∃ n, t = .number n ∧ next = .number n :: stack) ∨
      ∃ o l r below, t = .op o ∧ stack = r :: l :: below ∧ next = .operation o l r :: below := by
  cases t with
  | number n => exact .inl ⟨n, rfl, (Option.some.inj h).symm⟩
  | op o =>
    obtain _ | ⟨r, _ | ⟨l, below⟩⟩ := stack
    · cases h
    · cases h
    · exact .inr ⟨o, l, r, below, rfl, rfl, (Option.some.inj h).symm⟩
  | _ => cases h

/-- The postorder of a tree plants this tree on any stack. -/
theorem foldlM_plant_postorder (t : Tree) (stack : List Tree) :
    t.postorder.foldlM plant stack = some (t :: stack) := by
  induction t generalizing stack with
  | number n => rfl
  | operation o l r ihl ihr =>
    rw [postorder, List.foldlM_append, ihl]
    show (r.postorder ++ [Token.op o]).foldlM plant (l :: stack) = _
    rw [List.foldlM_append, ihr]
    rfl

theorem foldlM_plant_postorders (stack : List Tree) :
    (postorders stack).foldlM plant [] = some stack := by
  induction stack with
  | nil => rfl
  | cons t below ih =>
    rw [postorders, List.foldlM_append, ih]
    exact foldlM_plant_postorder t below

/-- **Step**: a token that can be read comes behind the tokens of the trees. -/
theorem postorders_of_plant {stack next : List Tree} {t : Token} (h : plant stack t = some next) :
    postorders next = postorders stack ++ [t] := by
  obtain ⟨n, rfl, rfl⟩ | ⟨o, l, r, below, rfl, rfl, rfl⟩ := plant_cases h
  · rfl
  · simp [postorders, postorder]

/-- **Run**: the same of many tokens. -/
theorem postorders_of_foldlM_plant {ts : List Token} {stack next : List Tree}
    (h : ts.foldlM plant stack = some next) : postorders next = postorders stack ++ ts := by
  induction ts generalizing stack with
  | nil =>
    cases h
    rw [List.append_nil]
  | cons t ts ih =>
    obtain ⟨mid, step, run⟩ := Option.bind_eq_some_iff.1 h
    rw [ih run, postorders_of_plant step, List.append_assoc]
    rfl

/-- **Unique reading**: the trees that tokens plant are the trees whose postorders they are. -/
theorem foldlM_plant_eq_some_iff {ts : List Token} {stack : List Tree} :
    ts.foldlM plant [] = some stack ↔ postorders stack = ts := by
  constructor
  · intro h
    exact postorders_of_foldlM_plant h
  · rintro rfl
    exact foldlM_plant_postorders stack

/-- Trees that stand one behind the other can be told apart by their tokens. -/
theorem postorders_injective : Function.Injective postorders := by
  intro stack stack' same
  have read := foldlM_plant_eq_some_iff.2 same
  rw [foldlM_plant_postorders] at read
  exact (Option.some.inj read).symm

theorem postorder_injective : Function.Injective postorder := by
  intro t t' same
  have single : postorders [t] = postorders [t'] := same
  exact (List.cons.inj (postorders_injective single)).1

/-- Tokens that cannot be read as one tree are the postorder of none. -/
theorem ne_postorder {ts : List Token} (h : ts.foldlM plant [] = none) (t : Tree) :
    t.postorder ≠ ts := by
  rintro rfl
  rw [foldlM_plant_postorder] at h
  cases h

/-- How far tokens can be read. -/
inductive Reading : List Token → Prop where
  /-- All of them can. -/
  | complete (stack : List Tree) : Reading (postorders stack)
  /-- The first token out of place finds too few operands in front of it, or cannot be read at
  all. -/
  | misplaced (stack : List Tree) (t : Token) (rest : List Token) (refused : plant stack t = none) :
      Reading (postorders stack ++ t :: rest)

theorem exists_reading (ts : List Token) : Reading ts := by
  suffices h : ∀ (ts : List Token) (stack : List Tree), Reading (postorders stack ++ ts) from
    h ts []
  intro ts
  induction ts with
  | nil =>
    intro stack
    rw [List.append_nil]
    exact .complete stack
  | cons t ts ih =>
    intro stack
    cases step : plant stack t with
    | none => exact .misplaced stack t ts step
    | some next =>
      have further := ih next
      rwa [postorders_of_plant step, List.append_assoc] at further

/-! ### Following -/

variable {limits : Limits}

/-- The values of trees that stand one behind the other, the last of them at the head of the list;
the first refusal is the one of the tree that stands foremost. -/
def values (limits : Limits) : List Tree → Except Refusal (List Int)
  | [] => .ok []
  | t :: below => (values limits below).bind fun vs => (t.value limits).map (· :: vs)

/-- Trees have values when every one of them has. -/
theorem values_cons_eq_ok_iff {t : Tree} {below : List Tree} {vs : List Int} :
    values limits (t :: below) = .ok vs ↔
      ∃ v ws, values limits below = .ok ws ∧ t.value limits = .ok v ∧ vs = v :: ws := by
  rw [values]
  cases lower : values limits below with
  | error e =>
    constructor
    · intro h
      cases h
    · rintro ⟨v, ws, h, -⟩
      cases h
  | ok ws =>
    cases top : t.value limits with
    | error e =>
      constructor
      · intro h
        cases h
      · rintro ⟨v, ws', -, h, -⟩
        cases h
    | ok v =>
      constructor
      · intro h
        cases h
        exact ⟨v, ws, rfl, rfl, rfl⟩
      · rintro ⟨v', ws', lower', top', rfl⟩
        cases lower'
        cases top'
        rfl

/-- There is a value for every tree. -/
theorem length_values {stack : List Tree} {vs : List Int} (h : values limits stack = .ok vs) :
    vs.length = stack.length := by
  induction stack generalizing vs with
  | nil =>
    cases h
    rfl
  | cons t below ih =>
    obtain ⟨v, ws, lower, -, rfl⟩ := values_cons_eq_ok_iff.1 h
    rw [List.length_cons, List.length_cons, ih lower]

theorem exists_values_iff {stack : List Tree} :
    (∃ vs, values limits stack = .ok vs) ↔ ∀ t ∈ stack, ∃ v, t.value limits = .ok v := by
  induction stack with
  | nil => exact ⟨fun _ => List.forall_mem_nil _, fun _ => ⟨[], rfl⟩⟩
  | cons t below ih =>
    rw [List.forall_mem_cons, ← ih]
    constructor
    · rintro ⟨vs, h⟩
      obtain ⟨v, ws, lower, top, -⟩ := values_cons_eq_ok_iff.1 h
      exact ⟨⟨v, top⟩, ws, lower⟩
    · rintro ⟨⟨v, top⟩, ws, lower⟩
      exact ⟨v :: ws, values_cons_eq_ok_iff.2 ⟨v, ws, lower, top, rfl⟩⟩

/-- **Step**: a token that can be read does to the values what it does to the trees. -/
theorem bind_push_of_plant {stack next : List Tree} {t : Token} (h : plant stack t = some next) :
    (values limits stack).bind (Token.push limits · t) = values limits next := by
  obtain ⟨n, rfl, rfl⟩ | ⟨o, l, r, below, rfl, rfl, rfl⟩ := plant_cases h
  · rfl
  · rw [values, values, values, value]
    cases values limits below with
    | error e => rfl
    | ok vs =>
      cases l.value limits with
      | error e => rfl
      | ok a =>
        cases r.value limits with
        | error e => rfl
        | ok b => exact Token.push_op limits o a b vs

/-- **Run**: the same of many tokens. -/
theorem bind_foldlM_push_of_plant {ts : List Token} {stack next : List Tree}
    (h : ts.foldlM plant stack = some next) :
    (values limits stack).bind (fun vs => ts.foldlM (Token.push limits) vs)
      = values limits next := by
  induction ts generalizing stack with
  | nil =>
    cases h
    cases values limits next <;> rfl
  | cons t ts ih =>
    obtain ⟨mid, step, run⟩ := Option.bind_eq_some_iff.1 h
    rw [← ih run, ← bind_push_of_plant step]
    cases values limits stack <;> rfl

/-- The tokens of trees leave the values of the trees on the stack. -/
theorem foldlM_push_postorders (limits : Limits) (stack : List Tree) :
    (postorders stack).foldlM (Token.push limits) [] = values limits stack :=
  bind_foldlM_push_of_plant (foldlM_plant_postorders stack)

/-- A token out of place is refused as such. -/
theorem push_of_plant_eq_none {stack : List Tree} {vs : List Int} {t : Token}
    (h : plant stack t = none) (valued : values limits stack = .ok vs) :
    Token.push limits vs t = .error .invalidExpression := by
  have length := length_values valued
  cases t with
  | number n => cases h
  | op o =>
    obtain _ | ⟨r, _ | ⟨l, below⟩⟩ := stack
    · obtain rfl : vs = [] := List.length_eq_zero_iff.1 length
      rfl
    · obtain ⟨v, rfl⟩ := List.length_eq_one_iff.1 length
      rfl
    · cases h
  | _ => rfl

/-! ### Refusals -/

/-- Whether a calculation among tokens is refused, and is the first one to be: an operator stands
behind its operands, with nothing out of place as far as there; it refuses their values, and all
that stands in front of it has values. -/
def Stops (limits : Limits) (ts : List Token) (e : Refusal) : Prop :=
  ∃ (below : List Tree) (l r : Tree) (o : Operator) (rest : List Token) (a b : Int),
    ts = postorders (r :: l :: below) ++ .op o :: rest ∧
      (∀ t ∈ below, ∃ v, t.value limits = .ok v) ∧ l.value limits = .ok a ∧
      r.value limits = .ok b ∧ o.value limits a b = .error e

theorem Stops.ofArithmetic {ts : List Token} {e : Refusal} (h : Stops limits ts e) :
    e.OfArithmetic := by
  obtain ⟨below, l, r, o, rest, a, b, -, -, -, -, refused⟩ := h
  exact Operator.ofArithmetic_of_value refused

/-- The first calculation that is refused stops the evaluation. -/
theorem Stops.foldlM_push {ts : List Token} {e : Refusal} (h : Stops limits ts e) :
    ts.foldlM (Token.push limits) [] = .error e := by
  obtain ⟨below, l, r, o, rest, a, b, rfl, valued, left, right, refused⟩ := h
  obtain ⟨vs, lower⟩ := exists_values_iff.2 valued
  have operands : values limits (r :: l :: below) = .ok (b :: a :: vs) :=
    values_cons_eq_ok_iff.2
      ⟨b, a :: vs, values_cons_eq_ok_iff.2 ⟨a, vs, lower, left, rfl⟩, right, rfl⟩
  have stopped : Token.push limits (b :: a :: vs) (.op o) = .error e := by
    rw [Token.push_op, refused]
    rfl
  rw [List.foldlM_append, foldlM_push_postorders, operands]
  show (Token.op o :: rest).foldlM (Token.push limits) (b :: a :: vs) = _
  rw [List.foldlM_cons, stopped]
  rfl

/-- A tree without a value has a first calculation that is refused. -/
theorem stops_of_value {t : Tree} {e : Refusal} (h : t.value limits = .error e)
    {below : List Tree} (valued : ∀ t ∈ below, ∃ v, t.value limits = .ok v) (rest : List Token) :
    Stops limits (postorders (t :: below) ++ rest) e := by
  induction t generalizing below rest with
  | number n => cases h
  | operation o l r ihl ihr =>
    have split : postorders (.operation o l r :: below) ++ rest
        = postorders (r :: l :: below) ++ .op o :: rest := by
      simp [postorders, postorder]
    rw [split]
    cases left : l.value limits with
    | error e' =>
      rw [value, left] at h
      cases h
      -- what stands behind the left operand is not looked at
      have stopped := ihl left valued (r.postorder ++ .op o :: rest)
      rwa [← List.append_assoc] at stopped
    | ok a =>
      cases right : r.value limits with
      | error e' =>
        rw [value, left, right] at h
        cases h
        refine ihr right ?_ (.op o :: rest)
        intro t ht
        rcases List.mem_cons.1 ht with rfl | ht
        · exact ⟨a, left⟩
        · exact valued t ht
      | ok b =>
        rw [value, left, right] at h
        exact ⟨below, l, r, o, rest, a, b, rfl, valued, left, right, h⟩

theorem stops_of_postorder {t : Tree} {e : Refusal} (h : t.value limits = .error e) :
    Stops limits t.postorder e := by
  have stops : Stops limits (postorders [t] ++ []) e := stops_of_value h (List.forall_mem_nil _) []
  rwa [List.append_nil] at stops

/-- Trees that do not all have values have one, too. -/
theorem stops_of_values {stack : List Tree} {e : Refusal} (h : values limits stack = .error e)
    (rest : List Token) : Stops limits (postorders stack ++ rest) e := by
  induction stack generalizing rest with
  | nil => cases h
  | cons t below ih =>
    rw [values] at h
    cases lower : values limits below with
    | error e' =>
      rw [lower] at h
      cases h
      have stopped := ih lower (t.postorder ++ rest)
      rwa [← List.append_assoc] at stopped
    | ok vs =>
      cases top : t.value limits with
      | error e' =>
        rw [lower, top] at h
        cases h
        exact stops_of_value top (exists_values_iff.1 ⟨vs, lower⟩) rest
      | ok v =>
        rw [lower, top] at h
        cases h

end Tree

/-! ### Evaluation -/

namespace Token

open Abacus.Tree

variable {limits : Limits} {ts : List Token}

/-- The value of a postorder is the value of its tree. -/
theorem evaluate_postorder (limits : Limits) (t : Tree) :
    evaluate limits t.postorder = t.value limits := by
  have run : t.postorder.foldlM (push limits) [] = (t.value limits).map ([·]) :=
    foldlM_push_postorders limits [t]
  rw [evaluate, run]
  cases t.value limits <;> rfl

theorem evaluate_of_stops {e : Refusal} (h : Stops limits ts e) :
    evaluate limits ts = .error e := by
  rw [evaluate, h.foldlM_push]

/-- Tokens that are the postorder of no tree are refused as an expression, unless a calculation is
refused in front of the first token out of place. -/
theorem evaluate_of_ne_postorder (limits : Limits) (malformed : ∀ t : Tree, t.postorder ≠ ts) :
    (∃ e, Stops limits ts e) ∨ evaluate limits ts = .error .invalidExpression := by
  cases exists_reading ts with
  | complete stack =>
    cases run : values limits stack with
    | error e =>
      have stops := stops_of_values run []
      rw [List.append_nil] at stops
      exact .inl ⟨e, stops⟩
    | ok vs =>
      -- there are no values, or more than one
      refine .inr ?_
      have length := length_values run
      rw [evaluate, foldlM_push_postorders, run]
      obtain _ | ⟨v, _ | ⟨w, vs⟩⟩ := vs
      · rfl
      · obtain ⟨t, rfl⟩ := List.length_eq_one_iff.1 length.symm
        exact absurd rfl (malformed t)
      · rfl
  | misplaced stack t rest refused =>
    cases run : values limits stack with
    | error e => exact .inl ⟨e, stops_of_values run (t :: rest)⟩
    | ok vs =>
      have stopped : (postorders stack ++ t :: rest).foldlM (push limits) []
          = .error .invalidExpression := by
        rw [List.foldlM_append, foldlM_push_postorders, run]
        show (t :: rest).foldlM (push limits) vs = _
        rw [List.foldlM_cons, push_of_plant_eq_none refused run]
        rfl
      exact .inr (by rw [evaluate, stopped])

theorem evaluate_eq_ok_iff {v : Int} :
    evaluate limits ts = .ok v ↔ ∃ t : Tree, t.postorder = ts ∧ t.value limits = .ok v := by
  constructor
  · intro evaluated
    by_cases h : ∃ t : Tree, t.postorder = ts
    · obtain ⟨t, rfl⟩ := h
      exact ⟨t, rfl, by rw [← evaluate_postorder, evaluated]⟩
    · rcases evaluate_of_ne_postorder limits (not_exists.1 h) with ⟨e, stops⟩ | refused
      · rw [evaluate_of_stops stops] at evaluated
        cases evaluated
      · rw [refused] at evaluated
        cases evaluated
  · rintro ⟨t, rfl, value⟩
    rw [evaluate_postorder, value]

theorem evaluate_eq_error_iff {e : Refusal} :
    evaluate limits ts = .error e ↔ Stops limits ts e ∨
      e = .invalidExpression ∧ (∀ t : Tree, t.postorder ≠ ts) ∧ ∀ e', ¬ Stops limits ts e' := by
  constructor
  · intro refused
    by_cases h : ∃ e', Stops limits ts e'
    · obtain ⟨e', stops⟩ := h
      rw [evaluate_of_stops stops] at refused
      cases refused
      exact .inl stops
    · have malformed : ∀ t : Tree, t.postorder ≠ ts := by
        rintro t rfl
        rw [evaluate_postorder] at refused
        exact h ⟨e, stops_of_postorder refused⟩
      rw [(evaluate_of_ne_postorder limits malformed).resolve_left h] at refused
      cases refused
      exact .inr ⟨rfl, malformed, not_exists.1 h⟩
  · rintro (stops | ⟨rfl, malformed, free⟩)
    · exact evaluate_of_stops stops
    · exact (evaluate_of_ne_postorder limits malformed).resolve_left (not_exists.2 free)

/-- **Evaluation accepts the postorders, and nothing else**. Tokens have a value exactly when they
are the postorder of a tree with that value, and no two trees have the same postorder. The postorder
of a tree without a value is refused for the first calculation of the tree that is refused. The
postorder of no tree is refused, too: for the first calculation that is refused, if one is before
anything is out of place, and as an expression if none is. -/
theorem evaluate_accepts_postorder (limits : Limits) (ts : List Token) :
    (∀ v, evaluate limits ts = .ok v ↔ ∃ t : Tree, t.postorder = ts ∧ t.value limits = .ok v) ∧
      (∀ t t' : Tree, t.postorder = ts → t'.postorder = ts → t = t') ∧
      (∀ (t : Tree) (e : Refusal), t.postorder = ts → t.value limits = .error e →
        evaluate limits ts = .error e ∧ Stops limits ts e ∧ e.OfArithmetic) ∧
      ((∀ t : Tree, t.postorder ≠ ts) → ∃ e, evaluate limits ts = .error e ∧
        (Stops limits ts e ∧ e.OfArithmetic ∨
          e = .invalidExpression ∧ ∀ e', ¬ Stops limits ts e')) := by
  refine ⟨fun v => evaluate_eq_ok_iff, ?_, ?_, ?_⟩
  · intro t t' ht ht'
    exact postorder_injective (ht.trans ht'.symm)
  · rintro t e rfl value
    have stops : Stops limits t.postorder e := stops_of_postorder value
    exact ⟨evaluate_of_stops stops, stops, stops.ofArithmetic⟩
  · intro malformed
    cases evaluated : evaluate limits ts with
    | ok v =>
      obtain ⟨t, ht, -⟩ := evaluate_eq_ok_iff.1 evaluated
      exact absurd ht (malformed t)
    | error e =>
      refine ⟨e, rfl, ?_⟩
      rcases evaluate_eq_error_iff.1 evaluated with stops | ⟨rfl, -, free⟩
      · exact .inl ⟨stops, stops.ofArithmetic⟩
      · exact .inr ⟨rfl, free⟩

/-- A tree with a value, one whose left operand is refused in front of its right one, and two lists
that are the postorder of no tree: in one of them a division by zero comes first, in the other a `+`
without operands. -/
theorem evaluate_accepts_postorder_division :
    let quotient (n d : Int) : Tree := .operation .over (.number n) (.number d)
    let power : Tree := .operation .power (.number 2) (.number (-1))
    let late : List Token := [.number 1, .number 0, .op .over, .op .plus]
    let early : List Token := [.number 1, .op .plus, .number 0, .op .over]
    evaluate .standard (quotient (-7) 2).postorder = .ok (-3) ∧
      (evaluate .standard (Tree.operation .plus (quotient 1 0) power).postorder
          = .error .divisionByZero ∧
        Stops .standard (Tree.operation .plus (quotient 1 0) power).postorder .divisionByZero ∧
        Refusal.divisionByZero.OfArithmetic) ∧
      ((∀ t : Tree, t.postorder ≠ late) ∧ evaluate .standard late = .error .divisionByZero ∧
        Stops .standard late .divisionByZero) ∧
      ((∀ t : Tree, t.postorder ≠ early) ∧ evaluate .standard early = .error .invalidExpression ∧
        ∀ e, ¬ Stops .standard early e) := by
  intro quotient power late early
  have malformed : ∀ t : Tree, t.postorder ≠ late := ne_postorder rfl
  have malformed' : ∀ t : Tree, t.postorder ≠ early := ne_postorder rfl
  refine ⟨((evaluate_accepts_postorder _ _).1 _).2 ⟨_, rfl, rfl⟩,
    (evaluate_accepts_postorder _ _).2.2.1 _ _ rfl rfl, ⟨malformed, rfl, ?_⟩, malformed', rfl, ?_⟩
  · obtain ⟨e, refused, ⟨stops, -⟩ | ⟨rfl, -⟩⟩ :=
      (evaluate_accepts_postorder .standard late).2.2.2 malformed
    · cases refused
      exact stops
    · cases refused
  · obtain ⟨e, refused, ⟨-, arithmetic⟩ | ⟨-, free⟩⟩ :=
      (evaluate_accepts_postorder .standard early).2.2.2 malformed'
    · cases refused
      cases arithmetic
    · exact free

end Token

end Abacus
