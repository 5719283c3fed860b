import Abacus.Proofs.Commands

/-!
# One warning for each refused line

A session warns of each line that is refused, once, and of no other line. The warning is the last
event of its line. What comes in front of it are the stages that the line went through until it was
refused.

- **Trails** (`Trail`, `Store.trail_evaluate`): all that can be recorded of a line in front of its
  warning. A power over the budget leaves an event of its own, and is refused at once; its exponent
  is not negative (`Token.nonneg_of_evaluate`).
- **Turns** (`Session.exists_trail`): the events of a turn are a trail and the warning, if the line
  is refused.
- **Runs** (`Session.log`, `Session.warnings`): the events of a run, each with the number of its
  line, and the warnings that are due. An event of a run is looked at in the turn that it comes
  from (`Session.exists_turn`).
-/

namespace Abacus

/-! ### Trails -/

/-- What can be recorded of a line in front of its warning, if it is refused, and of a line that
is not. -/
inductive Trail : List Event → Option Refusal → Prop where
  | nothing (refusal? : Option Refusal) : Trail [] refusal?
  | exit : Trail [.exitRequested] none
  | assigned (name : Text) (v : Int) : Trail [.assigned name v] none
  | normalised (text : Text) (e : Refusal) : Trail [.normalised text] (some e)
  | postfixed (text : Text) (ts : List Token) (refusal? : Option Refusal) :
      Trail [.normalised text, .postfixed ts] refusal?
  | overBudget (text : Text) (ts : List Token) (bits bitsMax : Nat) {exponent : Int}
      (nonneg : 0 ≤ exponent) :
      Trail [.normalised text, .postfixed ts, .powerRefused bits bitsMax]
        (some (.invalidExponent exponent (.overBudget bits bitsMax)))

/-- The refusal that a calculation ends with, if it ends with one. -/
def Report.refusal? {α : Type} (r : Report α) : Option Refusal :=
  match r.outcome with
  | .ok _ => none
  | .error e => some e

/-- A power that goes over the budget has no negative exponent. -/
theorem Token.nonneg_of_evaluate {limits : Limits} {ts : List Token} {exponent : Int}
    {bits bitsMax : Nat}
    (h : evaluate limits ts = .error (.invalidExponent exponent (.overBudget bits bitsMax))) :
    0 ≤ exponent := by
  rcases evaluate_eq_error_iff.1 h with ⟨_, _, _, o, _, a, b, -, -, -, -, refused⟩ | ⟨⟨⟩, -⟩
  have outcome := o.outcome_apply limits a b
  rw [o.apply_eq_value, refused] at outcome
  cases outcome with
  | power outcome =>
    cases outcome with
    | refused _ nonneg _ _ => exact nonneg

namespace Store

variable (store : Store) (limits : Limits)

theorem trail_evaluateSpaced (text : Text) :
    Trail (.normalised text :: (store.evaluateSpaced limits text).events)
      (store.evaluateSpaced limits text).refusal? := by
  rw [evaluateSpaced]
  cases store.resolve (Token.scan text) with
  | error e => exact .normalised text e
  | ok resolved =>
    dsimp only
    cases Token.toPostfix resolved with
    | error e => exact .normalised text e
    | ok postfixed =>
      dsimp only
      cases evaluated : Token.evaluate limits postfixed with
      | ok v => exact .postfixed text postfixed none
      | error e =>
        -- of the refusals by the arithmetic, one leaves an event
        cases e with
        | invalidExponent exponent cause =>
          cases cause with
          | overBudget bits bitsMax =>
            exact .overBudget text postfixed bits bitsMax (Token.nonneg_of_evaluate evaluated)
          | _ => exact .postfixed text postfixed _
        | _ => exact .postfixed text postfixed _

theorem trail_evaluateExpression (line : Text) :
    Trail (store.evaluateExpression limits line).events
      (store.evaluateExpression limits line).refusal? := by
  rw [evaluateExpression]
  cases Normalised.ofText? line with
  | none => exact .nothing _
  | some form =>
    cases form with
    | literal n => exact .nothing _
    | spaced text => exact store.trail_evaluateSpaced limits text

theorem trail_evaluate (line : Text) :
    Trail (store.evaluate limits line).events (store.evaluate limits line).refusal? := by
  rw [evaluate]
  split_ifs
  · exact .nothing _
  · cases store.binding line.trim with
    | error e => exact .nothing _
    | ok b => exact .assigned b.1 b.2
  · cases store.read line.trim with
    | error e => exact .nothing _
    | ok v => exact .nothing _
  · exact .nothing _
  · have trail := store.trail_evaluateExpression limits line.trim
    revert trail
    generalize store.evaluateExpression limits line.trim = report
    obtain ⟨events, outcome⟩ := report
    cases outcome with
    | error e => exact id
    | ok a => exact id
  · exact .nothing _

end Store

/-- Of two lists, one behind the other, an element stands in the first or in the second. -/
theorem split_append {α : Type} {xs ys pre post : List α} {x : α}
    (split : xs ++ ys = pre ++ x :: post) :
    (∃ mid, xs = pre ++ x :: mid ∧ post = mid ++ ys) ∨
      ∃ mid, pre = xs ++ mid ∧ ys = mid ++ x :: post := by
  rcases List.append_eq_append_iff.1 split with ⟨mid, front, back⟩ | ⟨mid, front, back⟩
  · exact .inr ⟨mid, front, back⟩
  · cases mid with
    | nil => exact .inr ⟨[], by rw [front, List.append_nil, List.append_nil], back.symm⟩
    | cons y mid =>
      obtain ⟨rfl, rest⟩ := List.cons.inj back
      exact .inl ⟨mid, front, rest⟩

namespace Trail

variable {trail early late : List Event} {r : Option Refusal} {line : Text} {w : Event}

theorem level_ne_warn (h : Trail trail r) : ∀ e ∈ trail, e.level ≠ .warn := by
  cases h with
  | nothing _ => exact List.forall_mem_nil _
  | exit => exact List.forall_mem_singleton.2 nofun
  | assigned _ _ => exact List.forall_mem_singleton.2 nofun
  | normalised _ _ => exact List.forall_mem_singleton.2 nofun
  | postfixed _ _ _ => exact List.forall_mem_cons.2 ⟨nofun, List.forall_mem_singleton.2 nofun⟩
  | overBudget _ _ _ _ _ =>
    exact List.forall_mem_cons.2
      ⟨nofun, List.forall_mem_cons.2 ⟨nofun, List.forall_mem_singleton.2 nofun⟩⟩

theorem filter_warn (h : Trail trail r) (line : Text) :
    (trail ++ (r.map (Event.refused line)).toList).filter (fun e => e.level = .warn)
      = (r.map (Event.refused line)).toList := by
  have none : trail.filter (fun e => e.level = .warn) = [] :=
    List.filter_eq_nil_iff.2 fun e he => by simpa using h.level_ne_warn e he
  rw [List.filter_append, none, List.nil_append]
  cases r <;> rfl

/-- The warning is the last event. -/
theorem split_warning (split : (r.map (Event.refused line)).toList = early ++ w :: late) :
    ∃ cause, r = some cause ∧ early = [] ∧ w = .refused line cause ∧ late = [] := by
  cases r with
  | none => simp at split
  | some cause =>
    cases early with
    | nil =>
      cases split
      exact ⟨cause, rfl, rfl, rfl, rfl⟩
    | cons _ early => simp at split

theorem split_warn (h : Trail trail r) (warn : w.level = .warn)
    (split : trail ++ (r.map (Event.refused line)).toList = early ++ w :: late) :
    ∃ cause, r = some cause ∧ w = .refused line cause ∧ late = [] := by
  rcases split_append split with ⟨mid, rfl, -⟩ | ⟨mid, -, due⟩
  · exact absurd warn (h.level_ne_warn w (by simp))
  · obtain ⟨cause, refused, -, warning, last⟩ := split_warning due
    exact ⟨cause, refused, warning, last⟩

/-- A power over the budget is refused at once. -/
theorem split_powerRefused (h : Trail trail r) {bits bitsMax : Nat}
    (split : trail ++ (r.map (Event.refused line)).toList
      = early ++ .powerRefused bits bitsMax :: late) :
    ∃ exponent, 0 ≤ exponent ∧
      late = [.refused line (.invalidExponent exponent (.overBudget bits bitsMax))] := by
  rcases split_append split with ⟨mid, within, rfl⟩ | ⟨mid, -, due⟩
  · cases h with
    | overBudget text ts bits' bitsMax' nonneg =>
      obtain ⟨-, ⟨rfl, rfl⟩, rfl⟩ : early = [.normalised text, .postfixed ts] ∧
          (bits = bits' ∧ bitsMax = bitsMax') ∧ mid = [] := by
        simpa [List.cons_eq_append_iff] using within
      exact ⟨_, nonneg, rfl⟩
    | _ => simp [List.cons_eq_append_iff] at within
  · obtain ⟨_, -, -, ⟨⟩, -⟩ := split_warning due

/-- A postfix form comes straight from a normal form. -/
theorem split_postfixed (h : Trail trail r) {ts : List Token}
    (split : trail ++ (r.map (Event.refused line)).toList
      = early ++ .postfixed ts :: late) :
    ∃ text, early = [.normalised text] := by
  rcases split_append split with ⟨mid, within, rfl⟩ | ⟨mid, -, due⟩
  · cases h with
    | postfixed text ts' _ =>
      have place : early = [.normalised text] ∧ ts = ts' ∧ mid = [] := by
        simpa [List.cons_eq_append_iff] using within
      exact ⟨text, place.1⟩
    | overBudget text ts' bits bitsMax _ =>
      have place : early = [.normalised text] ∧ ts = ts' ∧ mid = [.powerRefused bits bitsMax] := by
        simpa [List.cons_eq_append_iff] using within
      exact ⟨text, place.1⟩
    | _ => simp [List.cons_eq_append_iff] at within
  · obtain ⟨_, -, -, ⟨⟩, -⟩ := split_warning due

end Trail

/-! ### Turns -/

namespace Session

/-- The refusal of a line, if it is refused; a command is not. -/
def refusal? (s : Session) (line : Text) : Option Refusal :=
  match Command.ofText? line.trim with
  | some _ => none
  | none => (s.store.evaluate s.limits line).refusal?

theorem refusal?_eq_some_iff {s : Session} {line : Text} {e : Refusal} :
    s.refusal? line = some e ↔ (∀ c : Command, line.trim ≠ c.text) ∧
      (s.store.evaluate s.limits line).outcome = .error e := by
  rw [refusal?, ← Command.ofText?_eq_none_iff]
  cases Command.ofText? line.trim with
  | some c => exact ⟨nofun, fun h => nomatch h.1⟩
  | none =>
    dsimp only
    rw [Report.refusal?]
    cases (s.store.evaluate s.limits line).outcome with
    | ok answer => exact ⟨nofun, fun h => nomatch h.2⟩
    | error e' => simp

/-- The warning of a line, if it is refused. -/
def warning? (s : Session) (line : Text) : Option Event :=
  (s.refusal? line).map (.refused line.trim)

/-- **Step**: the events of a line are those on the way, and the warning if it is refused. -/
theorem exists_trail (s : Session) (line : Text) :
    ∃ trail, Trail trail (s.refusal? line) ∧
      (s.turn line).events = trail ++ (s.warning? line).toList := by
  rw [warning?, refusal?, turn]
  cases Command.ofText? line.trim with
  | some c =>
    cases c with
    | exit => exact ⟨_, .exit, rfl⟩
    | help => exact ⟨_, .nothing _, rfl⟩
    | print => exact ⟨_, .nothing _, rfl⟩
  | none =>
    refine ⟨_, s.store.trail_evaluate s.limits line, ?_⟩
    dsimp only
    rw [evaluate, Store.evaluate_trim, Report.refusal?]
    cases (s.store.evaluate s.limits line).outcome with
    | ok answer => exact (List.append_nil _).symm
    | error e => rfl

end Session

/-! ### Runs -/

/-- The field that says what a refusal is about. -/
inductive Refusal.Concerns : Refusal → Text × Text → Prop where
  | variable (name : Text) : Concerns (.unknownVariable name) ("nom".toList, Quoted.encode name)
  | command (line : Text) : Concerns (.unknownCommand line) ("commande".toList, Quoted.encode line)
  | exponent (n : Int) (cause : PowerRefusal) :
      Concerns (.invalidExponent n cause) ("exposant".toList, Decimal.ofInt n)
  | other {e : Refusal} (plain : e.detail? = none) : Concerns e ("erreur".toList, e.message)

theorem Refusal.concerns_causeField (e : Refusal) : e.Concerns (Event.causeField e) := by
  cases e with
  | unknownVariable name => exact .variable name
  | unknownCommand line => exact .command line
  | invalidExponent n cause => exact .exponent n cause
  | _ => exact .other rfl

namespace Session

/-- The events of a run, each with the number of its line; the first line has the number `n`. -/
def log (s : Session) (n : Nat) : List Text → List (Nat × Event)
  | [] => []
  | line :: lines =>
    (s.turn line).events.map (Prod.mk n) ++ log (s.turn line).session (n + 1) lines

/-- A warning for each line of a run that is refused, with the number of the line. -/
def warnings (s : Session) (n : Nat) : List Text → List (Nat × Event)
  | [] => []
  | line :: lines =>
    (s.warning? line).toList.map (Prod.mk n) ++ warnings (s.turn line).session (n + 1) lines

theorem map_snd_log (lines : List Text) (s : Session) (n : Nat) :
    (s.log n lines).map Prod.snd = (s.turns lines).flatMap Turn.events := by
  induction lines generalizing s n with
  | nil => rfl
  | cons line lines ih =>
    rw [log, turns, List.map_append, ih, List.map_map, List.flatMap_cons]
    exact congrArg (· ++ _) (List.map_id _)

theorem filter_warn_log (lines : List Text) (s : Session) (n : Nat) :
    (s.log n lines).filter (fun a => a.2.level = .warn) = s.warnings n lines := by
  induction lines generalizing s n with
  | nil => rfl
  | cons line lines ih =>
    obtain ⟨trail, ht, events⟩ := s.exists_trail line
    have here : (s.turn line).events.filter (fun e => e.level = .warn)
        = (s.warning? line).toList := by
      rw [events]
      exact ht.filter_warn line.trim
    rw [log, warnings, List.filter_append, List.filter_map, ih, ← here]
    rfl

/-- The numbers of the lines grow from the first to the last. -/
theorem number_of_mem_log {a : Nat × Event} {lines : List Text} {s : Session} {n : Nat}
    (h : a ∈ s.log n lines) : n ≤ a.1 ∧ a.1 < n + lines.length := by
  induction lines generalizing s n with
  | nil => cases h
  | cons line lines ih =>
    rw [List.length_cons]
    rcases List.mem_append.1 h with here | later
    · obtain ⟨e, -, rfl⟩ := List.mem_map.1 here
      exact ⟨Nat.le_refl n, Nat.lt_add_of_pos_right (Nat.succ_pos _)⟩
    · have bounds := ih later
      omega

/-- An event of a run is one of a turn: in front of it and behind it are the other events of that
turn, and further away those of the turns before and after. -/
theorem exists_turn {pre post : List (Nat × Event)} {i : Nat} {e : Event} {lines : List Text}
    {s : Session} {n : Nat} (split : s.log n lines = pre ++ (i, e) :: post) :
    ∃ before line later trail early late, lines = before ++ line :: later ∧ i = n + before.length ∧
      Trail trail ((s.after before).refusal? line) ∧
      trail ++ ((s.after before).warning? line).toList = early ++ e :: late ∧
      pre = s.log n before ++ early.map (Prod.mk i) ∧
      post = late.map (Prod.mk i) ++ (s.after (before ++ [line])).log (i + 1) later := by
  induction lines generalizing s n pre with
  | nil => simp [log] at split
  | cons line lines ih =>
    rcases split_append split with ⟨mid, here, rfl⟩ | ⟨mid, rfl, rest⟩
    · obtain ⟨early, tail, events, rfl, behind⟩ := List.map_eq_append_iff.1 here
      obtain ⟨e, late, rfl, ⟨⟩, rfl⟩ := List.map_eq_cons_iff.1 behind
      obtain ⟨trail, ht, whole⟩ := s.exists_trail line
      exact ⟨[], line, lines, trail, early, late, rfl, rfl, ht, whole.symm.trans events, rfl, rfl⟩
    · obtain ⟨before, line', later, trail, early, late, rfl, rfl, ht, turn, rfl, rfl⟩ := ih rest
      refine ⟨line :: before, line', later, trail, early, late, rfl, ?_, ht, turn, ?_, rfl⟩
      · rw [List.length_cons]
        omega
      · rw [log, List.append_assoc]

/-- **Runs**: the warnings of a run are, in order, one for each line that is refused and none for
any other. A warning stands behind all events of its line and of the lines before, and in front of
all events of the lines after; it gives the line without the white space around it, and what the
refusal is about. An event that a power went over the budget is followed at once by the warning for
its line, of an exponent that is not negative; and right in front of a postfix form stands the
normal form that it was made from. -/
theorem run_warnings (s : Session) (lines : List Text) :
    (s.log 0 lines).map Prod.snd = (s.turns lines).flatMap Turn.events ∧
      (s.log 0 lines).filter (fun a => a.2.level = .warn) = s.warnings 0 lines ∧
      (∀ pre i w post, s.log 0 lines = pre ++ (i, w) :: post → w.level = .warn →
        (∃ line cause field, lines[i]? = some line ∧ (∀ c : Command, line.trim ≠ c.text) ∧
          ((s.after (lines.take i)).store.evaluate (s.after (lines.take i)).limits line).outcome
            = .error cause ∧
          w = .refused line.trim cause ∧ cause.Concerns field ∧
          w.fields = [("ligne".toList, Quoted.encode line.trim), field]) ∧
          (∀ a ∈ pre, a.1 ≤ i) ∧ ∀ a ∈ post, i < a.1) ∧
      (∀ pre i bits bitsMax post, s.log 0 lines = pre ++ (i, .powerRefused bits bitsMax) :: post →
        ∃ line exponent later, lines[i]? = some line ∧ 0 ≤ exponent ∧
          post = (i, .refused line.trim (.invalidExponent exponent (.overBudget bits bitsMax)))
            :: later) ∧
      ∀ pre i tokens post, s.log 0 lines = pre ++ (i, .postfixed tokens) :: post →
        ∃ earlier text, pre = earlier ++ [(i, .normalised text)] := by
  refine ⟨s.map_snd_log lines 0, s.filter_warn_log lines 0, ?_, ?_, ?_⟩
  · intro pre i w post split warn
    obtain ⟨before, line, later, trail, early, late, rfl, rfl, ht, turn, rfl, rfl⟩ :=
      exists_turn split
    obtain ⟨cause, refused, rfl, rfl⟩ := ht.split_warn warn turn
    obtain ⟨other, outcome⟩ := refusal?_eq_some_iff.1 refused
    rw [Nat.zero_add]
    refine ⟨⟨line, cause, _, by simp, other, ?_, rfl, cause.concerns_causeField, rfl⟩, ?_, ?_⟩
    · rw [List.take_left]
      exact outcome
    · intro a ha
      rcases List.mem_append.1 ha with front | same
      · have bounds := number_of_mem_log front
        omega
      · obtain ⟨e, -, rfl⟩ := List.mem_map.1 same
        exact Nat.le_refl _
    · intro a ha
      have bounds := number_of_mem_log ha
      omega
  · intro pre i bits bitsMax post split
    obtain ⟨before, line, later, trail, early, late, rfl, rfl, ht, turn, rfl, rfl⟩ :=
      exists_turn split
    obtain ⟨exponent, nonneg, rfl⟩ := ht.split_powerRefused turn
    exact ⟨line, exponent, _, by simp, nonneg, rfl⟩
  · intro pre i tokens post split
    obtain ⟨before, line, later, trail, early, late, rfl, rfl, ht, turn, rfl, rfl⟩ :=
      exists_turn split
    obtain ⟨text, rfl⟩ := ht.split_postfixed turn
    exact ⟨s.log 0 before, text, rfl⟩

/-- A power over the budget, a command and an assignment, which give no warning, and a command that
is not known. -/
theorem run_warnings_of_power :
    let s := new { exponentMax := 100, bitsMax := 8 }
    let lines : List Text := ["2^9".toList, "/help".toList, "x = 1".toList, " /go".toList]
    let first : List (Nat × Event) :=
      [(0, .normalised "2 ^ 9".toList), (0, .postfixed [.number 2, .number 9, .op .power])]
    let later : List (Nat × Event) :=
      [(2, .assigned "x".toList 1), (3, .refused "/go".toList (.unknownCommand "/go".toList))]
    let warning := Event.refused "2^9".toList (.invalidExponent 9 (.overBudget 9 8))
    s.log 0 lines = first ++ (0, .powerRefused 9 8) :: (0, warning) :: later ∧
      (s.log 0 lines).filter (fun a => a.2.level = .warn)
        = [(0, warning), (3, .refused "/go".toList (.unknownCommand "/go".toList))] ∧
      ∃ exponent, 0 ≤ exponent ∧ (0, warning) :: later
        = (0, .refused "2^9".toList (.invalidExponent exponent (.overBudget 9 8))) :: later := by
  intro s lines first later warning
  have split : s.log 0 lines = first ++ (0, .powerRefused 9 8) :: (0, warning) :: later := by decide
  obtain ⟨-, warnings, -, powers, -⟩ := s.run_warnings lines
  obtain ⟨line, exponent, _, ⟨⟩, nonneg, rest⟩ := powers first 0 9 8 ((0, warning) :: later) split
  refine ⟨split, ?_, exponent, nonneg, ?_⟩
  · rw [warnings]
    decide
  · obtain ⟨same, rfl⟩ := List.cons.inj rest
    rw [same]
    rfl

end Session

end Abacus
