import Abacus.Proofs.Frame
import Abacus.Session
import Mathlib.Data.List.Induction

/-!
# What a session remembers

All that a session remembers are its assignments. The store after any lines is what the accepted
assignments among them make of it, one after the other, each with the value that its right side had
at its turn; and a session that has been given nothing else replies alike from then on.

- **Bindings** (`Store.latest`): a store that is made by bindings shows the last value of every
  name, in the order of the first ones.
- **Histories** (`History`): which lines of a run are assignments, and of what, told from the lines
  alone.
- **Turns** (`Session.turn_cases`): an accepted assignment binds its name, and no other turn changes
  the store. Over a run this makes a history (`Session.exists_history`).
- **Replies** (`Session.Agrees`): sessions with the same store and limits reply alike, so the lines
  that changed no store can be left out (`Session.run_accepted`).
-/

namespace Abacus

/-! ### Bindings -/

namespace Store

/-- The value that bindings, made one after the other, give to a name. -/
def latest (bs : List (Text × Int)) (name : Text) : Option Int :=
  bs.reverse.lookup name

theorem latest_concat (bs : List (Text × Int)) (name other : Text) (v : Int) :
    latest (bs ++ [(name, v)]) other = if other = name then some v else latest bs other := by
  rw [latest, List.reverse_append]
  show List.lookup other ((name, v) :: bs.reverse) = _
  rw [List.lookup_cons]
  by_cases same : other = name
  · rw [beq_iff_eq.2 same, if_pos same]
  · rw [beq_eq_false_iff_ne.2 same, if_neg same]
    rfl

theorem ofList_concat (bs : List (Text × Int)) (name : Text) (v : Int) :
    ofList (bs ++ [(name, v)]) = (ofList bs).bind name v :=
  List.foldl_append

/-- Every name has the value of its last binding. -/
theorem get?_ofList (bs : List (Text × Int)) : (ofList bs).get? = latest bs := by
  induction bs using List.reverseRecOn with
  | nil => rfl
  | append_singleton bs b ih =>
    obtain ⟨name, v⟩ := b
    funext other
    rw [ofList_concat, get?_bind, latest_concat, ih]

/-- The names stand in the order of their first bindings. -/
theorem names_ofList (bs : List (Text × Int)) :
    (ofList bs).names = (bs.map Prod.fst).eraseDups := by
  induction bs using List.reverseRecOn with
  | nil => rfl
  | append_singleton bs b ih =>
    obtain ⟨name, v⟩ := b
    rw [ofList_concat, names_bind, ih, List.map_append, List.eraseDups_append]
    by_cases known : name ∈ bs.map Prod.fst
    · have none : List.removeAll [name] (bs.map Prod.fst) = [] := by
        simp only [List.removeAll, List.filter_cons, List.elem_eq_mem, known]
        rfl
      rw [if_pos (List.mem_eraseDups.2 known)]
      show _ = _ ++ (List.removeAll [name] _).eraseDups
      rw [none]
      exact (List.append_nil _).symm
    · have one : List.removeAll [name] (bs.map Prod.fst) = [name] := by
        simp only [List.removeAll, List.filter_cons, List.elem_eq_mem, known]
        rfl
      rw [if_neg (List.mem_eraseDups.not.2 known)]
      show _ = _ ++ (List.removeAll [name] _).eraseDups
      rw [one]
      rfl

theorem valueIn_of_mem {name : Text} {v : Int} :
    ∀ {l : List (Text × Int)}, (l.map Prod.fst).Nodup → (name, v) ∈ l → valueIn name l = some v
  | [], _, h => by cases h
  | (n, w) :: l, distinct, h => by
    obtain ⟨apart, distinct⟩ := List.nodup_cons.1 distinct
    rw [valueIn]
    rcases List.mem_cons.1 h with here | later
    · cases here
      rw [if_pos rfl]
    · have other : n ≠ name := by
        rintro rfl
        exact apart (List.mem_map.2 ⟨_, later, rfl⟩)
      rw [if_neg other, valueIn_of_mem distinct later]

theorem evaluate_trim (store : Store) (limits : Limits) (line : Text) :
    store.evaluate limits line.trim = store.evaluate limits line := by
  simp only [evaluate, Text.trim_trim]

end Store

open Store (latest)

/-! ### Histories -/

/-- Whether, of the lines of a run, those that are kept are the assignments, and the bindings are
the ones that they make: each name is bound to the value that the right side has by the bindings
before. -/
inductive History : List Text → List Text → List (Text × Int) → Prop where
  | nil : History [] [] []
  | assignment {lines kept : List Text} {bs : List (Text × Int)} {line name : Text} {v : Int}
      (before : History lines kept bs) (assigns : Assigns (latest bs) line name v) :
      History (lines ++ [line]) (kept ++ [line]) (bs ++ [(name, v)])
  | other {lines kept : List Text} {bs : List (Text × Int)} {line : Text}
      (before : History lines kept bs) (none : ∀ name v, ¬ Assigns (latest bs) line name v) :
      History (lines ++ [line]) kept bs

theorem History.isName {lines kept : List Text} {bs : List (Text × Int)}
    (h : History lines kept bs) : ∀ b ∈ bs, b.1.isName = true := by
  induction h with
  | nil => exact nofun
  | assignment _ assigns ih =>
    intro b hb
    rcases List.mem_append.1 hb with old | new
    · exact ih b old
    · obtain rfl := List.mem_singleton.1 new
      exact assigns.left.2.2
  | other _ _ ih => exact ih

namespace Session

/-! ### Turns -/

/-- The session after some lines. -/
def after (s : Session) (lines : List Text) : Session :=
  lines.foldl (fun s line => (s.turn line).session) s

/-- Whether a line is an assignment that the session accepts: it has a `=` and nothing is shown. -/
def accepts (s : Session) (line : Text) : Bool :=
  '=' ∈ line && (s.turn line).reply = .silence

/-- The lines of a run that are accepted as assignments when their turn comes. -/
def accepted (s : Session) : List Text → List Text
  | [] => []
  | line :: lines =>
    let rest := accepted (s.turn line).session lines
    if s.accepts line then line :: rest else rest

section Turn

variable {s : Session} {line : Text}

/-- The store after a line that is no command, whether it is answered or refused. -/
theorem store_turn (command : Command.ofText? line.trim = none) :
    (s.turn line).session.store = s.store.after s.limits line := by
  rw [turn, command, Store.after, ← Store.evaluate_trim]
  dsimp only
  rw [evaluate]
  cases (s.store.evaluate s.limits line.trim).outcome <;> rfl

theorem reply_of_answered (command : Command.ofText? line.trim = none) {answer : Answer}
    (h : (s.store.evaluate s.limits line).outcome = .ok answer) :
    (s.turn line).reply = match answer.value? with
      | some v => .display (Decimal.ofInt v)
      | none => .silence := by
  rw [← Store.evaluate_trim] at h
  rw [turn, command]
  dsimp only
  rw [evaluate]
  generalize (s.store.evaluate s.limits line.trim).outcome = outcome at h ⊢
  subst h
  rfl

theorem reply_of_refused (command : Command.ofText? line.trim = none) {e : Refusal}
    (h : (s.store.evaluate s.limits line).outcome = .error e) :
    (s.turn line).reply = .display e.message := by
  rw [← Store.evaluate_trim] at h
  rw [turn, command]
  simp only [evaluate, h]

/-- A line with an `=` is no command. -/
theorem ofText?_trim_of_mem (h : '=' ∈ line) : Command.ofText? line.trim = none := by
  cases command : Command.ofText? line.trim with
  | none => rfl
  | some c =>
    rw [← Text.mem_trim_iff rfl, Command.ofText?_eq_some_iff.1 command] at h
    cases c <;> exact absurd h (by decide)

/-- An assignment that can be carried out is, and nothing is shown. -/
theorem turn_of_assigns {name : Text} {v : Int} (h : Assigns s.store.get? line name v) :
    (s.turn line).reply = .silence ∧ (s.turn line).session.store = s.store.bind name v := by
  have command : Command.ofText? line.trim = none := ofText?_trim_of_mem h.mem
  obtain ⟨answered, bound⟩ := Store.evaluate_of_assigns h s.limits
  exact ⟨reply_of_answered command answered, (store_turn command).trans bound⟩

theorem accepts_of_not_mem (h : '=' ∉ line) : s.accepts line = false := by
  rw [accepts, decide_eq_false h]
  rfl

theorem accepts_of_display {text : Text} (h : (s.turn line).reply = .display text) :
    s.accepts line = false := by
  rw [accepts, h]
  exact Bool.and_false _

end Turn

/-- **Step**: an accepted assignment binds its name, and no other turn changes the store. -/
theorem turn_cases (s : Session) (line : Text) :
    (s.accepts line = true ∧ ∃ name v, Assigns s.store.get? line name v ∧
        (s.turn line).session.store = s.store.bind name v) ∨
      (s.accepts line = false ∧ (∀ name v, ¬ Assigns s.store.get? line name v) ∧
        (s.turn line).session.store = s.store) := by
  cases command : Command.ofText? line.trim with
  | some c =>
    have equals : '=' ∉ line := by
      intro equals
      rw [ofText?_trim_of_mem equals] at command
      cases command
    refine .inr ⟨accepts_of_not_mem equals, fun name v assigns => equals assigns.mem, ?_⟩
    rw [turn, command]
    cases c <;> rfl
  | none =>
    rw [store_turn command]
    have effect := s.store.effect_of_evaluate s.limits line
    generalize s.store.after s.limits line = later at effect ⊢
    cases outcome : (s.store.evaluate s.limits line).outcome with
    | error e =>
      rw [outcome] at effect
      cases effect
      refine .inr ⟨accepts_of_display (reply_of_refused command outcome), ?_, rfl⟩
      intro name v assigns
      rw [(Store.evaluate_of_assigns assigns _).1] at outcome
      cases outcome
    | ok answer =>
      have reply := reply_of_answered command outcome
      rw [outcome] at effect
      cases effect with
      | nothing empty =>
        have equals : '=' ∉ line := by
          rw [← Text.mem_trim_iff rfl, empty]
          exact List.not_mem_nil
        exact .inr ⟨accepts_of_not_mem equals, fun name v assigns => equals assigns.mem, rfl⟩
      | bound assigns =>
        refine .inl ⟨?_, _, _, assigns, rfl⟩
        rw [accepts, reply, decide_eq_true assigns.mem]
        rfl
      | shown v derivation unassigned =>
        exact .inr ⟨accepts_of_display reply, unassigned, rfl⟩

/-- Whether every name in a store is a run of letters. -/
def Lettered (s : Session) : Prop :=
  ∀ name ∈ s.store.names, name.isName = true

theorem lettered_new (limits : Limits) : (new limits).Lettered :=
  nofun

/-- **Step**: a name that is bound by an assignment is a run of letters. -/
theorem Lettered.turn {s : Session} (h : s.Lettered) (line : Text) :
    (s.turn line).session.Lettered := by
  rw [Lettered]
  rcases turn_cases s line with ⟨-, name, v, assigns, bound⟩ | ⟨-, -, same⟩
  · rw [bound, Store.names_bind]
    split
    · exact h
    · intro other inside
      rcases List.mem_append.1 inside with old | new
      · exact h other old
      · obtain rfl := List.mem_singleton.1 new
        exact assigns.left.2.2
  · rw [same]
    exact h

theorem Lettered.after {s : Session} (h : s.Lettered) (lines : List Text) :
    (s.after lines).Lettered := by
  induction lines generalizing s with
  | nil => exact h
  | cons line lines ih => exact ih (h.turn line)

theorem after_append (s : Session) (lines lines' : List Text) :
    s.after (lines ++ lines') = (s.after lines).after lines' :=
  List.foldl_append

theorem after_concat (s : Session) (lines : List Text) (line : Text) :
    s.after (lines ++ [line]) = ((s.after lines).turn line).session :=
  s.after_append lines [line]

theorem accepted_concat (line : Text) :
    ∀ (lines : List Text) (s : Session), s.accepted (lines ++ [line])
      = s.accepted lines ++ if (s.after lines).accepts line then [line] else []
  | [], s => rfl
  | l :: lines, s => by
    have rest := accepted_concat line lines (s.turn l).session
    rw [List.cons_append, accepted, accepted, rest]
    split
    · rfl
    · rfl

/-- **Run**: the store is made by the bindings of the accepted assignments. -/
theorem exists_history (limits : Limits) (lines : List Text) :
    ∃ bs, History lines ((new limits).accepted lines) bs ∧
      ((new limits).after lines).store = .ofList bs := by
  induction lines using List.reverseRecOn with
  | nil => exact ⟨[], .nil, rfl⟩
  | append_singleton lines line ih =>
    obtain ⟨bs, before, store⟩ := ih
    have values : ((new limits).after lines).store.get? = latest bs := by
      rw [store, Store.get?_ofList]
    rw [accepted_concat, after_concat]
    -- the last line is read with the values that the bindings so far have given
    rcases turn_cases ((new limits).after lines) line with
      ⟨accepts, name, v, assigns, bound⟩ | ⟨refused, none, same⟩
    · rw [values] at assigns
      rw [if_pos accepts, bound, store, ← Store.ofList_concat]
      exact ⟨_, before.assignment assigns, rfl⟩
    · rw [values] at none
      rw [refused, if_neg Bool.false_ne_true, List.append_nil, same, store]
      exact ⟨_, before.other none, rfl⟩

/-! ### Replies -/

/-- Whether two sessions differ at most in how their last answers were reached. -/
structure Agrees (s s' : Session) : Prop where
  store : s.store = s'.store
  limits : s.limits = s'.limits

theorem Agrees.turn {s s' : Session} (h : Agrees s s') (line : Text) :
    (s.turn line).reply = (s'.turn line).reply ∧
      Agrees (s.turn line).session (s'.turn line).session := by
  obtain ⟨store, limits, derivation⟩ := s
  obtain ⟨store', limits', derivation'⟩ := s'
  obtain ⟨rfl, rfl⟩ := h
  rw [Session.turn, Session.turn]
  cases Command.ofText? line.trim with
  | some c => cases c <;> exact ⟨rfl, rfl, rfl⟩
  | none =>
    dsimp only
    rw [evaluate, evaluate]
    dsimp only
    cases (store.evaluate limits line.trim).outcome with
    | error e => exact ⟨rfl, rfl, rfl⟩
    | ok answer => exact ⟨rfl, rfl, rfl⟩

theorem limits_turn (s : Session) (line : Text) : (s.turn line).session.limits = s.limits := by
  rw [turn]
  cases Command.ofText? line.trim with
  | some c => cases c <;> rfl
  | none =>
    dsimp only
    rw [evaluate]
    cases (s.store.evaluate s.limits line.trim).outcome <;> rfl

theorem Agrees.replies {s s' : Session} (h : Agrees s s') (lines : List Text) :
    (s.turns lines).map Turn.reply = (s'.turns lines).map Turn.reply := by
  induction lines generalizing s s' with
  | nil => rfl
  | cons line lines ih =>
    obtain ⟨reply, next⟩ := h.turn line
    rw [turns, turns, List.map_cons, List.map_cons, reply, ih next]

/-- The lines that are no accepted assignments can be left out. -/
theorem Agrees.after_accepted :
    ∀ (lines : List Text) {s s' : Session}, Agrees s s' →
      Agrees (s.after lines) (s'.after (s.accepted lines))
  | [], _, _, h => h
  | line :: lines, s, s', h => by
    rw [accepted]
    rcases turn_cases s line with ⟨accepts, -⟩ | ⟨refused, -, same⟩
    · rw [if_pos accepts]
      exact Agrees.after_accepted lines (h.turn line).2
    · -- only the first session goes on, and it stays where it was
      rw [refused, if_neg Bool.false_ne_true]
      exact Agrees.after_accepted lines
        ⟨same.trans h.store, (limits_turn s line).trans h.limits⟩

theorem turns_append (later : List Text) :
    ∀ (lines : List Text) (s : Session),
      s.turns (lines ++ later) = s.turns lines ++ (s.after lines).turns later
  | [], _ => rfl
  | line :: lines, s => by
    rw [List.cons_append, turns, turns, turns_append later lines]
    rfl

/-- **Runs**: whatever lines a new session is given, its store is made by the accepted assignments
among them, in order, each of which binds a name to a numeral or to the value that the other name
has by the assignments before. The names are runs of letters and `/print` lists each of them once,
in the order of their first assignments, with the values of their last ones. To all later lines the
session replies as one does that was given the accepted assignments only. -/
theorem run_accepted (limits : Limits) (lines : List Text) :
    ∃ bs, History lines ((new limits).accepted lines) bs ∧
      ((new limits).after lines).store = .ofList bs ∧
      (∀ name, ((new limits).after lines).store.get? name = latest bs name) ∧
      ((new limits).after lines).store.names = (bs.map Prod.fst).eraseDups ∧
      (∀ name ∈ ((new limits).after lines).store.names, name.isName = true) ∧
      ((new limits).after lines).store.names.Nodup ∧
      (∃ entries : List (Text × Int), entries.map Prod.fst = (bs.map Prod.fst).eraseDups ∧
        (∀ b ∈ entries, latest bs b.1 = some b.2) ∧
        (((new limits).after lines).turn "/print".toList).reply
          = .display ('\x7b' :: (", ".toList.intercalate
              (entries.map fun b => b.1 ++ '=' :: Decimal.ofInt b.2) ++ ['\x7d']))) ∧
      ∀ later, ((new limits).turns (lines ++ later)).map Turn.reply
        = ((new limits).turns lines).map Turn.reply
          ++ (((new limits).after ((new limits).accepted lines)).turns later).map Turn.reply := by
  obtain ⟨bs, history, store⟩ := exists_history limits lines
  have values : ((new limits).after lines).store.get? = latest bs := by
    rw [store, Store.get?_ofList]
  have names : ((new limits).after lines).store.names = (bs.map Prod.fst).eraseDups := by
    rw [store, Store.names_ofList]
  refine ⟨bs, history, store, fun name => by rw [values], names, ?_,
    ((new limits).after lines).store.distinct,
    ⟨((new limits).after lines).store.toList, names, ?_, rfl⟩, ?_⟩
  · intro name bound
    rw [names, List.mem_eraseDups] at bound
    obtain ⟨b, hb, rfl⟩ := List.mem_map.1 bound
    exact history.isName b hb
  · rintro ⟨name, v⟩ entry
    rw [← values]
    exact Store.valueIn_of_mem ((new limits).after lines).store.distinct entry
  · intro later
    have agrees : Agrees ((new limits).after lines)
        ((new limits).after ((new limits).accepted lines)) :=
      Agrees.after_accepted lines ⟨rfl, rfl⟩
    rw [turns_append, List.map_append, agrees.replies later]

/-- A copy keeps its value, and a name its place. -/
example :
    (((new .standard).after
      ["x = 2".toList, "y = x".toList, "q = z".toList, "x = 5".toList, "x y".toList]).turn
        "/print".toList).reply = .display "{x=5, y=2}".toList := by
  decide

end Session

end Abacus
