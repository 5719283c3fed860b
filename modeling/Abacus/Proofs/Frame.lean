import Abacus.Proofs.Course
import Abacus.Proofs.Line

/-!
# What a line does to the store

A line changes the store when it is an assignment and is accepted, and then it changes the value of
one name. Nothing else does: not a refusal, on whichever way it comes about, and not an answer with
a value.

- **Assignments** (`Assigns`): which lines give which name which value. The store's own reading of a
  line says the same (`Store.assigns_of_binding`, `Store.binding_of_assigns`).
- **Effects** (`Store.Effect`): all that a line can do to the store, by what comes of it, read off
  from the ways that a line can go.
- **Frame** (`Store.Rebinds`, `Store.evaluate_frame`): what an accepted assignment leaves as it was.
-/

namespace Abacus

/-! ### Assignments -/

/-- Whether a line gives a name a value, when names have the values that `get` says: on the left of
its only `=` stands the name, on its right a signed numeral or another name, and white space around
both does not count. -/
inductive Assigns (get : Text → Option Int) : Text → Text → Int → Prop where
  | literal {left right : Text} {v : Int} (first : '=' ∉ left) (last : '=' ∉ right)
      (letters : left.trim.isName = true) (numeral : Decimal.readSigned? right.trim = some v) :
      Assigns get (left ++ '=' :: right) left.trim v
  | copy {left right : Text} {v : Int} (first : '=' ∉ left) (last : '=' ∉ right)
      (letters : left.trim.isName = true) (source : right.trim.isName = true)
      (value : get right.trim = some v) : Assigns get (left ++ '=' :: right) left.trim v

/-- A name is no numeral. -/
theorem Decimal.readSigned?_of_isName {s : Text} (h : s.isName = true) : readSigned? s = none := by
  cases s with
  | nil => cases h
  | cons c s =>
    have letter : c.isAlpha = true := by
      rw [Text.isName, List.all_cons] at h
      exact (Bool.and_eq_true_iff.1 (Bool.and_eq_true_iff.1 h).2).1
    unfold readSigned?
    split
    · next minus =>
      cases minus
      cases letter
    · next plus =>
      cases plus
      cases letter
    · have none : isNumeral (c :: s) = false := by
        rw [isNumeral, List.all_cons, isDigit_of_isAlpha letter]
        rfl
      rw [read?, none]
      rfl

theorem Source.read?_eq_some_iff {s : Text} {source : Source} :
    Source.read? s = some source ↔
      (s.isName = true ∧ .copy s = source) ∨
        ∃ n, Decimal.readSigned? s = some n ∧ .literal n = source := by
  rw [Source.read?]
  by_cases letters : s.isName = true
  · rw [if_pos letters, Decimal.readSigned?_of_isName letters]
    simp [letters]
  · rw [if_neg letters]
    simp [letters]

theorem Text.forall_ne {s : Text} (h : '=' ∉ s) : ∀ c ∈ s, decide (c ≠ '=') = true :=
  fun _ hc => decide_eq_true fun equals => h (equals ▸ hc)

theorem Text.takeWhile_ne {left : Text} (h : '=' ∉ left) (right : Text) :
    (left ++ '=' :: right).takeWhile (· ≠ '=') = left := by
  rw [List.takeWhile_append_of_pos (forall_ne h)]
  exact List.append_nil left

theorem Text.dropWhile_ne {left : Text} (h : '=' ∉ left) (right : Text) :
    (left ++ '=' :: right).dropWhile (· ≠ '=') = '=' :: right := by
  rw [List.dropWhile_append_of_pos (forall_ne h)]
  rfl

/-- An `=` is the only one of a line when there is none on either side of it. -/
theorem Text.count_eq_one_iff {left right : Text} :
    (left ++ '=' :: right).count '=' = 1 ↔ '=' ∉ left ∧ '=' ∉ right := by
  rw [List.count_append, List.count_cons_self, ← List.count_eq_zero, ← List.count_eq_zero]
  omega

namespace Assignment

theorem read?_of_not_mem {line : Text} (h : '=' ∉ line) : read? line = none := by
  rw [read?, List.dropWhile_eq_nil_iff.2 (Text.forall_ne h)]

/-- The first `=` of a line parts its sides. -/
theorem read?_append {left : Text} (h : '=' ∉ left) (right : Text) :
    read? (left ++ '=' :: right) = if '=' ∈ right then none else
      if left.trim.isName then (Source.read? right.trim).map fun source => ⟨left.trim, source⟩
      else none := by
  rw [read?, Text.dropWhile_ne h, Text.takeWhile_ne h]

/-- A line that is read as an assignment has a single `=`, its name on the left of it and its source
on the right. -/
theorem exists_sides {line : Text} {a : Assignment} (h : read? line = some a) :
    ∃ left right : Text, line = left ++ '=' :: right ∧ '=' ∉ left ∧ '=' ∉ right ∧
      left.trim.isName = true ∧ a.name = left.trim ∧ Source.read? right.trim = some a.source := by
  by_cases equals : '=' ∈ line
  · obtain ⟨(left : Text), (right : Text), rfl, first⟩ := List.eq_append_cons_of_mem equals
    rw [read?_append first] at h
    by_cases last : '=' ∈ right
    · rw [if_pos last] at h
      cases h
    by_cases letters : left.trim.isName = true
    · rw [if_neg last, if_pos letters] at h
      obtain ⟨source, reading, rfl⟩ := Option.map_eq_some_iff.1 h
      exact ⟨left, right, rfl, first, last, letters, rfl, reading⟩
    · rw [if_neg last, if_neg letters] at h
      cases h
  · rw [read?_of_not_mem equals] at h
    cases h

theorem read?_trim (line : Text) : read? line.trim = read? line := by
  by_cases equals : '=' ∈ line.trim
  · obtain ⟨b, b', hline, hb, hb'⟩ := line.exists_trim
    obtain ⟨left, right, split, first⟩ := List.eq_append_cons_of_mem equals
    have front : '=' ∉ b := Text.not_mem_of_blank hb rfl
    have back : '=' ∉ b' := Text.not_mem_of_blank hb' rfl
    have first' : '=' ∉ b ++ left := by
      rw [List.mem_append]
      exact not_or.2 ⟨front, first⟩
    -- the white space around the line belongs to its sides, which are trimmed anyway
    have whole : line = (b ++ left) ++ '=' :: (right ++ b') := by
      rw [hline, split]
      simp
    conv => rhs; rw [whole]
    rw [split, read?_append first, read?_append first', Text.trim_blank_append hb,
      Text.trim_append_blank hb']
    simp only [List.mem_append, back, or_false]
  · rw [read?_of_not_mem equals, read?_of_not_mem ((Text.mem_trim_iff rfl).not.1 equals)]

end Assignment

namespace Store

variable {store : Store} {line name : Text} {v : Int}

theorem binding_trim (store : Store) (line : Text) :
    store.binding line.trim = store.binding line := by
  rw [binding, binding, Assignment.read?_trim]

theorem assigns_of_binding (h : store.binding line = .ok (name, v)) :
    Assigns store.get? line name v := by
  rw [binding] at h
  cases found : Assignment.read? line with
  | none =>
    rw [found] at h
    cases h
  | some a =>
    obtain ⟨target, source⟩ := a
    obtain ⟨left, right, rfl, first, last, letters, rfl, reading⟩ := Assignment.exists_sides found
    rw [found] at h
    change (store.valueOf source).map (fun v => (left.trim, v)) = _ at h
    rcases Source.read?_eq_some_iff.1 reading with ⟨word, rfl⟩ | ⟨n, numeral, rfl⟩
    · rw [valueOf, read] at h
      cases value : store.get? right.trim with
      | none =>
        rw [value] at h
        cases h
      | some w =>
        rw [value] at h
        cases h
        exact .copy first last letters word value
    · cases h
      exact .literal first last letters numeral

theorem binding_of_assigns (h : Assigns store.get? line name v) :
    store.binding line = .ok (name, v) := by
  cases h with
  | literal first last letters numeral =>
    rw [binding, Assignment.read?_append first, if_neg last, if_pos letters,
      Source.read?_eq_some_iff.2 (.inr ⟨v, numeral, rfl⟩)]
    rfl
  | @copy left right _ first last letters word value =>
    rw [binding, Assignment.read?_append first, if_neg last, if_pos letters,
      Source.read?_eq_some_iff.2 (.inl ⟨word, rfl⟩)]
    show (store.read right.trim).map (fun v => (left.trim, v)) = _
    rw [read, value]
    rfl

end Store

/-- An assignment has one `=`, and the name stands in front of it. -/
theorem Assigns.left {get : Text → Option Int} {line name : Text} {v : Int}
    (h : Assigns get line name v) :
    line.count '=' = 1 ∧ name = Text.trim (line.takeWhile (· ≠ '=')) ∧ name.isName = true := by
  cases h with
  | literal first last letters _ =>
    exact ⟨Text.count_eq_one_iff.2 ⟨first, last⟩, by rw [Text.takeWhile_ne first], letters⟩
  | copy first last letters _ _ =>
    exact ⟨Text.count_eq_one_iff.2 ⟨first, last⟩, by rw [Text.takeWhile_ne first], letters⟩

theorem Assigns.mem {get : Text → Option Int} {line name : Text} {v : Int}
    (h : Assigns get line name v) : '=' ∈ line := by
  cases h with
  | _ => exact List.mem_append_right _ (List.mem_cons_self ..)

namespace Store

variable {store : Store} {limits : Limits} {line name : Text} {v : Int}

/-! ### Effects -/

/-- What a line can do to the store, by what comes of it. -/
inductive Effect (store : Store) (line : Text) : Except Refusal Answer → Store → Prop where
  | refused (e : Refusal) : Effect store line (.error e) store
  | nothing (empty : line.trim = []) : Effect store line (.ok ⟨none, .none⟩) store
  | bound {name : Text} {v : Int} (assigns : Assigns store.get? line name v) :
      Effect store line (.ok ⟨none, .assignment⟩) (store.bind name v)
  | shown (v : Int) (derivation : Derivation)
      (unassigned : ∀ name w, ¬ Assigns store.get? line name w) :
      Effect store line (.ok ⟨some v, derivation⟩) store

theorem evaluate_of_assigns (h : Assigns store.get? line name v) (limits : Limits) :
    (store.evaluate limits line).outcome = .ok ⟨none, .assignment⟩ ∧
      store.after limits line = store.bind name v := by
  have equals : '=' ∈ line.trim := (Text.mem_trim_iff rfl).2 h.mem
  have visible : line.trim ≠ [] := List.ne_nil_of_mem equals
  have binding := (binding_trim store line).trans (binding_of_assigns h)
  rw [after, show store.evaluate limits line = _ from (if_neg visible).trans (if_pos equals),
    binding]
  exact ⟨rfl, rfl⟩

theorem effect_of_evaluate (store : Store) (limits : Limits) (line : Text) :
    Effect store line (store.evaluate limits line).outcome (store.after limits line) := by
  -- a line that is an assignment is answered without a value
  have unassigned {w : Int} {derivation : Derivation}
      (value : (store.evaluate limits line).outcome = .ok ⟨some w, derivation⟩) :
      ∀ name v, ¬ Assigns store.get? line name v := by
    intro name v assigns
    rw [(evaluate_of_assigns assigns limits).1] at value
    cases value
  obtain ⟨evaluation, course, same⟩ := store.exists_course line
  rw [same] at unassigned
  rw [after, same]
  cases course with
  | blank empty => exact .nothing empty
  | assigned _ binding =>
    rw [binding_trim] at binding
    exact .bound (assigns_of_binding binding)
  | read _ _ => exact .shown _ _ (unassigned rfl)
  | literal _ => exact .shown _ _ (unassigned rfl)
  | staged _ _ _ =>
    dsimp only [calculated, Report.outcome_after] at unassigned ⊢
    split at *
    · exact .refused _
    · exact .shown _ _ (unassigned rfl)
  | refused _ _ _ => exact .refused _

/-! ### Frame -/

/-- Whether a store comes from another by giving one name a value: no other name has another value,
and no name has another place. -/
structure Rebinds (name : Text) (v : Int) (before after : Store) : Prop where
  value : after.get? name = some v
  others : ∀ other, other ≠ name → after.get? other = before.get? other
  old : name ∈ before.names → after.names = before.names
  new : name ∉ before.names → after.names = before.names ++ [name]

theorem rebinds_bind (store : Store) (name : Text) (v : Int) :
    Rebinds name v store (store.bind name v) where
  value := by rw [get?_bind, if_pos rfl]
  others other h := by rw [get?_bind, if_neg h]
  old h := by rw [names_bind, if_pos h]
  new h := by rw [names_bind, if_neg h]

/-- **Frame**: a line that is refused, that is answered with a value or that is blank leaves the
store as it was. A line that is answered without a value and is not blank has one `=` with a name in
front of it, and leaves everything in the store as it was but the value of this name. -/
theorem evaluate_frame (store : Store) (limits : Limits) (line : Text) :
    (∀ e, (store.evaluate limits line).outcome = .error e → store.after limits line = store) ∧
      (∀ answer v, (store.evaluate limits line).outcome = .ok answer → answer.value? = some v →
        store.after limits line = store) ∧
      (line.trim = [] → store.after limits line = store) ∧
      ∀ answer, (store.evaluate limits line).outcome = .ok answer → answer.value? = none →
        line.trim ≠ [] →
        line.count '=' = 1 ∧ (Text.trim (line.takeWhile (· ≠ '='))).isName = true ∧
          ∃ v, Rebinds (Text.trim (line.takeWhile (· ≠ '='))) v store
            (store.after limits line) := by
  have effect := store.effect_of_evaluate limits line
  generalize same : store.after limits line = later at effect ⊢
  refine ⟨?_, ?_, ?_, ?_⟩
  · intro e refused
    rw [refused] at effect
    cases effect with
    | refused _ => rfl
  · intro answer v h value
    rw [h] at effect
    cases effect with
    | shown _ _ _ => rfl
    | _ => cases value
  · intro blank
    rw [← same, after, show store.evaluate limits line = _ from if_pos blank]
  · intro answer h value visible
    rw [h] at effect
    cases effect with
    | nothing empty => exact absurd empty visible
    | shown _ _ _ => cases value
    | @bound name v assigns =>
      obtain ⟨one, front, letters⟩ := assigns.left
      rw [← front]
      exact ⟨one, letters, v, rebinds_bind store name v⟩

/-- A refused copy, an expression, and a copy. -/
theorem evaluate_frame_copy :
    (empty.bind ['x'] 5).after .standard "x = z".toList = empty.bind ['x'] 5 ∧
      (empty.bind ['x'] 5).after .standard "x+1".toList = empty.bind ['x'] 5 ∧
      (" y = x ".toList.count '=' = 1 ∧ Text.isName ['y'] = true ∧
        ∃ v, Rebinds ['y'] v (empty.bind ['x'] 5)
          ((empty.bind ['x'] 5).after .standard " y = x ".toList)) :=
  ⟨(evaluate_frame _ _ _).1 (.unknownVariable ['z']) rfl, (evaluate_frame _ _ _).2.1 _ 6 rfl rfl,
    (evaluate_frame _ _ _).2.2.2 _ rfl rfl (by decide)⟩

end Store

end Abacus
