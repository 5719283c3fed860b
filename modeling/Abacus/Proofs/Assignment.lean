import Abacus.Proofs.Frame
import Abacus.Text.Decimal.Lemmas

/-!
# The grammar of assignments

An assignment is read in steps: the line is cut at its first `=`, the parts are trimmed, a name is
looked for, then a sign, then digits. All of them together read one grammar,

  assignment = blank* letter+ blank* '=' blank* value blank*,
  value = letter+ | ('+' | '-')? digit+,

and refuse every other line before the store is looked at.

- **The grammar** (`Assignment.Written`, `SignedNumeral`): how a line is written, told without
  cutting or trimming it, and the integer that a numeral stands for.
- **Reading** (`Decimal.readSigned?_eq_some_iff`, `Assignment.read?_eq_some_iff`): what the steps
  read is what the grammar says.
- **Carrying out** (`Store.assign_grammar`): which lines change the store and how, which are refused
  for a name without a value, and which as no assignment.
-/

namespace Abacus

/-! ### The grammar -/

/-- Whether a text is a numeral with one sign at most in front of it, and for which integer it
stands. -/
inductive SignedNumeral : Text → Int → Prop where
  | unsigned {ds : Text} (digits : ds.Consists Char.isDigit) :
      SignedNumeral ds (Decimal.denoted ds)
  | plus {ds : Text} (digits : ds.Consists Char.isDigit) :
      SignedNumeral ('+' :: ds) (Decimal.denoted ds)
  | minus {ds : Text} (digits : ds.Consists Char.isDigit) :
      SignedNumeral ('-' :: ds) (-(Decimal.denoted ds))

/-- Whether a line gives a name a value in writing, with white space at will around the two. -/
structure Assignment.Written (line name value : Text) : Prop where
  layout : ∃ b b' c c' : Text, line = (b ++ name ++ b') ++ '=' :: (c ++ value ++ c') ∧
    b.all isBlank = true ∧ b'.all isBlank = true ∧ c.all isBlank = true ∧ c'.all isBlank = true
  single : line.count '=' = 1
  letters : name.Consists Char.isAlpha
  source : value.Consists Char.isAlpha ∨ ∃ v, SignedNumeral value v

/-- Whether what is written as a value stands for an integer, when names have the values of a
store. -/
def Store.Gives (store : Store) (value : Text) (v : Int) : Prop :=
  value.Consists Char.isAlpha ∧ store.get? value = some v ∨ SignedNumeral value v

/-! ### Reading -/

namespace Decimal

theorem read?_eq_some_iff {s : Text} {n : Nat} :
    read? s = some n ↔ s.Consists Char.isDigit ∧ denoted s = n := by
  rw [read?, ← isNumeral_iff, ← value_eq_denoted]
  split <;> simp [*]

/-- What is read as a signed numeral is one, and as the integer that it stands for. -/
theorem readSigned?_eq_some_iff {s : Text} {v : Int} :
    readSigned? s = some v ↔ SignedNumeral s v := by
  -- behind the sign, a natural number is read
  have digits_of {ds : Text} {w : Int} (h : ((read? ds).bind fun n => some (n : Int)) = some w) :
      ds.Consists Char.isDigit ∧ w = denoted ds := by
    obtain ⟨n, read, same⟩ := Option.bind_eq_some_iff.1 h
    obtain ⟨digits, rfl⟩ := read?_eq_some_iff.1 read
    exact ⟨digits, (Option.some.inj same).symm⟩
  constructor
  · intro h
    unfold readSigned? at h
    split at h
    · obtain ⟨w, read, rfl⟩ := Option.map_eq_some_iff.1 h
      obtain ⟨digits, rfl⟩ := digits_of read
      exact .minus digits
    · obtain ⟨w, read, rfl⟩ := Option.map_eq_some_iff.1 h
      obtain ⟨digits, rfl⟩ := digits_of read
      exact .plus digits
    · obtain ⟨w, read, rfl⟩ := Option.map_eq_some_iff.1 h
      obtain ⟨digits, rfl⟩ := digits_of read
      exact .unsigned digits
  · intro h
    cases h with
    | unsigned digits =>
      rw [readSigned?_of_isNumeral (isNumeral_iff.2 digits), value_eq_denoted]
    | plus digits =>
      rw [readSigned?, read?_eq_some_iff.2 ⟨digits, rfl⟩]
      rfl
    | minus digits =>
      rw [readSigned?, read?_eq_some_iff.2 ⟨digits, rfl⟩]
      rfl

end Decimal

/-- A numeral has no white space inside, and none behind its sign. -/
theorem SignedNumeral.visible {s : Text} {v : Int} (h : SignedNumeral s v) :
    ∀ c ∈ s, isBlank c = false := by
  cases h with
  | unsigned digits => exact digits.visible isAlphanum_of_isDigit
  | plus digits => exact List.forall_mem_cons.2 ⟨rfl, digits.visible isAlphanum_of_isDigit⟩
  | minus digits => exact List.forall_mem_cons.2 ⟨rfl, digits.visible isAlphanum_of_isDigit⟩

namespace Source

theorem read?_of_letters {value : Text} (letters : value.Consists Char.isAlpha) :
    read? value = some (.copy value) :=
  read?_eq_some_iff.2 (.inl ⟨Text.isName_iff.2 letters, rfl⟩)

theorem read?_of_numeral {value : Text} {v : Int} (numeral : SignedNumeral value v) :
    read? value = some (.literal v) :=
  read?_eq_some_iff.2 (.inr ⟨v, Decimal.readSigned?_eq_some_iff.2 numeral, rfl⟩)

/-- A value in writing is a name or a numeral. -/
theorem exists_read?_iff {value : Text} :
    (∃ source, read? value = some source) ↔
      value.Consists Char.isAlpha ∨ ∃ v, SignedNumeral value v := by
  constructor
  · rintro ⟨source, h⟩
    rcases read?_eq_some_iff.1 h with ⟨letters, -⟩ | ⟨v, numeral, -⟩
    · exact .inl (Text.isName_iff.1 letters)
    · exact .inr ⟨v, Decimal.readSigned?_eq_some_iff.1 numeral⟩
  · rintro (letters | ⟨v, numeral⟩)
    · exact ⟨_, read?_of_letters letters⟩
    · exact ⟨_, read?_of_numeral numeral⟩

end Source

theorem SignedNumeral.not_mem {s : Text} {v : Int} (h : SignedNumeral s v) {c : Char}
    (digit : c.isDigit = false) (plus : c ≠ '+') (minus : c ≠ '-') : c ∉ s := by
  cases h with
  | unsigned digits => exact digits.not_mem digit
  | plus digits => exact List.not_mem_cons_of_ne_of_not_mem plus (digits.not_mem digit)
  | minus digits => exact List.not_mem_cons_of_ne_of_not_mem minus (digits.not_mem digit)

namespace Assignment

/-- A name and a value can be written without white space. -/
theorem written_append {name value : Text} (letters : name.Consists Char.isAlpha)
    (source : value.Consists Char.isAlpha ∨ ∃ v, SignedNumeral value v) :
    Written (name ++ '=' :: value) name value where
  layout := ⟨[], [], [], [], by simp, rfl, rfl, rfl, rfl⟩
  single := by
    refine Text.count_eq_one_iff.2 ⟨letters.not_mem rfl, ?_⟩
    rcases source with word | ⟨v, numeral⟩
    · exact word.not_mem rfl
    · exact numeral.not_mem rfl (by decide) (by decide)
  letters := letters
  source := source

theorem Written.visible {line name value : Text} (h : Written line name value) :
    ∀ c ∈ value, isBlank c = false := by
  rcases h.source with letters | ⟨v, numeral⟩
  · exact letters.visible isAlphanum_of_isAlpha
  · exact numeral.visible

/-- Cutting and trimming find what a line is written with. -/
theorem read?_of_written {line name value : Text} (h : Written line name value) :
    read? line = (Source.read? value).map fun source => ⟨name, source⟩ := by
  obtain ⟨b, b', c, c', rfl, hb, hb', hc, hc'⟩ := h.layout
  obtain ⟨first, last⟩ := Text.count_eq_one_iff.1 h.single
  rw [read?_append first, if_neg last,
    Text.trim_between hb hb' (h.letters.visible isAlphanum_of_isAlpha),
    if_pos (Text.isName_iff.2 h.letters), Text.trim_between hc hc' h.visible]

/-- What cutting and trimming find is how the line is written. -/
theorem exists_written {line : Text} {a : Assignment} (h : read? line = some a) :
    ∃ value, Written line a.name value ∧ Source.read? value = some a.source := by
  obtain ⟨name, source⟩ := a
  obtain ⟨left, right, rfl, first, last, letters, rfl, reading⟩ := exists_sides h
  obtain ⟨b, b', hleft, hb, hb'⟩ := left.exists_trim
  obtain ⟨c, c', hright, hc, hc'⟩ := right.exists_trim
  refine ⟨right.trim, ⟨⟨b, b', c, c', ?_, hb, hb', hc, hc'⟩, ?_, ?_, ?_⟩, reading⟩
  · have front : b ++ left.trim ++ b' = left := by rw [List.append_assoc, ← hleft]
    have back : c ++ right.trim ++ c' = right := by rw [List.append_assoc, ← hright]
    dsimp only
    rw [front, back]
  · exact Text.count_eq_one_iff.2 ⟨first, last⟩
  · exact Text.isName_iff.1 letters
  · exact Source.exists_read?_iff.1 ⟨source, reading⟩

/-- **Reading**: the lines that are read as assignments are those that are written as such. -/
theorem read?_eq_some_iff {line : Text} {a : Assignment} :
    read? line = some a ↔
      ∃ value, Written line a.name value ∧ Source.read? value = some a.source := by
  constructor
  · exact exists_written
  · rintro ⟨value, written, reading⟩
    rw [read?_of_written written, reading]
    rfl

theorem read?_eq_none_iff {line : Text} :
    read? line = none ↔ ∀ name value, ¬ Written line name value := by
  constructor
  · intro h name value written
    obtain ⟨source, reading⟩ := Source.exists_read?_iff.2 written.source
    have found : read? line = some ⟨name, source⟩ :=
      read?_eq_some_iff.2 ⟨value, written, reading⟩
    rw [h] at found
    cases found
  · intro unwritten
    cases reading : read? line with
    | none => rfl
    | some a =>
      obtain ⟨value, written, -⟩ := read?_eq_some_iff.1 reading
      exact absurd written (unwritten _ _)

end Assignment

/-! ### Carrying out -/

namespace Store

variable {store store' : Store} {limits : Limits} {line : Text}

/-- What a line asks of a store, as the grammar tells it: to bind a name, to copy the value of a
name that has none, or nothing that could be done. -/
inductive Asks (store : Store) (line : Text) : Except Refusal (Text × Int) → Prop where
  | given {name value : Text} {v : Int} (written : Assignment.Written line name value)
      (gives : store.Gives value v) : Asks store line (.ok (name, v))
  | unbound {name value : Text} (written : Assignment.Written line name value)
      (letters : value.Consists Char.isAlpha) (missing : store.get? value = none) :
      Asks store line (.error (.unknownVariable value))
  | unwritten (nothing : ∀ name value, ¬ Assignment.Written line name value) :
      Asks store line (.error .invalidAssignment)

theorem binding_of_letters {name value : Text} (written : Assignment.Written line name value)
    (letters : value.Consists Char.isAlpha) :
    store.binding line = (store.read value).map fun v => (name, v) := by
  rw [binding, Assignment.read?_of_written written, Source.read?_of_letters letters]
  rfl

theorem binding_of_numeral {name value : Text} {v : Int}
    (written : Assignment.Written line name value) (numeral : SignedNumeral value v) :
    store.binding line = .ok (name, v) := by
  rw [binding, Assignment.read?_of_written written, Source.read?_of_numeral numeral]
  rfl

theorem binding_of_asks {answer : Except Refusal (Text × Int)} (h : store.Asks line answer) :
    store.binding line = answer := by
  cases h with
  | given written gives =>
    rcases gives with ⟨letters, bound⟩ | numeral
    · rw [binding_of_letters written letters, read, bound]
      rfl
    · exact binding_of_numeral written numeral
  | unbound written letters missing =>
    rw [binding_of_letters written letters, read, missing]
    rfl
  | unwritten nothing => rw [binding, Assignment.read?_eq_none_iff.2 nothing]

/-- Every line asks something. -/
theorem exists_asks (store : Store) (line : Text) : ∃ answer, store.Asks line answer := by
  by_cases form : ∃ name value, Assignment.Written line name value
  · obtain ⟨name, value, written⟩ := form
    rcases written.source with letters | ⟨v, numeral⟩
    · cases reading : store.get? value with
      | none => exact ⟨_, .unbound written letters reading⟩
      | some v => exact ⟨_, .given written (.inl ⟨letters, reading⟩)⟩
    · exact ⟨_, .given written (.inr numeral)⟩
  · exact ⟨_, .unwritten fun name value written => form ⟨name, value, written⟩⟩

/-- **Binding**: the binding that a line leads to is the one it asks for. -/
theorem binding_eq_iff {answer : Except Refusal (Text × Int)} :
    store.binding line = answer ↔ store.Asks line answer := by
  constructor
  · rintro rfl
    obtain ⟨answer, asks⟩ := store.exists_asks line
    rwa [binding_of_asks asks]
  · exact binding_of_asks

/-- The lines that give a name a value are those in which it is written. -/
theorem assigns_iff {name : Text} {v : Int} :
    Assigns store.get? line name v ↔
      ∃ value, Assignment.Written line name value ∧ store.Gives value v := by
  constructor
  · intro assigns
    cases binding_eq_iff.1 (binding_of_assigns assigns) with
    | given written gives => exact ⟨_, written, gives⟩
  · rintro ⟨value, written, gives⟩
    exact assigns_of_binding (binding_of_asks (.given written gives))

theorem assign_eq_ok_iff :
    store.assign line = .ok store' ↔
      ∃ name value v, Assignment.Written line name value ∧ store.Gives value v ∧
        store' = store.bind name v := by
  constructor
  · intro h
    unfold assign at h
    cases binding : store.binding line with
    | error e =>
      rw [binding] at h
      cases h
    | ok b =>
      rw [binding] at h
      cases binding_eq_iff.1 binding with
      | given written gives => exact ⟨_, _, _, written, gives, (Except.ok.inj h).symm⟩
  · rintro ⟨name, value, v, written, gives, rfl⟩
    rw [assign, binding_of_asks (.given written gives)]
    rfl

theorem assign_eq_error_iff {e : Refusal} :
    store.assign line = .error e ↔ store.Asks line (.error e) := by
  rw [← binding_eq_iff]
  unfold assign
  cases store.binding line with
  | error e' => simp [Except.map]
  | ok b => simp [Except.map]

/-- A session takes over the store that an assignment leads to. -/
theorem after_of_assign (h : store.assign line = .ok store') :
    store.after limits line = store' := by
  obtain ⟨name, value, v, written, gives, rfl⟩ := assign_eq_ok_iff.1 h
  exact (evaluate_of_assigns (assigns_iff.2 ⟨value, written, gives⟩) limits).2

/-- A session keeps its store when the line is no assignment that can be carried out. -/
theorem after_of_assign_error {e : Refusal} (h : store.assign line = .error e) :
    store.after limits line = store := by
  have refused := binding_of_asks (assign_eq_error_iff.1 h)
  have effect := store.effect_of_evaluate limits line
  generalize store.after limits line = later, (store.evaluate limits line).outcome = outcome
    at effect ⊢
  cases effect with
  | bound assigns =>
    rw [binding_of_assigns assigns] at refused
    cases refused
  | _ => rfl

/-- **Grammar of assignments**: a line is carried out if and only if it is a name, an `=` and a
value, with white space around them, no other `=`, and a value that is a signed numeral or a name
that has a value; this name then has the value, and nothing else changes. It is refused for a name
without a value if and only if it has this form with such a name as its value, and as no assignment
if and only if it does not have this form. There is no other refusal, and each leaves the store as
it was. -/
theorem assign_grammar (store : Store) (line : Text) :
    (∀ store', store.assign line = .ok store' ↔
        ∃ name value v, Assignment.Written line name value ∧ store.Gives value v ∧
          store' = store.bind name v) ∧
      (∀ name v, Rebinds name v store (store.bind name v)) ∧
      (∀ x, store.assign line = .error (.unknownVariable x) ↔
        ∃ name, Assignment.Written line name x ∧ x.Consists Char.isAlpha ∧ store.get? x = none) ∧
      (store.assign line = .error .invalidAssignment ↔
        ∀ name value, ¬ Assignment.Written line name value) ∧
      (∀ e, store.assign line = .error e →
        (∃ x, e = .unknownVariable x) ∨ e = .invalidAssignment) ∧
      (∀ limits store', store.assign line = .ok store' → store.after limits line = store') ∧
      ∀ limits e, store.assign line = .error e → store.after limits line = store := by
  refine ⟨fun store' => assign_eq_ok_iff, store.rebinds_bind, ?_, ?_, ?_, ?_, ?_⟩
  · intro x
    rw [assign_eq_error_iff]
    constructor
    · intro asks
      cases asks with
      | unbound written letters missing => exact ⟨_, written, letters, missing⟩
    · rintro ⟨name, written, letters, missing⟩
      exact .unbound written letters missing
  · rw [assign_eq_error_iff]
    constructor
    · intro asks
      cases asks with
      | unwritten nothing => exact nothing
    · exact .unwritten
  · intro e refused
    cases assign_eq_error_iff.1 refused with
    | unbound _ _ _ => exact .inl ⟨_, rfl⟩
    | unwritten _ => exact .inr rfl
  · intro limits store' carried
    exact after_of_assign carried
  · intro limits e refused
    exact after_of_assign_error refused

/-- A numeral with zeros in front, a name without a value, and a line with two `=`. -/
theorem assign_grammar_zeros :
    empty.assign " a\t= -007".toList = .ok (empty.bind ['a'] (-7)) ∧
      empty.assign "x=z".toList = .error (.unknownVariable ['z']) ∧
      empty.after .standard "a=b=c".toList = empty := by
  refine ⟨?_, ?_, ?_⟩
  · have digits : Text.Consists Char.isDigit "007".toList := Decimal.isNumeral_iff.1 rfl
    have written : Assignment.Written " a\t= -007".toList ['a'] "-007".toList :=
      ⟨⟨[' '], ['\t'], [' '], [], rfl, rfl, rfl, rfl, rfl⟩, rfl, Text.isName_iff.1 rfl,
        .inr ⟨_, .minus digits⟩⟩
    exact ((assign_grammar _ _).1 _).2 ⟨_, _, _, written, .inr (.minus digits), rfl⟩
  · have letters : Text.Consists Char.isAlpha ['z'] := Text.isName_iff.1 rfl
    have written : Assignment.Written "x=z".toList ['x'] ['z'] :=
      ⟨⟨[], [], [], [], rfl, rfl, rfl, rfl, rfl⟩, rfl, Text.isName_iff.1 rfl, .inl letters⟩
    exact ((assign_grammar _ _).2.2.1 _).2 ⟨_, written, letters, rfl⟩
  · exact (assign_grammar _ _).2.2.2.2.2.2 .standard .invalidAssignment rfl

end Store

end Abacus
