import Abacus.Proofs.Folding
import Mathlib.Data.List.Chain

/-!
# Runs of signs, mixed ones too

The folding makes two passes, and the second works on what the first has made: a run of `-` that has
become a `+` may touch another `+` that was there before. A run in which both signs are mixed is
therefore folded into several characters, and what is known of the passes has to be put together.

- **One run** (`Text.Condensed`): what a run of signs may become. Each pass makes such a run of it
  (`Text.condensed_foldRuns`), and so do both (`Text.condensed_foldSigns`).
- **Equal neighbours** (`Text.isChain_foldRuns`): a pass leaves no two of its signs side by side,
  and the second pass brings none together that the first has kept apart
  (`Text.isChain_foldRuns_id`).
- **Texts** (`Text.RunsCondensed`, `Text.foldSigns_runs`): the runs of a text are condensed where
  they stand, and then there is nothing more to fold.
-/

namespace Abacus.Text

/-! ### One run -/

/-- Whether one run of signs can be put in the place of another: it is not longer, it is there if
the other was, and the signs amount to the same. -/
structure Condensed (before after : Text) : Prop where
  signs : ∀ c ∈ before, isSign c = true
  signs' : ∀ c ∈ after, isSign c = true
  length : after.length ≤ before.length
  present : after = [] ↔ before = []
  parity : after.count '-' % 2 = before.count '-' % 2

namespace Condensed

theorem nil : Condensed [] [] := ⟨nofun, nofun, Nat.le_refl _, Iff.rfl, rfl⟩

theorem trans {g h k : Text} (first : Condensed g h) (second : Condensed h k) : Condensed g k where
  signs := first.signs
  signs' := second.signs'
  length := second.length.trans first.length
  present := second.present.trans first.present
  parity := second.parity.trans first.parity

theorem cons {g h : Text} {c : Char} (sign : isSign c = true) (rest : Condensed g h) :
    Condensed (c :: g) (c :: h) where
  signs := List.forall_mem_cons.2 ⟨sign, rest.signs⟩
  signs' := List.forall_mem_cons.2 ⟨sign, rest.signs'⟩
  length := Nat.succ_le_succ rest.length
  present := by simp
  parity := by
    have parity := rest.parity
    rw [List.count_cons, List.count_cons]
    omega

/-- Two signs can give way to one that amounts to the same. -/
theorem merge {g h : Text} {a b c : Char} (rest : Condensed (a :: g) (b :: h))
    (sign : isSign c = true)
    (parity : (c :: h).count '-' % 2 = (a :: b :: h).count '-' % 2) :
    Condensed (a :: a :: g) (c :: h) where
  signs := List.forall_mem_cons.2 ⟨rest.signs a (List.mem_cons_self ..), rest.signs⟩
  signs' := List.forall_mem_cons.2 ⟨sign, fun d hd => rest.signs' d (List.mem_cons_of_mem b hd)⟩
  length := Nat.le_succ_of_le rest.length
  present := by simp
  parity := by
    have earlier := rest.parity
    simp only [List.count_cons] at parity earlier ⊢
    omega

end Condensed

section Pass

variable {a : Char} {merge : Text → Text}

/-- Whether a sign that `merge` puts in the place of another one amounts to both that and `a`. -/
def KeepsParity (a : Char) (merge : Text → Text) : Prop :=
  ∀ b s, isSign b = true → (merge (b :: s)).count '-' % 2 = (a :: b :: s).count '-' % 2

theorem keepsParity_flipSign : KeepsParity '-' flipSign := by
  intro b s sign
  simp only [isSign, Bool.or_eq_true, decide_eq_true_eq] at sign
  -- two `-` amount to none, and a `-` with a `+` to one
  rcases sign with rfl | rfl
  · simp [flipSign]
  · rw [flipSign, List.count_cons_of_ne (by decide), List.count_cons_self, List.count_cons_self]
    omega

theorem keepsParity_id : KeepsParity '+' id := by
  intro b s _
  simp

/-- A pass condenses every run. -/
theorem condensed_foldRuns (sign : isSign a = true) (h : ChangesSign merge)
    (keeps : KeepsParity a merge) {g : Text} (signs : ∀ c ∈ g, isSign c = true) :
    Condensed g (foldRuns a merge g) := by
  induction g with
  | nil => exact .nil
  | cons c g ih =>
    obtain ⟨first, others⟩ := List.forall_mem_cons.1 signs
    have rest := ih others
    rw [foldRuns]
    split
    · next both =>
      obtain ⟨rfl, head⟩ := both
      obtain ⟨t, rfl⟩ := List.head?_eq_some_iff.1 head
      obtain ⟨b, u, hb, folded⟩ := exists_foldRuns sign h t
      obtain ⟨d, hd, merged⟩ := h b hb
      rw [folded] at rest ⊢
      have parity := keeps b u hb
      rw [merged] at parity ⊢
      exact rest.merge hd parity
    · exact rest.cons first

/-! ### Equal neighbours -/

/-- Where no run starts, a pass leaves the first character. -/
theorem head?_foldRuns_of_ne {s : Text} (h : s.head? ≠ some a) :
    (foldRuns a merge s).head? = s.head? := by
  cases s with
  | nil => rfl
  | cons c s =>
    have other : c ≠ a := fun same => h (congrArg some same)
    rw [foldRuns_cons other]
    rfl

/-- A pass leaves no two of its signs side by side. For the induction, what a run has become is not
followed by the sign either, whichever sign it is. -/
theorem isChain_foldRuns_and (sign : isSign a = true) (h : ChangesSign merge) (s : Text) :
    (foldRuns a merge s).IsChain (fun c d => c = a → d ≠ a) ∧
      (s.head? = some a → (foldRuns a merge s).tail.head? ≠ some a) := by
  induction s with
  | nil => exact ⟨.nil, nofun⟩
  | cons c s ih =>
    obtain ⟨chain, apart⟩ := ih
    rw [foldRuns]
    split
    · next both =>
      obtain ⟨t, rfl⟩ := List.head?_eq_some_iff.1 both.2
      obtain ⟨b, u, hb, folded⟩ := exists_foldRuns sign h t
      obtain ⟨d, -, merged⟩ := h b hb
      rw [folded] at chain apart ⊢
      rw [merged]
      have behind : u.head? ≠ some a := apart rfl
      refine ⟨List.isChain_cons.2 ⟨?_, (List.isChain_cons.1 chain).2⟩, fun _ => behind⟩
      rintro e he - rfl
      exact behind he
    · next single =>
      have behind (here : c = a) : (foldRuns a merge s).head? ≠ some a := by
        have other : s.head? ≠ some a := fun head => single ⟨here, head⟩
        rwa [head?_foldRuns_of_ne other]
      refine ⟨List.isChain_cons.2 ⟨?_, chain⟩, fun here => behind (Option.some.inj here)⟩
      rintro e he here rfl
      exact behind here he

theorem isChain_foldRuns (sign : isSign a = true) (h : ChangesSign merge) (s : Text) :
    (foldRuns a merge s).IsChain (fun c d => c = a → d ≠ a) :=
  (isChain_foldRuns_and sign h s).1

theorem head?_foldRuns_id (s : Text) : (foldRuns a id s).head? = s.head? := by
  induction s with
  | nil => rfl
  | cons c s ih =>
    rw [foldRuns]
    split
    · next both =>
      obtain ⟨rfl, head⟩ := both
      rw [id_eq, ih, head]
      rfl
    · rfl

/-- A pass that only drops characters brings none together that did not touch. -/
theorem isChain_foldRuns_id {R : Char → Char → Prop} {s : Text} (h : s.IsChain R) :
    (foldRuns a id s).IsChain R := by
  induction s with
  | nil => exact .nil
  | cons c s ih =>
    obtain ⟨first, rest⟩ := List.isChain_cons.1 h
    rw [foldRuns]
    split
    · exact ih rest
    · refine List.isChain_cons.2 ⟨?_, ih rest⟩
      rwa [head?_foldRuns_id]

end Pass

theorem not_twice {a : Char} {s : Text} (h : s.IsChain fun c d => c = a → d ≠ a) :
    ¬ [a, a] <:+: s := by
  intro twice
  have pair : [a, a].IsChain fun c d => c = a → d ≠ a := List.IsChain.infix h twice
  exact (List.isChain_cons_cons.1 pair).1 rfl rfl

/-- No two equal signs are left side by side. -/
theorem not_twice_foldSigns {c : Char} (sign : isSign c = true) (s : Text) :
    ¬ [c, c] <:+: s.foldSigns := by
  simp only [isSign, Bool.or_eq_true, decide_eq_true_eq] at sign
  rw [foldSigns_eq]
  rcases sign with rfl | rfl
  · exact not_twice (isChain_foldRuns rfl changesSign_id _)
  · exact not_twice (isChain_foldRuns_id (isChain_foldRuns rfl changesSign_flipSign s))

/-! ### Texts -/

/-- Whether two texts have the same characters other than signs, in the same order, and the runs of
signs in front of, between and behind them are condensed. Where there is no run in the one text,
there is none in the other. -/
inductive RunsCondensed : Text → Text → Prop where
  | last {g h : Text} (run : Condensed g h) : RunsCondensed g h
  | cons {g h s r : Text} {c : Char} (run : Condensed g h) (other : isSign c = false)
      (rest : RunsCondensed s r) : RunsCondensed (g ++ c :: s) (h ++ c :: r)

theorem condensed_foldSigns {g : Text} (signs : ∀ c ∈ g, isSign c = true) :
    Condensed g g.foldSigns := by
  have first := condensed_foldRuns rfl changesSign_flipSign keepsParity_flipSign signs
  rw [foldSigns_eq]
  exact first.trans (condensed_foldRuns rfl changesSign_id keepsParity_id first.signs')

/-- A text starts with a run of signs, be it an empty one. -/
theorem exists_run (s : Text) : ∃ g : Text, (∀ c ∈ g, isSign c = true) ∧
    (s = g ∨ ∃ c r, s = g ++ c :: r ∧ isSign c = false) := by
  induction s with
  | nil => exact ⟨[], nofun, .inl rfl⟩
  | cons c s ih =>
    cases sign : isSign c with
    | false => exact ⟨[], nofun, .inr ⟨c, s, rfl, sign⟩⟩
    | true =>
      obtain ⟨g, signs, rest⟩ := ih
      refine ⟨c :: g, List.forall_mem_cons.2 ⟨sign, signs⟩, ?_⟩
      rcases rest with rfl | ⟨d, r, rfl, other⟩
      · exact .inl rfl
      · exact .inr ⟨d, r, rfl, other⟩

/-- The folding condenses every run of a text where it stands. -/
theorem runsCondensed_foldSigns (s : Text) : RunsCondensed s s.foldSigns := by
  obtain ⟨g, signs, text | ⟨c, r, text, other⟩⟩ := exists_run s
  · rw [text]
    exact .last (condensed_foldSigns signs)
  · have shorter : r.length < s.length := by
      rw [text, List.length_append, List.length_cons]
      omega
    have rest := runsCondensed_foldSigns r
    rw [text, foldSigns_append_cons other]
    exact .cons (condensed_foldSigns signs) other rest
termination_by s.length

/-- The characters other than signs stay as they are. -/
theorem RunsCondensed.filter_eq {s r : Text} (h : RunsCondensed s r) :
    r.filter (fun c => !isSign c) = s.filter (fun c => !isSign c) := by
  have none {g : Text} (signs : ∀ c ∈ g, isSign c = true) : g.filter (fun c => !isSign c) = [] := by
    simpa using signs
  induction h with
  | last run => rw [none run.signs, none run.signs']
  | cons run other _ ih =>
    rw [List.filter_append, List.filter_append, none run.signs, none run.signs',
      List.filter_cons_of_pos (by simp [other]), List.filter_cons_of_pos (by simp [other]), ih]

/-- **Runs of signs**: no two equal signs of a folded text touch, so that folding it again changes
nothing. The other characters, white space included, stay in place, and of the signs between two of
them a run is left that is not longer, that is there if there were any, and that has an even number
of `-` if there was one. -/
theorem foldSigns_runs (s : Text) :
    (∀ c, isSign c = true → ¬ [c, c] <:+: s.foldSigns) ∧
      s.foldSigns.foldSigns = s.foldSigns ∧
      s.foldSigns.filter (fun c => !isSign c) = s.filter (fun c => !isSign c) ∧
      RunsCondensed s s.foldSigns :=
  ⟨fun _ sign => not_twice_foldSigns sign s,
    foldSigns_eq_self (not_twice_foldSigns rfl s) (not_twice_foldSigns rfl s),
    (runsCondensed_foldSigns s).filter_eq, runsCondensed_foldSigns s⟩

/-- A mixed run can keep several characters. -/
example : foldSigns "a+--+- -b".toList = "a+- -b".toList := by
  decide

end Abacus.Text
