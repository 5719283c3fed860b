/-!
# Texts and their runs

A *text* is the list of its characters, so every reader and printer of the library is a
recursion on a list. A text is cut into *runs*, maximal groups of neighbours that stick
together, by a test on two neighbours; words and lexical units are both runs of a kind.

- `Text.runs`: the cut.
- `Text.flatten_runs`: the cut loses nothing.
- `Text.runs_append`: between two characters that do not stick together a text can be cut first
  and its parts be cut on their own. Whatever else is to be known of runs follows from this.
-/

namespace Abacus

/-- A text is the list of its characters. -/
abbrev Text := List Char

namespace Text

/-- The texts one after the other, with one space between neighbours. -/
def unwords (ps : List Text) : Text :=
  [' '].intercalate ps

/-- Cuts a text into maximal runs: a character joins the run of its right neighbour exactly
when the two stick together. -/
def runs (sticks : Char → Char → Bool) : Text → List Text
  | [] => []
  | c :: r =>
    match runs sticks r with
    | (d :: p) :: ps => if sticks c d then (c :: d :: p) :: ps else [c] :: (d :: p) :: ps
    | ps => [c] :: ps

/-- The runs, one after the other, are the text. -/
theorem flatten_runs (sticks : Char → Char → Bool) (s : Text) :
    (runs sticks s).flatten = s := by
  induction s with
  | nil => rfl
  | cons c r ih =>
    rw [runs]
    split
    · next d p ps h =>
      rw [h] at ih
      split <;> simp [← ih]
    · next h => simp [ih]

/-- No run is empty. -/
theorem ne_nil_of_mem_runs {sticks : Char → Char → Bool} {s p : Text}
    (hp : p ∈ runs sticks s) : p ≠ [] := by
  induction s generalizing p with
  | nil => simp [runs] at hp
  | cons c r ih =>
    rw [runs] at hp
    split at hp
    · next d q ps h =>
      split at hp
      · rcases List.mem_cons.1 hp with rfl | hp
        · simp
        · exact ih (h ▸ List.mem_cons_of_mem _ hp)
      · rcases List.mem_cons.1 hp with rfl | hp
        · simp
        · exact ih (h ▸ hp)
    · rcases List.mem_cons.1 hp with rfl | hp
      · simp
      · exact ih hp

/-- The first run starts with the first character. -/
theorem exists_runs_cons (sticks : Char → Char → Bool) (c : Char) (s : Text) :
    ∃ p ps, runs sticks (c :: s) = (c :: p) :: ps := by
  rw [runs]
  split
  · split
    · exact ⟨_, _, rfl⟩
    · exact ⟨_, _, rfl⟩
  · exact ⟨_, _, rfl⟩

/-- A character joins the first run of the text after it, or stands alone. -/
theorem runs_cons {sticks : Char → Char → Bool} {s p : Text} {d : Char} {ps : List Text}
    (h : runs sticks s = (d :: p) :: ps) (c : Char) :
    runs sticks (c :: s)
      = if sticks c d then (c :: d :: p) :: ps else [c] :: (d :: p) :: ps := by
  rw [runs, h]

/-- Two texts that do not stick together are cut on their own. -/
theorem runs_append {sticks : Char → Char → Bool} {s t : Text}
    (h : ∀ c ∈ s.getLast?, ∀ d ∈ t.head?, sticks c d = false) :
    runs sticks (s ++ t) = runs sticks s ++ runs sticks t := by
  induction s with
  | nil => rfl
  | cons c s ih =>
    cases s with
    | nil =>
      cases t with
      | nil => rfl
      | cons d t =>
        obtain ⟨p, ps, hp⟩ := exists_runs_cons sticks d t
        have apart : sticks c d = false := h c rfl d rfl
        show runs sticks (c :: d :: t) = [[c]] ++ runs sticks (d :: t)
        rw [runs_cons hp, apart, hp]
        rfl
    | cons d s =>
      obtain ⟨p, ps, hp⟩ := exists_runs_cons sticks d s
      have rest : runs sticks (d :: s ++ t) = (d :: p) :: (ps ++ runs sticks t) := by
        rw [ih fun c' hc' => h c' (by rwa [List.getLast?_cons_cons]), hp]
        rfl
      rw [List.cons_append, runs_cons rest, runs_cons hp]
      split <;> rfl

end Text

end Abacus
