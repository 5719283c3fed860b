import Abacus.Token

/-!
# Brackets

Balance is a property of a sequence of brackets, whether these stand among the characters of a
raw line or among tokens.

- `Bracket.depth?`: the number of brackets still open, unless one is closed that was never
  opened.
- `Bracket.balanced`: every bracket opened is closed, and the other way round.
- `Bracket.balanced_filterMap_iff`: balance told by counting.
-/

namespace Abacus

/-- An opening or a closing round bracket. -/
inductive Bracket where
  | opening
  | closing
  deriving DecidableEq, Repr

namespace Bracket

/-- The bracket that a character is, if it is one. -/
def ofChar? : Char → Option Bracket
  | '(' => some .opening
  | ')' => some .closing
  | _ => none

/-- The bracket that a token is, if it is one. -/
def ofToken? : Token → Option Bracket
  | .opening => some .opening
  | .closing => some .closing
  | _ => none

/-- The number of brackets open after a sequence read with `d` of them open, or `none` if a
bracket is closed while none is open. -/
def depth? : Nat → List Bracket → Option Nat
  | d, [] => some d
  | d, .opening :: r => depth? (d + 1) r
  | 0, .closing :: _ => none
  | d + 1, .closing :: r => depth? d r

/-- Whether a sequence closes exactly the brackets that it opens. -/
def balanced (bs : List Bracket) : Bool :=
  depth? 0 bs = some 0

/-- Two sequences are read one after the other. -/
theorem depth?_append (d : Nat) (as bs : List Bracket) :
    depth? d (as ++ bs) = (depth? d as).bind fun e => depth? e bs := by
  induction as generalizing d with
  | nil => rfl
  | cons a as ih =>
    cases a with
    | opening => exact ih (d + 1)
    | closing =>
      cases d with
      | zero => rfl
      | succ d => exact ih d

/-- Brackets that are already open stay open below a sequence that closes only its own. -/
theorem depth?_add {d e : Nat} {bs : List Bracket} (h : depth? d bs = some e) (k : Nat) :
    depth? (d + k) bs = some (e + k) := by
  induction bs generalizing d with
  | nil => simpa [depth?] using h
  | cons b bs ih =>
    cases b with
    | opening =>
      have := ih (d := d + 1) h
      rwa [Nat.add_right_comm] at this
    | closing =>
      cases d with
      | zero => simp [depth?] at h
      | succ d =>
        rw [Nat.add_right_comm]
        exact ih (d := d) h

/-- Reading sticks at a bracket in front of which too few were opened, and leaves open those that
were opened too much. -/
theorem depth?_eq_some_iff {d e : Nat} {bs : List Bracket} :
    depth? d bs = some e ↔
      (∀ p, p <+: bs → p.count .closing ≤ d + p.count .opening) ∧
        d + bs.count .opening = e + bs.count .closing := by
  induction bs generalizing d with
  | nil => simp [depth?]
  | cons b bs ih =>
    have prefixes {k : Nat} : (∀ p, p <+: b :: bs → p.count .closing ≤ k + p.count .opening) ↔
        ∀ p, p <+: bs → (b :: p).count .closing ≤ k + (b :: p).count .opening := by
      constructor
      · intro all p hp
        exact all (b :: p) ((List.prefix_cons_inj b).2 hp)
      · intro behind p hp
        rcases List.prefix_cons_iff.1 hp with rfl | ⟨q, rfl, hq⟩
        · exact Nat.zero_le _
        · exact behind q hq
    have distinct : opening ≠ closing := by decide
    rw [prefixes]
    cases b with
    | opening =>
      simp only [depth?, ih, List.count_cons_self, List.count_cons_of_ne distinct]
      refine and_congr (forall₂_congr fun p _ => ?_) ?_ <;> omega
    | closing =>
      cases d with
      | zero =>
        refine ⟨nofun, fun enough => ?_⟩
        have first := enough.1 [] List.nil_prefix
        simp at first
      | succ d =>
        simp only [depth?, ih, List.count_cons_self, List.count_cons_of_ne distinct.symm]
        refine and_congr (forall₂_congr fun p _ => ?_) ?_ <;> omega

/-- **Balance by counting**: nowhere have more brackets been closed than opened, and in the end as
many. -/
theorem balanced_filterMap_iff {α : Type} (bracket? : α → Option Bracket) (l : List α) :
    balanced (l.filterMap bracket?) = true ↔
      (∀ p, p <+: l →
          p.countP (bracket? · == some .closing) ≤ p.countP (bracket? · == some .opening)) ∧
        l.countP (bracket? · == some .opening) = l.countP (bracket? · == some .closing) := by
  have count (b : Bracket) (l : List α) :
      (l.filterMap bracket?).count b = l.countP (bracket? · == some b) := List.count_filterMap
  simp only [balanced, decide_eq_true_eq, depth?_eq_some_iff, Nat.zero_add, count,
    List.prefix_filterMap_iff, forall_exists_index, and_imp]
  refine and_congr_left' ⟨fun enough p hp => ?_, ?_⟩
  · have := enough _ p hp rfl
    rwa [count, count] at this
  · rintro enough _ p hp rfl
    rw [count, count]
    exact enough p hp

end Bracket

/-- Whether the brackets among the characters of a text are balanced. -/
def Text.bracketsBalanced (s : Text) : Bool :=
  Bracket.balanced (s.filterMap Bracket.ofChar?)

end Abacus
