import Abacus.Bracket
import Abacus.Proofs.Units

/-!
# Sentences

The infix grammar of expressions, independently of how they are evaluated:

  sentence = operand (operator operand)*,  operand = ('+' | '-')* atom,
  atom = numeral | name | '(' sentence ')'.

A sentence is a tree of this grammar that keeps every unit it is written with, so that its text,
its units and its tokens can be read off. In front of every unit stands something of a type `γ`:
white space where a line is to be written, nothing where only the units count.

- `Sentence`, `Atom`: the trees, over words of any type `α`.
- `Sentence.units`, `Sentence.tokens`: what they are written as.
- `IsSentence`: the lists of units that form a sentence.
- `Token.next`, `Token.Ordered`: which token may follow which, as a test with one bit of memory.
- `isSentence_iff`: a list of units forms a sentence exactly when its tokens are ordered and its
  brackets are balanced. Both tests read the list from left to right, as the stages of an
  evaluation do, so this is how what the stages say becomes a statement about the grammar.
-/

namespace Abacus

/-! ### Units of a sentence -/

/-- A unit that stands for a number by itself. -/
inductive Word where
  | numeral (s : Text) (digits : s.Consists Char.isDigit)
  | name (s : Text) (letters : s.Consists Char.isAlpha)

/-- A unit of a sentence over words of type `α`. -/
inductive Lexeme (α : Type) where
  | word (a : α)
  | op (o : Operator)
  | opening
  | closing

/-- The text of a word. -/
def Word.text : Word → Text
  | .numeral s _ | .name s _ => s

/-- The token that a word is read as. -/
def Word.token : Word → Token
  | .numeral s _ => .number (Decimal.value s)
  | .name s _ => .name s

/-- The text of a unit. -/
def Lexeme.text : Lexeme Word → Text
  | .word w => w.text
  | .op o => [o.symbol]
  | .opening => ['(']
  | .closing => [')']

/-- The token of a unit, its words read by `f`. -/
def Lexeme.token {α : Type} (f : α → Token) : Lexeme α → Token
  | .word a => f a
  | .op o => .op o
  | .opening => .opening
  | .closing => .closing

theorem Lexeme.ofUnit_text (l : Lexeme Word) : Token.ofUnit l.text = l.token Word.token := by
  cases l with
  | word w =>
    cases w with
    | numeral s digits => exact Token.ofUnit_numeral digits
    | name s letters => exact Token.ofUnit_name letters
  | op o => exact Token.ofUnit_symbol o
  | opening => rfl
  | closing => rfl

/-! ### Trees of the grammar -/

/-- A sign in front of an operand. -/
structure Mark (γ : Type) where
  gap : γ
  negative : Bool

/-- The operator that a sign is written as. -/
def Mark.op {γ : Type} (m : Mark γ) : Operator :=
  if m.negative then .minus else .plus

mutual

/-- A word, or a sentence in brackets. -/
inductive Atom (γ α : Type) where
  | word (gap : γ) (a : α)
  | group (gap : γ) (x : Sentence γ α) (gap' : γ)

/-- Operands with operators between them; an operand is an atom with its signs in front. -/
inductive Sentence (γ α : Type) where
  | operand (signs : List (Mark γ)) (a : Atom γ α)
  | binary (x : Sentence γ α) (gap : γ) (o : Operator) (signs : List (Mark γ)) (a : Atom γ α)

end

variable {γ α : Type}

/-- A sign as a unit, with what stands in front of it. -/
def Mark.laid (m : Mark γ) : γ × Lexeme α :=
  (m.gap, .op m.op)

mutual

/-- The units of an atom, each with what stands in front of it. -/
def Atom.laid : Atom γ α → List (γ × Lexeme α)
  | .word g a => [(g, .word a)]
  | .group g x g' => (g, .opening) :: (x.laid ++ [(g', .closing)])

/-- The units of a sentence, each with what stands in front of it. -/
def Sentence.laid : Sentence γ α → List (γ × Lexeme α)
  | .operand signs a => signs.map Mark.laid ++ a.laid
  | .binary x g o signs a => x.laid ++ (g, .op o) :: (signs.map Mark.laid ++ a.laid)

end

/-- The texts of units that are laid out. -/
def laidUnits (l : List (γ × Lexeme Word)) : List Text :=
  l.map fun p => p.2.text

/-- The tokens of units that are laid out, their words read by `f`. -/
def laidTokens (f : α → Token) (l : List (γ × Lexeme α)) : List Token :=
  l.map fun p => p.2.token f

@[simp] theorem laidTokens_nil (f : α → Token) : laidTokens (γ := γ) f [] = [] := rfl

@[simp] theorem laidTokens_cons (f : α → Token) (g : γ) (u : Lexeme α)
    (l : List (γ × Lexeme α)) : laidTokens f ((g, u) :: l) = u.token f :: laidTokens f l := rfl

@[simp] theorem laidTokens_append (f : α → Token) (l m : List (γ × Lexeme α)) :
    laidTokens f (l ++ m) = laidTokens f l ++ laidTokens f m :=
  List.map_append

@[simp] theorem laidTokens_signs (f : α → Token) (signs : List (Mark γ)) :
    laidTokens f (signs.map Mark.laid) = signs.map fun m => .op m.op := by
  rw [laidTokens, List.map_map]
  rfl

namespace Sentence

/-- The units of a sentence. -/
def units (x : Sentence γ Word) : List Text :=
  laidUnits x.laid

/-- The tokens of a sentence, its words read by `f`. -/
def tokens (f : α → Token) (x : Sentence γ α) : List Token :=
  laidTokens f x.laid

/-- The tokens of a sentence are those of its units. -/
theorem map_ofUnit_units (x : Sentence γ Word) :
    x.units.map Token.ofUnit = x.tokens Word.token := by
  rw [units, laidUnits, List.map_map, tokens, laidTokens]
  exact List.map_congr_left fun p _ => p.2.ofUnit_text

end Sentence

/-- Whether units form a sentence. -/
def IsSentence (us : List Text) : Prop :=
  ∃ x : Sentence Unit Word, x.units = us

/-! ### The order of tokens -/

namespace Token

/-- Whether a token stands for a number by itself. -/
def isWord : Token → Bool
  | .number _ | .name _ => true
  | _ => false

/-- What is due after a token, an operand (`true`) or an operator (`false`), when it is known what
is due in front of it; `none` if the token cannot stand there. -/
def next (due : Bool) : Token → Option Bool
  | .number _ | .name _ => if due then some false else none
  | .op o => if due && !o.isSign then none else some true
  | .opening => if due then some true else none
  | .closing => if due then none else some false
  | .unknown _ => none

/-- Whether each token may stand where it does, brackets not being matched. -/
def Ordered (ts : List Token) : Prop :=
  ts.foldlM next true = some false

/-- An unknown token may stand nowhere. -/
theorem unknown_not_mem_of_ordered {ts : List Token} (h : Ordered ts) (s : Text) :
    .unknown s ∉ ts := by
  intro inside
  obtain ⟨a, b, rfl⟩ := List.append_of_mem inside
  rw [Ordered, List.foldlM_append] at h
  obtain ⟨_, -, stuck⟩ := Option.bind_eq_some_iff.1 h
  cases stuck

/-- The brackets among tokens. -/
def brackets (ts : List Token) : List Bracket :=
  ts.filterMap Bracket.ofToken?

@[simp] theorem brackets_append (ts us : List Token) :
    brackets (ts ++ us) = brackets ts ++ brackets us :=
  List.filterMap_append

/-- The numbers of a list of tokens. -/
def numbers (ts : List Token) : List Int :=
  ts.filterMap fun
    | .number n => some n
    | _ => none

theorem numbers_append (ts us : List Token) : numbers (ts ++ us) = numbers ts ++ numbers us :=
  List.filterMap_append

theorem next_word {t : Token} (h : t.isWord = true) : next true t = some false := by
  cases t <;> first | rfl | cases h

theorem ofToken?_word {t : Token} (h : t.isWord = true) : Bracket.ofToken? t = none := by
  cases t <;> first | rfl | cases h

/-- Signs may stand wherever an operand is due, and leave it due. -/
theorem foldlM_next_signs (signs : List (Mark γ)) :
    (signs.map fun m => Token.op m.op).foldlM next true = some true := by
  induction signs with
  | nil => rfl
  | cons m signs ih =>
    have sign : next true (.op m.op) = some true := by
      unfold Mark.op
      split <;> rfl
    rw [List.map_cons, List.foldlM_cons, sign]
    exact ih

theorem brackets_signs (signs : List (Mark γ)) :
    brackets (signs.map fun m => Token.op m.op) = [] := by
  rw [brackets, List.filterMap_map]
  exact List.filterMap_eq_nil_iff.2 fun m _ => rfl

end Token

open Token in
mutual

theorem Atom.foldlM_next {f : α → Token} (hf : ∀ a, (f a).isWord = true) :
    ∀ a : Atom γ α, (laidTokens f a.laid).foldlM next true = some false
  | .word g a => by
    show (next true (f a)).bind _ = _
    rw [next_word (hf a)]
    rfl
  | .group g x g' => by
    rw [Atom.laid, laidTokens_cons, laidTokens_append, List.foldlM_cons]
    show (laidTokens f x.laid ++ [Token.closing]).foldlM next true = _
    rw [List.foldlM_append, Sentence.foldlM_next hf x]
    rfl

/-- The tokens of a sentence are ordered. -/
theorem Sentence.foldlM_next {f : α → Token} (hf : ∀ a, (f a).isWord = true) :
    ∀ x : Sentence γ α, (laidTokens f x.laid).foldlM next true = some false
  | .operand signs a => by
    rw [Sentence.laid, laidTokens_append, laidTokens_signs, List.foldlM_append,
      foldlM_next_signs]
    exact Atom.foldlM_next hf a
  | .binary x g o signs a => by
    rw [Sentence.laid, laidTokens_append, laidTokens_cons, laidTokens_append, laidTokens_signs,
      List.foldlM_append, Sentence.foldlM_next hf x]
    show (((signs.map fun m => Token.op m.op) ++ laidTokens f a.laid).foldlM next true) = _
    rw [List.foldlM_append, foldlM_next_signs]
    exact Atom.foldlM_next hf a

end

open Token in
mutual

theorem Atom.depth?_brackets {f : α → Token} (hf : ∀ a, (f a).isWord = true) (d : Nat) :
    ∀ a : Atom γ α, Bracket.depth? d (brackets (laidTokens f a.laid)) = some d
  | .word g a => by
    show Bracket.depth? d (brackets [f a]) = some d
    rw [brackets, List.filterMap_cons_none (ofToken?_word (hf a))]
    rfl
  | .group g x g' => by
    rw [Atom.laid, laidTokens_cons, laidTokens_append]
    show Bracket.depth? (d + 1) (brackets (laidTokens f x.laid ++ [Token.closing])) = some d
    rw [brackets_append, Bracket.depth?_append, Sentence.depth?_brackets hf (d + 1) x]
    rfl

/-- A sentence closes the brackets that it opens. -/
theorem Sentence.depth?_brackets {f : α → Token} (hf : ∀ a, (f a).isWord = true) (d : Nat) :
    ∀ x : Sentence γ α, Bracket.depth? d (brackets (laidTokens f x.laid)) = some d
  | .operand signs a => by
    rw [Sentence.laid, laidTokens_append, laidTokens_signs, brackets_append, brackets_signs]
    exact Atom.depth?_brackets hf d a
  | .binary x g o signs a => by
    rw [Sentence.laid, laidTokens_append, laidTokens_cons, laidTokens_append, laidTokens_signs,
      brackets_append, Bracket.depth?_append, Sentence.depth?_brackets hf d x]
    show Bracket.depth? d (brackets ((signs.map fun m => Token.op m.op) ++ _)) = some d
    rw [brackets_append, brackets_signs]
    exact Atom.depth?_brackets hf d a

end

theorem Word.isWord_token (w : Word) : w.token.isWord = true := by
  cases w <;> rfl

/-! ### Ordered tokens form a sentence -/

namespace Token

/-- What is left to be said of tokens, given what is due in front of them and how many brackets
are open: that they are ordered and close the brackets. -/
def Completes (due : Bool) (d : Nat) (ts : List Token) : Prop :=
  ts.foldlM next due = some false ∧ Bracket.depth? d (brackets ts) = some 0

theorem Completes.word {due : Bool} {d : Nat} {t : Token} {ts : List Token}
    (ht : t.isWord = true) (h : Completes due d (t :: ts)) :
    due = true ∧ Completes false d ts := by
  obtain ⟨order, depth⟩ := h
  rw [brackets, List.filterMap_cons_none (ofToken?_word ht)] at depth
  cases due with
  | false =>
    cases t with
    | number n => cases order
    | name s => cases order
    | _ => cases ht
  | true =>
    rw [List.foldlM_cons, next_word ht] at order
    exact ⟨rfl, order, depth⟩

theorem Completes.op {due : Bool} {d : Nat} {o : Operator} {ts : List Token}
    (h : Completes due d (.op o :: ts)) :
    (due = true → o.isSign = true) ∧ Completes true d ts := by
  obtain ⟨order, depth⟩ := h
  cases due with
  | false => exact ⟨nofun, order, depth⟩
  | true =>
    cases sign : o.isSign with
    | false =>
      simp [next, sign] at order
    | true =>
      refine ⟨fun _ => rfl, ?_, depth⟩
      simpa [next, sign] using order

theorem Completes.opening {due : Bool} {d : Nat} {ts : List Token}
    (h : Completes due d (.opening :: ts)) : due = true ∧ Completes true (d + 1) ts := by
  obtain ⟨order, depth⟩ := h
  cases due with
  | false => cases order
  | true => exact ⟨rfl, order, depth⟩

theorem Completes.closing {due : Bool} {d : Nat} {ts : List Token}
    (h : Completes due d (.closing :: ts)) :
    due = false ∧ ∃ e, d = e + 1 ∧ Completes false e ts := by
  obtain ⟨order, depth⟩ := h
  cases due with
  | true => cases order
  | false =>
    cases d with
    | zero => cases depth
    | succ e => exact ⟨rfl, e, rfl, order, depth⟩

theorem Completes.unknown {due : Bool} {d : Nat} {s : Text} {ts : List Token}
    (h : Completes due d (.unknown s :: ts)) : False := by
  cases h.1

end Token

section Reading

variable {γ : Type}

/-- The texts of units that are laid out, each with what stands in front of it. -/
def laidTexts (l : List (γ × Lexeme Word)) : List (γ × Text) :=
  l.map fun p => (p.1, p.2.text)

theorem laidTexts_append (l m : List (γ × Lexeme Word)) :
    laidTexts (l ++ m) = laidTexts l ++ laidTexts m :=
  List.map_append

theorem laidTexts_sign {m : Mark γ} (l : List (γ × Lexeme Word)) :
    laidTexts (m.laid :: l) = (m.gap, [m.op.symbol]) :: laidTexts l := rfl

theorem map_snd_laidTexts (l : List (γ × Lexeme Word)) :
    (laidTexts l).map Prod.snd = laidUnits l :=
  List.map_map

/-- The tokens of units, whatever stands in front of these. -/
def unitTokens (us : List (γ × Text)) : List Token :=
  us.map fun u => Token.ofUnit u.2

theorem unitTokens_cons (u : γ × Text) (us : List (γ × Text)) :
    unitTokens (u :: us) = Token.ofUnit u.2 :: unitTokens us := rfl

open Token in
/-- What can be read off the front of units in front of which an operand is due: the operand, and
what comes after it. -/
def ReadsOperand (d : Nat) (us : List (γ × Text)) : Prop :=
  ∃ (signs : List (Mark γ)) (a : Atom γ Word) (rest : List (γ × Text)),
    us = laidTexts (signs.map Mark.laid ++ a.laid) ++ rest ∧
      rest.length < us.length ∧ Completes false d (unitTokens rest)

open Token in
/-- What can be read off the front of units in front of which an operator is due: how they go on
with the sentence in front of them, up to the bracket that closes it or to the end. -/
def ReadsRest (d : Nat) (us : List (γ × Text)) : Prop :=
  ∀ x : Sentence γ Word, ∃ (y : Sentence γ Word) (rest : List (γ × Text)),
    laidTexts x.laid ++ us = laidTexts y.laid ++ rest ∧ rest.length ≤ us.length ∧
      (d = 0 ∧ rest = [] ∨
        ∃ e g rest', d = e + 1 ∧ rest = (g, [')']) :: rest' ∧ Completes false e (unitTokens rest'))

open Token in
/-- An operand is read off units that are ordered, given that shorter lists can be read. -/
theorem readsOperand_of_completes {g : γ} {u : Text} {us : List (γ × Text)}
    (ne : ∀ v ∈ (g, u) :: us, v.2 ≠ [])
    (short : ∀ vs : List (γ × Text), vs.length ≤ us.length → (∀ v ∈ vs, v.2 ≠ []) → ∀ d,
      (Completes true d (unitTokens vs) → ReadsOperand d vs) ∧
        (Completes false d (unitTokens vs) → ReadsRest d vs))
    {d : Nat} (h : Completes true d (unitTokens ((g, u) :: us))) :
    ReadsOperand d ((g, u) :: us) := by
  have ne' : ∀ v ∈ us, v.2 ≠ [] := fun v hv => ne v (List.mem_cons_of_mem _ hv)
  have spec := ofUnit_spec (ne (g, u) (List.mem_cons_self ..))
  rw [unitTokens_cons] at h
  dsimp only at spec h
  cases hu : ofUnit u with
  | number n =>
    rw [hu] at spec h
    exact ⟨[], .word g (.numeral u spec.1), us, rfl, Nat.lt_succ_self _, (h.word rfl).2⟩
  | name s =>
    rw [hu] at spec h
    exact ⟨[], .word g (.name u spec.1), us, rfl, Nat.lt_succ_self _, (h.word rfl).2⟩
  | op o =>
    rw [hu] at spec h
    obtain ⟨sign, h⟩ := h.op
    obtain ⟨signs, a, rest, hus, shorter, hrest⟩ := (short us (Nat.le_refl _) ne' d).1 h
    have ho : o = (Mark.mk g (o == .minus)).op := by
      cases o <;> first | rfl | cases sign rfl
    refine ⟨⟨g, o == .minus⟩ :: signs, a, rest, ?_, Nat.lt_succ_of_lt shorter, hrest⟩
    rw [List.map_cons, List.cons_append, laidTexts_sign, ← ho, spec, List.cons_append, ← hus]
  | opening =>
    rw [hu] at spec h
    obtain ⟨signs, a, rest, hus, shorter, hrest⟩ :=
      (short us (Nat.le_refl _) ne' (d + 1)).1 h.opening.2
    have ne'' : ∀ v ∈ rest, v.2 ≠ [] := fun v hv =>
      ne' v (hus ▸ List.mem_append_right _ hv)
    -- with a bracket open the sentence cannot go on to the end
    obtain ⟨y, rest, hy, shorter', ⟨hd, -⟩ | ⟨e, g', rest', he, rfl, hrest'⟩⟩ :=
      (short rest (Nat.le_of_lt shorter) ne'' (d + 1)).2 hrest (.operand signs a)
    · cases hd
    · obtain rfl : d = e := Nat.succ.inj he
      refine ⟨[], .group g y g', rest', ?_, ?_, hrest'⟩
      · show (g, u) :: us = (g, ['(']) :: (laidTexts (y.laid ++ [(g', .closing)]) ++ rest')
        rw [laidTexts_append, List.append_assoc, spec, hus]
        exact congrArg _ hy
      · rw [List.length_cons] at shorter' ⊢
        omega
  | closing =>
    rw [hu] at h
    cases h.closing.1
  | unknown s =>
    rw [hu] at h
    exact h.unknown.elim

open Token in
/-- The rest of a sentence is read off units that are ordered, given that shorter lists can be
read. -/
theorem readsRest_of_completes {g : γ} {u : Text} {us : List (γ × Text)}
    (ne : ∀ v ∈ (g, u) :: us, v.2 ≠ [])
    (short : ∀ vs : List (γ × Text), vs.length ≤ us.length → (∀ v ∈ vs, v.2 ≠ []) → ∀ d,
      (Completes true d (unitTokens vs) → ReadsOperand d vs) ∧
        (Completes false d (unitTokens vs) → ReadsRest d vs))
    {d : Nat} (h : Completes false d (unitTokens ((g, u) :: us))) :
    ReadsRest d ((g, u) :: us) := by
  intro x
  have ne' : ∀ v ∈ us, v.2 ≠ [] := fun v hv => ne v (List.mem_cons_of_mem _ hv)
  have spec := ofUnit_spec (ne (g, u) (List.mem_cons_self ..))
  rw [unitTokens_cons] at h
  dsimp only at spec h
  cases hu : ofUnit u with
  | op o =>
    rw [hu] at spec h
    obtain ⟨signs, a, rest, hus, shorter, hrest⟩ := (short us (Nat.le_refl _) ne' d).1 h.op.2
    have ne'' : ∀ v ∈ rest, v.2 ≠ [] := fun v hv => ne' v (hus ▸ List.mem_append_right _ hv)
    obtain ⟨y, rest', hy, shorter', ending⟩ :=
      (short rest (Nat.le_of_lt shorter) ne'' d).2 hrest (.binary x g o signs a)
    refine ⟨y, rest', ?_, ?_, ending⟩
    · rw [← hy, spec, hus]
      show laidTexts x.laid ++ _ = laidTexts (x.laid ++ (g, .op o) :: _) ++ rest
      rw [laidTexts_append x.laid, List.append_assoc]
      rfl
    · rw [List.length_cons]
      omega
  | closing =>
    rw [hu] at spec h
    obtain ⟨-, e, rfl, h⟩ := h.closing
    exact ⟨x, (g, u) :: us, rfl, Nat.le_refl _, .inr ⟨e, g, us, rfl, by rw [spec], h⟩⟩
  | number n =>
    rw [hu] at h
    cases (h.word rfl).1
  | name s =>
    rw [hu] at h
    cases (h.word rfl).1
  | opening =>
    rw [hu] at h
    cases h.opening.1
  | unknown s =>
    rw [hu] at h
    exact h.unknown.elim

open Token in
theorem reads_of_completes :
    ∀ (n : Nat) (us : List (γ × Text)), us.length ≤ n → (∀ u ∈ us, u.2 ≠ []) → ∀ d,
      (Completes true d (unitTokens us) → ReadsOperand d us) ∧
        (Completes false d (unitTokens us) → ReadsRest d us)
  | _, [], _, _, d => by
    refine ⟨fun h => ?_, fun h x => ⟨x, [], rfl, Nat.le_refl _, .inl ⟨?_, rfl⟩⟩⟩
    · cases h.1
    · exact Option.some.inj h.2
  | n + 1, (g, u) :: us, hn, ne, d => by
    -- what is left behind an operand is shorter, but it is not the tail of the list
    have short : ∀ vs : List (γ × Text), vs.length ≤ us.length → (∀ v ∈ vs, v.2 ≠ []) → ∀ d,
        (Completes true d (unitTokens vs) → ReadsOperand d vs) ∧
          (Completes false d (unitTokens vs) → ReadsRest d vs) := fun vs hvs =>
      reads_of_completes n vs (Nat.le_trans hvs (Nat.le_of_succ_le_succ hn))
    exact ⟨readsOperand_of_completes ne short, readsRest_of_completes ne short⟩

/-- Units that are ordered and close the brackets that they open are those of a sentence, whatever
stands in front of them. -/
theorem exists_laidTexts {us : List (γ × Text)} (ne : ∀ u ∈ us, u.2 ≠ [])
    (order : Token.Ordered (unitTokens us))
    (balance : Bracket.balanced (Token.brackets (unitTokens us)) = true) :
    ∃ x : Sentence γ Word, laidTexts x.laid = us := by
  obtain ⟨signs, a, rest, hus, shorter, hrest⟩ :=
    (reads_of_completes us.length us (Nat.le_refl _) ne 0).1 ⟨order, of_decide_eq_true balance⟩
  have ne' : ∀ u ∈ rest, u.2 ≠ [] := fun u hu => ne u (hus ▸ List.mem_append_right _ hu)
  obtain ⟨y, rest', hy, -, ⟨-, rfl⟩ | ⟨e, -, -, he, -⟩⟩ :=
    (reads_of_completes us.length rest (Nat.le_of_lt shorter) ne' 0).2 hrest (.operand signs a)
  · refine ⟨y, ?_⟩
    rw [List.append_nil] at hy
    rw [← hy, hus]
    rfl
  · cases he

end Reading

/-- **Recognition**: units form a sentence exactly when their tokens are ordered and close the
brackets that they open. -/
theorem isSentence_iff {us : List Text} (ne : ∀ u ∈ us, u ≠ []) :
    IsSentence us ↔ Token.Ordered (us.map Token.ofUnit) ∧
      Bracket.balanced (Token.brackets (us.map Token.ofUnit)) = true := by
  constructor
  · rintro ⟨x, rfl⟩
    rw [x.map_ofUnit_units]
    exact ⟨x.foldlM_next Word.isWord_token,
      decide_eq_true (x.depth?_brackets Word.isWord_token 0)⟩
  · rintro ⟨order, balance⟩
    have tokens : unitTokens (us.map fun u => ((), u)) = us.map Token.ofUnit := List.map_map
    obtain ⟨x, hx⟩ : ∃ x : Sentence Unit Word, laidTexts x.laid = us.map fun u => ((), u) :=
      exists_laidTexts (by simpa using ne) (tokens ▸ order) (tokens ▸ balance)
    refine ⟨x, ?_⟩
    rw [Sentence.units, ← map_snd_laidTexts, hx, List.map_map]
    exact List.map_id us

end Abacus
