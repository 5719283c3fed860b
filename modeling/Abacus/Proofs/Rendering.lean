import Abacus.Proofs.Lexing

/-!
# Tokens in writing

Tokens are shown with one space between neighbours, and a text is read piece by piece between its
white space. Reading gives back what was shown for just the tokens that reading can give: each of
them is shown as one piece, and as one that is read as no other token.

- **Legible tokens** (`Token.Legible`): numbers without a sign, names, operators, brackets, and
  whatever is in one piece and is none of these.
- **One token** (`Token.Legible.ofUnit_text`, `Token.legible_ofUnit`): a legible token is read from
  its text, and what is read from a piece is legible.
- **Lists of tokens** (`Token.scan_render`): scanning undoes rendering for lists of legible tokens
  and for no others, and these are the lists that scanning gives.
-/

namespace Abacus.Token

/-- Whether a token can be read from a text. -/
inductive Legible : Token → Prop where
  | number (n : Nat) : Legible (.number n)
  | name {s : Text} (letters : s.Consists Char.isAlpha) : Legible (.name s)
  | op (o : Operator) : Legible (.op o)
  | opening : Legible .opening
  | closing : Legible .closing
  | unknown {s : Text} (ne : s ≠ []) (visible : ∀ c ∈ s, isBlank c = false)
      (digits : ¬ s.Consists Char.isDigit) (letters : ¬ s.Consists Char.isAlpha)
      (symbol : ∀ c t, (c, t) ∈ symbols → s ≠ [c]) : Legible (.unknown s)

/-! ### One token -/

/-- A legible token is read from its text. -/
theorem Legible.ofUnit_text {t : Token} (h : Legible t) : ofUnit t.text = t := by
  cases h with
  | number n =>
    have read : ofUnit (Decimal.digits n) = .number (Decimal.value (Decimal.digits n)) :=
      ofUnit_numeral (Decimal.isNumeral_iff.1 (Decimal.isNumeral_digits n))
    rwa [Decimal.value_digits] at read
  | name letters => exact ofUnit_name letters
  | op o => exact ofUnit_symbol o
  | opening => rfl
  | closing => rfl
  | @unknown s ne visible digits letters symbol =>
    show ofUnit s = .unknown s
    rcases ofUnit_cases s with ⟨c, t, single, known, -⟩ | ⟨-, word⟩
    · exact absurd single (symbol c t (mem_symbols_iff.2 known))
    · rw [word]
      rcases ofWord_cases s with ⟨all, -⟩ | ⟨all, -⟩ | ⟨-, -, unknown⟩
      · exact absurd ⟨ne, List.all_eq_true.1 all⟩ digits
      · exact absurd ⟨ne, List.all_eq_true.1 all⟩ letters
      · exact unknown

/-- The text of a legible token is one piece. -/
theorem Legible.visible {t : Token} (h : Legible t) :
    t.text ≠ [] ∧ ∀ c ∈ t.text, isBlank c = false := by
  cases h with
  | number n =>
    have numeral := Decimal.isNumeral_iff.1 (Decimal.isNumeral_digits n)
    exact ⟨numeral.1, numeral.visible isAlphanum_of_isDigit⟩
  | name letters => exact ⟨letters.1, letters.visible isAlphanum_of_isAlpha⟩
  | op o =>
    have visible : isBlank o.symbol = false := by cases o <;> rfl
    exact ⟨nofun, List.forall_mem_singleton.2 visible⟩
  | opening => exact ⟨nofun, List.forall_mem_singleton.2 rfl⟩
  | closing => exact ⟨nofun, List.forall_mem_singleton.2 rfl⟩
  | unknown ne visible _ _ _ => exact ⟨ne, visible⟩

/-- What is read from a piece is legible. -/
theorem legible_ofUnit {u : Text} (ne : u ≠ []) (visible : ∀ c ∈ u, isBlank c = false) :
    Legible (ofUnit u) := by
  rcases ofUnit_cases u with ⟨c, t, -, known, read⟩ | ⟨symbol, word⟩
  · rw [read]
    rcases eq_of_ofSymbol? known with ⟨-, rfl⟩ | ⟨-, rfl⟩ | ⟨o, -, rfl⟩
    · exact .opening
    · exact .closing
    · exact .op o
  · rw [word]
    rcases ofWord_cases u with ⟨-, numeral⟩ | ⟨letters, name⟩ | ⟨digits, letters, unknown⟩
    · rw [numeral]
      exact .number _
    · rw [name]
      exact .name ⟨ne, List.all_eq_true.1 letters⟩
    · rw [unknown]
      refine .unknown ne visible (fun all => digits (List.all_eq_true.2 all.2))
        (fun all => letters (List.all_eq_true.2 all.2)) fun c t known single => ?_
      have none := symbol c single
      rw [mem_symbols_iff.1 known] at none
      cases none

/-! ### Lists of tokens -/

/-- Scanning undoes rendering. -/
theorem scan_render_of_legible {ts : List Token} (h : ∀ t ∈ ts, Legible t) :
    scan (render ts) = ts := by
  have visible : ∀ u ∈ ts.map text, u ≠ [] ∧ ∀ c ∈ u, isBlank c = false := by
    intro u hu
    obtain ⟨t, ht, rfl⟩ := List.mem_map.1 hu
    exact (h t ht).visible
  rw [scan, render, Text.pieces_unwords visible, List.map_map]
  exact (List.map_congr_left fun t ht => (h t ht).ofUnit_text).trans (List.map_id ts)

/-- What scanning gives is legible. -/
theorem legible_of_mem_scan {s : Text} {t : Token} (h : t ∈ scan s) : Legible t := by
  obtain ⟨u, hu, rfl⟩ := List.mem_map.1 h
  obtain ⟨ne, visible⟩ := Text.mem_pieces hu
  exact legible_ofUnit ne visible

/-- **Tokens in writing**: a list of tokens is read back from its text exactly when all of them are
legible, and these lists are the ones that are read from texts at all. So the tokens of any text are
read back from the text that shows them. -/
theorem scan_render :
    (∀ ts, scan (render ts) = ts ↔ ∀ t ∈ ts, Legible t) ∧
      (∀ ts, (∃ s, scan s = ts) ↔ ∀ t ∈ ts, Legible t) ∧
      ∀ s, scan (render (scan s)) = scan s := by
  have read {ts : List Token} (h : ∃ s, scan s = ts) : ∀ t ∈ ts, Legible t := by
    obtain ⟨s, rfl⟩ := h
    exact fun t => legible_of_mem_scan
  refine ⟨fun ts => ⟨fun back => read ⟨_, back⟩, scan_render_of_legible⟩,
    fun ts => ⟨read, fun legible => ⟨render ts, scan_render_of_legible legible⟩⟩,
    fun s => scan_render_of_legible fun t => legible_of_mem_scan⟩

/-- A number with a sign is not legible: it is shown as one piece, and no numeral. -/
example : scan (render [.number 7, .op .power, .number (-2)])
    = [.number 7, .op .power, .unknown "-2".toList] := by
  decide

end Abacus.Token
