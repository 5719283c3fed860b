import Abacus.Proofs.History
import Abacus.Proofs.Numerals

/-!
# Dumps as lines

What `/print` shows can be typed in again. Every binding in it is written as an assignment, and the
separator of bindings occurs in none of them: names are letters, and numerals are digits and a sign.
So the dump can be cut where it was put together, its parts make the same store in a new session,
and the dump says all that there is to say of a store.

- **Cutting** (`Text.parts`, `Store.entries_dump`): the parts of a dump are its bindings.
- **Rebuilding** (`Store.ofList_toList`): the bindings of a store, made in their order, make it.
- **Replaying** (`Session.turn_entry`, `Session.after_entries`, `Session.replay_dump`): what a
  session does with the parts of a dump.
-/

namespace Abacus

/-! ### Cutting -/

namespace Text

/-- The parts of a text in front of, between and behind the separators `, ` in it. -/
def parts : Text → List Text
  | [] => [[]]
  | ',' :: ' ' :: r => [] :: parts r
  | c :: r => (parts r).modifyHead (c :: ·)

/-- A text without commas belongs to the first part. -/
theorem parts_append (r : Text) :
    ∀ {p : Text}, ',' ∉ p → parts (p ++ r) = (parts r).modifyHead (p ++ ·)
  | [], _ => (congrFun List.modifyHead_id (parts r)).symm
  | c :: p, h => by
    obtain ⟨other, later⟩ := List.ne_and_not_mem_of_not_mem_cons h
    have first : ∀ r', c = ',' → p ++ r = ' ' :: r' → False :=
      fun _ same _ => other same.symm
    rw [List.cons_append, parts, parts_append r later, List.modifyHead_modifyHead]
    · rfl
    · exact first

/-- Texts without commas are the parts of what is put together from them. -/
theorem parts_intercalate :
    ∀ {ps : List Text}, ps ≠ [] → (∀ p ∈ ps, ',' ∉ p) → parts (", ".toList.intercalate ps) = ps
  | [p], _, h => by
    have whole := parts_append [] (h p (List.mem_singleton_self p))
    rw [List.append_nil] at whole
    rw [List.intercalate_singleton, whole]
    exact congrArg (· :: []) (List.append_nil p)
  | p :: q :: ps, _, h => by
    have rest : parts (", ".toList.intercalate (q :: ps)) = q :: ps :=
      parts_intercalate (List.cons_ne_nil q ps) fun r hr => h r (List.mem_cons_of_mem p hr)
    rw [List.intercalate_cons_cons, List.append_assoc, parts_append _ (h p (List.mem_cons_self ..))]
    show ([] :: parts (", ".toList.intercalate (q :: ps))).modifyHead (p ++ ·) = _
    rw [rest]
    exact congrArg (· :: q :: ps) (List.append_nil p)

/-- The bindings in a dump: the parts of what stands between the braces, if anything does. -/
def entries (dump : Text) : List Text :=
  if dump.tail.dropLast = [] then [] else parts dump.tail.dropLast

end Text

namespace Store

/-- A binding as it is written in a dump. -/
def entry (b : Text × Int) : Text :=
  b.1 ++ '=' :: Decimal.ofInt b.2

theorem not_mem_entry {b : Text × Int} (letters : b.1.isName = true) : ',' ∉ entry b := by
  have name : ',' ∉ b.1 := (Text.isName_iff.1 letters).not_mem rfl
  have value : ',' ∉ Decimal.ofInt b.2 :=
    (Decimal.signedNumeral_ofInt b.2).not_mem rfl (by decide) (by decide)
  rw [entry, List.mem_append, List.mem_cons]
  exact not_or.2 ⟨name, not_or.2 ⟨by decide, value⟩⟩

/-- The bindings in the dump of a store are its bindings, in their order. -/
theorem entries_dump {store : Store} (letters : ∀ name ∈ store.names, name.isName = true) :
    store.dump.entries = store.toList.map entry := by
  have inner : store.dump.tail.dropLast = ", ".toList.intercalate (store.toList.map entry) :=
    List.dropLast_concat
  rw [Text.entries, inner]
  by_cases none : store.toList.map entry = []
  · rw [none]
    rfl
  · have cut : Text.parts (", ".toList.intercalate (store.toList.map entry))
        = store.toList.map entry := by
      refine Text.parts_intercalate none fun p hp => ?_
      obtain ⟨b, hb, rfl⟩ := List.mem_map.1 hp
      exact not_mem_entry (letters b.1 (List.mem_map_of_mem hb))
    rw [cut, if_neg]
    -- an empty text has one part, and no binding is written as that
    intro blank
    rw [blank] at cut
    have empty : [] ∈ store.toList.map entry := cut ▸ List.mem_singleton_self []
    obtain ⟨b, -, written⟩ := List.mem_map.1 empty
    exact List.cons_ne_nil _ _ (List.append_eq_nil_iff.1 written).2

/-! ### Rebuilding -/

theorem rebind_of_not_mem {name : Text} (v : Int) :
    ∀ {l : List (Text × Int)}, name ∉ l.map Prod.fst → rebind name v l = l ++ [(name, v)]
  | [], _ => rfl
  | (n, w) :: l, h => by
    obtain ⟨other, later⟩ := List.ne_and_not_mem_of_not_mem_cons h
    rw [rebind, if_neg (Ne.symm other), rebind_of_not_mem v later]
    rfl

theorem toList_ofList {bs : List (Text × Int)} (distinct : (bs.map Prod.fst).Nodup) :
    (ofList bs).toList = bs := by
  induction bs using List.reverseRecOn with
  | nil => rfl
  | append_singleton bs b ih =>
    obtain ⟨name, v⟩ := b
    rw [List.map_append, List.nodup_append] at distinct
    obtain ⟨before, -, apart⟩ := distinct
    have new : name ∉ bs.map Prod.fst :=
      fun old => apart name old name (List.mem_singleton_self _) rfl
    rw [ofList_concat]
    show rebind name v (ofList bs).toList = _
    rw [ih before, rebind_of_not_mem v new]

/-- A store is made by its bindings. -/
theorem ofList_toList (store : Store) : ofList store.toList = store := by
  obtain ⟨bs, distinct⟩ := store
  have same := toList_ofList distinct
  cases h : ofList bs
  rw [h] at same
  subst same
  rfl

end Store

/-! ### Replaying -/

namespace Session

variable {s : Session}

/-- **Step**: a binding of a dump is an assignment, and is carried out. -/
theorem turn_entry (s : Session) {b : Text × Int} (letters : b.1.isName = true) :
    (s.turn (Store.entry b)).reply = .silence ∧
      (s.turn (Store.entry b)).session.store = s.store.bind b.1 b.2 :=
  turn_of_assigns <|
    Store.assigns_of_numeral (Text.isName_iff.1 letters) (Decimal.signedNumeral_ofInt b.2)

/-- **Run**: bindings are made one after the other, and nothing is shown. -/
theorem after_entries :
    ∀ {bs : List (Text × Int)} (s : Session), (∀ b ∈ bs, b.1.isName = true) →
      (∀ t ∈ s.turns (bs.map Store.entry), t.reply = .silence) ∧
        (s.after (bs.map Store.entry)).store
          = bs.foldl (fun store b => store.bind b.1 b.2) s.store
  | [], _, _ => ⟨nofun, rfl⟩
  | b :: bs, s, letters => by
    obtain ⟨silent, bound⟩ := s.turn_entry (letters b (List.mem_cons_self ..))
    obtain ⟨quiet, made⟩ := after_entries (s.turn (Store.entry b)).session
      fun c hc => letters c (List.mem_cons_of_mem b hc)
    refine ⟨List.forall_mem_cons.2 ⟨silent, quiet⟩, ?_⟩
    rw [bound] at made
    exact made

/-- The dump of a session with letters for names makes its store in a new one. -/
theorem Lettered.replay (h : s.Lettered) (limits : Limits) :
    (∀ t ∈ (new limits).turns s.store.dump.entries, t.reply = .silence) ∧
      ((new limits).after s.store.dump.entries).store = s.store := by
  have letters : ∀ b ∈ s.store.toList, b.1.isName = true :=
    fun b hb => h b.1 (List.mem_map_of_mem hb)
  obtain ⟨silent, made⟩ := (new limits).after_entries letters
  rw [Store.entries_dump h]
  exact ⟨silent, made.trans s.store.ofList_toList⟩

/-- **Replay**: whatever lines a new session is given, the text that `/print` shows then can be cut
into lines that any new session takes without a word. They leave it with the same bindings in the
same order, of which `/print` shows the same text; there are none if the store is empty. So sessions
of which `/print` shows the same text have the same store. -/
theorem replay_dump (limits : Limits) (lines : List Text) :
    ∃ shown, (((new limits).after lines).turn "/print".toList).reply = .display shown ∧
      (((new limits).after lines).store = .empty → shown.entries = []) ∧
      ∀ limits', (∀ t ∈ (new limits').turns shown.entries, t.reply = .silence) ∧
        ((new limits').after shown.entries).store = ((new limits).after lines).store ∧
        (((new limits').after shown.entries).turn "/print".toList).reply = .display shown ∧
        ∀ lines', (((new limits').after lines').turn "/print".toList).reply = .display shown →
          ((new limits').after lines').store = ((new limits).after lines).store := by
  have letters := (lettered_new limits).after lines
  refine ⟨_, rfl, fun empty => by rw [empty]; rfl, fun limits' => ?_⟩
  obtain ⟨silent, made⟩ := letters.replay limits'
  refine ⟨silent, made, ?_, fun lines' same => ?_⟩
  · show Reply.display ((new limits').after _).store.dump = _
    rw [made]
  · -- one text makes one store
    have dump : ((new limits').after lines').store.dump = ((new limits).after lines).store.dump :=
      Reply.display.inj same
    have again := (((lettered_new limits').after lines').replay limits').2
    rw [dump, made] at again
    exact again.symm

/-- A negative number, a name that was bound again, and another way to the same store. -/
theorem replay_dump_rebound :
    let lines := ["x = -20".toList, "yy = x".toList, "q+".toList, "x = 007".toList, "a=0".toList]
    let lines' := ["x=7".toList, "yy=-20".toList, "a=-0".toList]
    let shown : Text := "{x=7, yy=-20, a=0}".toList
    (((new .standard).after lines).turn "/print".toList).reply = .display shown ∧
      shown.entries = ["x=7".toList, "yy=-20".toList, "a=0".toList] ∧
      (((new .standard).after lines').turn "/print".toList).reply = .display shown ∧
      ((new .standard).after lines').store = ((new .standard).after lines).store := by
  intro lines lines' shown
  have print : (((new .standard).after lines).turn "/print".toList).reply = .display shown := by
    decide
  have print' : (((new .standard).after lines').turn "/print".toList).reply = .display shown := by
    decide
  obtain ⟨text, same, -, replay⟩ := replay_dump .standard lines
  obtain rfl : text = shown := Reply.display.inj (same.symm.trans print)
  exact ⟨print, by decide, print', (replay .standard).2.2.2 lines' print'⟩

end Session

end Abacus
