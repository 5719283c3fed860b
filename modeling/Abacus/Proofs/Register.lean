import Abacus.Proofs.Dump
import Mathlib.Data.Finset.Card

/-!
# Registers of variables

A register keeps its bindings twice over: a map has the value of every name, and a list the names in
the order in which they were first bound. Some questions are put to the map, some to the list and
some to both, so the answers fit together only as long as the two hold the same names. A single test
in `Register.bind` sees to that. A register that is made by bindings then answers like the store
that the same bindings make.

- **Registers** (`Register`): the map, the list, and what is read off each of them.
- **In step** (`Register.InStep`): the list has every name of the map, once. A binding keeps it so
  (`InStep.bind`), hence any number of bindings does (`inStep_ofList`).
- **Listings** (`InStep.names_toList`, `InStep.valueIn_toList`): the bindings of a register in step
  are listed without a gap, each with the value that the map has.
- **Stores** (`InStep.toList_bind`, `toList_ofList`, `Register.AnswersLike`): to bind a name in a
  register is to bind it in the store with the same bindings.
- **Bindings** (`ofList_faithful`): what each part of a register says of the bindings that made it.
-/

namespace Abacus

/-! ### Bindings as a list -/

/-- All texts but the first stand behind a separator. -/
theorem Text.intercalate_cons (sep p : Text) (ps : List Text) :
    sep.intercalate (p :: ps) = p ++ ps.flatMap (sep ++ ·) := by
  induction ps generalizing p with
  | nil => rw [List.intercalate_singleton, List.flatMap_nil, List.append_nil]
  | cons q ps ih =>
    rw [List.intercalate_cons_cons, ih, List.flatMap_cons, List.append_assoc, List.append_assoc]

namespace Store

theorem mem_of_valueIn {name : Text} {v : Int} :
    ∀ {l : List (Text × Int)}, valueIn name l = some v → (name, v) ∈ l
  | (n, w) :: l, h => by
    rw [valueIn] at h
    split at h
    · next same =>
      obtain rfl := Option.some.inj h
      exact same ▸ List.mem_cons_self
    · exact List.mem_cons_of_mem _ (mem_of_valueIn h)

/-- Bindings of distinct names are told by the names and the value of each. -/
theorem filterMap_valueIn {l : List (Text × Int)} (distinct : (l.map Prod.fst).Nodup) :
    (l.map Prod.fst).filterMap (fun name => (valueIn name l).map (name, ·)) = l := by
  have listed : ∀ b ∈ l, (valueIn b.1 l).map (b.1, ·) = some b := fun b hb => by
    rw [valueIn_of_mem distinct hb]
    rfl
  rw [List.filterMap_map]
  exact (List.filterMap_congr listed).trans List.filterMap_some

end Store

/-! ### Registers -/

/-- Bindings kept twice over: a map has the values, and a list the order of first binding. The keys
of the map are the names as strings. -/
structure Register where
  values : Std.HashMap String Int := {}
  order : List Text := []

namespace Register

/-- The register without bindings. -/
def empty : Register := {}

/-- The value of a name. -/
def get? (t : Register) (name : Text) : Option Int :=
  t.values[String.ofList name]?

/-- The register with a name bound to a value. The name joins the list if the map had no value
for it. -/
def bind (t : Register) (name : Text) (value : Int) : Register where
  values := t.values.insert (String.ofList name) value
  order := if (t.get? name).isNone then t.order ++ [name] else t.order

/-- The register that a list of bindings, made one after the other, leads to. -/
def ofList (bs : List (Text × Int)) : Register :=
  bs.foldl (fun t b => t.bind b.1 b.2) empty

/-- The bindings in the order of the list. A name without a value would be left out. -/
def toList (t : Register) : List (Text × Int) :=
  t.order.filterMap fun name => (t.get? name).map (name, ·)

/-- The number of names in the list. -/
def size (t : Register) : Nat :=
  t.order.length

def isEmpty (t : Register) : Bool :=
  t.order.isEmpty

/-- A binding at its place in a text, behind a comma if the place is not the first. -/
def item (b : (Text × Int) × Nat) : Text :=
  (if 0 < b.2 then ", ".toList else []) ++ Store.entry b.1

/-- The bindings as a text, in braces. -/
def dump (t : Register) : Text :=
  '\x7b' :: (t.toList.zipIdx.flatMap item ++ ['\x7d'])

/-! ### What a binding changes -/

section Bind

variable (t : Register) (name other : Text) (value : Int)

theorem mem_values_iff : String.ofList name ∈ t.values ↔ (t.get? name).isSome = true :=
  Std.HashMap.mem_iff_isSome_getElem?

theorem get?_bind :
    (t.bind name value).get? other = if other = name then some value else t.get? other := by
  show (t.values.insert (String.ofList name) value)[String.ofList other]? = _
  rw [Std.HashMap.getElem?_insert]
  simp only [beq_iff_eq, String.ofList_inj, eq_comm (a := name)]
  rfl

theorem mem_values_bind :
    String.ofList other ∈ (t.bind name value).values ↔
      other = name ∨ String.ofList other ∈ t.values := by
  show String.ofList other ∈ t.values.insert (String.ofList name) value ↔ _
  rw [Std.HashMap.mem_insert, beq_iff_eq, String.ofList_inj, eq_comm]

theorem order_bind :
    (t.bind name value).order
      = if String.ofList name ∈ t.values then t.order else t.order ++ [name] := by
  show (if (t.get? name).isNone then t.order ++ [name] else t.order) = _
  simp only [mem_values_iff]
  cases t.get? name <;> rfl

end Bind

/-! ### In step -/

/-- The list has every name of the map, once, and no others. -/
structure InStep (t : Register) : Prop where
  distinct : t.order.Nodup
  mem_order : ∀ {name}, name ∈ t.order ↔ String.ofList name ∈ t.values

theorem inStep_empty : empty.InStep where
  distinct := List.nodup_nil
  mem_order := by
    intro name
    show name ∈ ([] : List Text) ↔ String.ofList name ∈ (∅ : Std.HashMap String Int)
    simp

/-- **Step**: a binding keeps the list and the map in step. -/
theorem InStep.bind {t : Register} (h : t.InStep) (name : Text) (value : Int) :
    (t.bind name value).InStep := by
  by_cases known : String.ofList name ∈ t.values
  · have order : (t.bind name value).order = t.order := by rw [order_bind, if_pos known]
    refine ⟨order ▸ h.distinct, fun {other} => ?_⟩
    rw [order, mem_values_bind, h.mem_order, or_iff_right_of_imp]
    rintro rfl
    exact known
  · have order : (t.bind name value).order = t.order ++ [name] := by rw [order_bind, if_neg known]
    have new : name ∉ t.order := h.mem_order.not.2 known
    refine ⟨?_, fun {other} => ?_⟩
    · rw [order, ← List.concat_eq_append]
      exact h.distinct.concat new
    · rw [order, mem_values_bind, List.mem_append, List.mem_singleton, h.mem_order, or_comm]

/-- **Run**: bindings, made one after the other, keep the list and the map in step. -/
theorem inStep_ofList (bs : List (Text × Int)) : (ofList bs).InStep :=
  List.foldlRecOn bs _ inStep_empty fun _ h b _ => h.bind b.1 b.2

/-! ### Listings -/

namespace InStep

variable {t : Register} (h : t.InStep)
include h

theorem mem_toList {name : Text} {v : Int} : (name, v) ∈ t.toList ↔ t.get? name = some v := by
  constructor
  · intro listed
    obtain ⟨n, -, found⟩ := List.mem_filterMap.1 listed
    obtain ⟨w, value, same⟩ := Option.map_eq_some_iff.1 found
    obtain ⟨rfl, rfl⟩ := Prod.mk.inj same
    exact value
  · intro value
    have bound : String.ofList name ∈ t.values :=
      (t.mem_values_iff name).2 (Option.isSome_of_eq_some value)
    exact List.mem_filterMap.2 ⟨name, h.mem_order.2 bound, by rw [value]; rfl⟩

/-- No name of the list is left out. -/
theorem names_toList : t.toList.map Prod.fst = t.order := by
  have named : ∀ name ∈ t.order, ((t.get? name).map (name, ·)).map Prod.fst = some name := by
    intro name hn
    have bound : (t.get? name).isSome = true := (t.mem_values_iff name).1 (h.mem_order.1 hn)
    obtain ⟨v, value⟩ := Option.isSome_iff_exists.1 bound
    rw [value]
    rfl
  rw [toList, List.map_filterMap]
  exact (List.filterMap_congr named).trans List.filterMap_some

theorem length_toList : t.toList.length = t.size := by
  rw [size, ← h.names_toList, List.length_map]

/-- The listed value of a name is the one that the map has. -/
theorem valueIn_toList (name : Text) : Store.valueIn name t.toList = t.get? name := by
  have distinct : (t.toList.map Prod.fst).Nodup := h.names_toList ▸ h.distinct
  ext v
  rw [← h.mem_toList]
  exact ⟨Store.mem_of_valueIn, Store.valueIn_of_mem distinct⟩

end InStep

/-! ### Stores -/

/-- The bindings with the names of a register, in order, and its values are those that it lists. -/
theorem toList_eq {t : Register} {l : List (Text × Int)} (distinct : (l.map Prod.fst).Nodup)
    (names : l.map Prod.fst = t.order) (values : ∀ name, Store.valueIn name l = t.get? name) :
    t.toList = l := by
  rw [toList, ← names]
  simp only [← values]
  exact Store.filterMap_valueIn distinct

/-- **Step**: to bind a name in a register is to bind it in the bindings that it lists. -/
theorem InStep.toList_bind {t : Register} (h : t.InStep) (name : Text) (value : Int) :
    (t.bind name value).toList = Store.rebind name value t.toList := by
  have names : (Store.rebind name value t.toList).map Prod.fst = (t.bind name value).order := by
    simp only [Store.names_rebind, h.names_toList, order_bind, h.mem_order]
  refine toList_eq (names ▸ (h.bind name value).distinct) names fun other => ?_
  rw [Store.valueIn_rebind, h.valueIn_toList, get?_bind]

theorem ofList_concat (bs : List (Text × Int)) (name : Text) (v : Int) :
    ofList (bs ++ [(name, v)]) = (ofList bs).bind name v :=
  List.foldl_append

/-- **Run**: a register lists the bindings of the store that is made like it. -/
theorem toList_ofList (bs : List (Text × Int)) : (ofList bs).toList = (Store.ofList bs).toList := by
  induction bs using List.reverseRecOn with
  | nil => rfl
  | append_singleton bs b ih =>
    obtain ⟨name, v⟩ := b
    rw [ofList_concat, (inStep_ofList bs).toList_bind, ih, Store.ofList_concat]
    rfl

/-- All that a register can be asked for, answered as by a store. -/
structure AnswersLike (t : Register) (s : Store) : Prop where
  get? : t.get? = s.get?
  toList : t.toList = s.toList
  size : t.size = s.size
  isEmpty : t.isEmpty = s.isEmpty
  dump : t.dump = s.dump

theorem flatMap_item_succ :
    ∀ (l : List (Text × Int)) (k : Nat),
      (l.zipIdx (k + 1)).flatMap item = (l.map Store.entry).flatMap (", ".toList ++ ·)
  | [], _ => rfl
  | b :: l, k => by
    rw [List.zipIdx_cons, List.flatMap_cons, flatMap_item_succ l (k + 1)]
    rfl

/-- Commas in front of all bindings but the first are commas between the bindings. -/
theorem flatMap_item (l : List (Text × Int)) :
    l.zipIdx.flatMap item = ", ".toList.intercalate (l.map Store.entry) := by
  cases l with
  | nil => rfl
  | cons b l =>
    rw [List.zipIdx_cons, List.flatMap_cons, flatMap_item_succ, List.map_cons,
      Text.intercalate_cons]
    rfl

/-- A register in step answers everything like the store with the bindings that it lists. -/
theorem InStep.answersLike {t : Register} (h : t.InStep) {s : Store}
    (same : t.toList = s.toList) : t.AnswersLike s where
  get? := by
    funext name
    rw [← h.valueIn_toList, same]
    rfl
  toList := same
  size := by
    rw [← h.length_toList, same]
    rfl
  isEmpty := by
    rw [isEmpty, ← h.names_toList, same, Store.isEmpty]
    cases s.toList <;> rfl
  dump := by
    rw [dump, flatMap_item, same]
    rfl

theorem answersLike_ofList (bs : List (Text × Int)) : (ofList bs).AnswersLike (Store.ofList bs) :=
  (inStep_ofList bs).answersLike (toList_ofList bs)

/-! ### Bindings -/

theorem get?_ofList (bs : List (Text × Int)) : (ofList bs).get? = Store.latest bs :=
  (answersLike_ofList bs).get?.trans (Store.get?_ofList bs)

theorem order_ofList (bs : List (Text × Int)) :
    (ofList bs).order = (bs.map Prod.fst).eraseDups := by
  rw [← (inStep_ofList bs).names_toList, toList_ofList]
  exact Store.names_ofList bs

theorem size_ofList (bs : List (Text × Int)) :
    (ofList bs).size = (bs.map Prod.fst).toFinset.card := by
  have same : (ofList bs).order.toFinset = (bs.map Prod.fst).toFinset := by
    ext name
    rw [order_ofList, List.mem_toFinset, List.mem_toFinset, List.mem_eraseDups]
  rw [size, ← List.toFinset_card_of_nodup (inStep_ofList bs).distinct, same]

theorem isEmpty_ofList (bs : List (Text × Int)) : (ofList bs).isEmpty = true ↔ bs = [] := by
  rw [isEmpty, List.isEmpty_iff, order_ofList]
  cases bs with
  | nil => exact iff_of_true rfl rfl
  | cons b bs =>
    rw [List.map_cons, List.eraseDups_cons]
    exact iff_of_false (List.cons_ne_nil _ _) (List.cons_ne_nil _ _)

/-- **Registers are faithful**: whatever names are bound to whatever values, one after the other,
the list of names has every name of the map once and no others. A name has the value of its last
binding, and none if it was never bound. The names stand in the order of their first bindings; all
of them are listed, each with the value that it has then. The size is the number of distinct names
that were bound, and only a register without bindings is empty. So each question is answered as by
the store that the same bindings make. -/
theorem ofList_faithful (bs : List (Text × Int)) :
    ((ofList bs).order.Nodup ∧
        ∀ name, name ∈ (ofList bs).order ↔ String.ofList name ∈ (ofList bs).values) ∧
      (ofList bs).get? = Store.latest bs ∧
      ((ofList bs).order = (bs.map Prod.fst).eraseDups ∧
        (ofList bs).toList.map Prod.fst = (ofList bs).order ∧
        ∀ name v, (name, v) ∈ (ofList bs).toList ↔ (ofList bs).get? name = some v) ∧
      (ofList bs).size = (bs.map Prod.fst).toFinset.card ∧
      ((ofList bs).isEmpty = true ↔ bs = []) ∧
      (ofList bs).AnswersLike (Store.ofList bs) :=
  have inStep := inStep_ofList bs
  ⟨⟨inStep.distinct, fun _ => inStep.mem_order⟩, get?_ofList bs,
    ⟨order_ofList bs, inStep.names_toList, fun _ _ => inStep.mem_toList⟩,
    size_ofList bs, isEmpty_ofList bs, answersLike_ofList bs⟩

/-- A name that is bound again keeps its place. -/
example : (ofList [("zeta".toList, 1), ("alpha".toList, -2), ("zeta".toList, 3)]).dump
    = "\x7bzeta=3, alpha=-2\x7d".toList := by cbv

end Register

end Abacus
