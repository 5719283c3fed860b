import Abacus.Text.Decimal

/-!
# The store of variables

A store binds names to integers and keeps the order in which the names were first bound: a
name that is bound again gets its new value at its old place.

- `Store.get?`: the value of a name.
- `Store.bind`: the store with a name bound to a value.
- `Store.toList`: the bindings in the order of first binding.
- `Store.dump`: the bindings as a text.
- `Store.get?_bind`: what a binding changes.
-/

namespace Abacus

/-- Bindings of distinct names, in the order of first binding. -/
structure Store where
  toList : List (Text × Int) := []
  distinct : (toList.map Prod.fst).Nodup := by decide
  deriving DecidableEq, Repr

namespace Store

/-- The store without bindings. -/
def empty : Store := {}

instance : Inhabited Store := ⟨empty⟩

/-! ### Bindings as a list -/

/-- The value that a name has in a list of bindings. -/
def valueIn (name : Text) : List (Text × Int) → Option Int
  | [] => none
  | (n, v) :: r => if n = name then some v else valueIn name r

/-- Rebinds a name at its place, or appends its binding. -/
def rebind (name : Text) (value : Int) : List (Text × Int) → List (Text × Int)
  | [] => [(name, value)]
  | (n, v) :: r => if n = name then (n, value) :: r else (n, v) :: rebind name value r

/-- Rebinding keeps the names, and appends the name that is new. -/
theorem names_rebind (name : Text) (value : Int) (l : List (Text × Int)) :
    (rebind name value l).map Prod.fst
      = if name ∈ l.map Prod.fst then l.map Prod.fst else l.map Prod.fst ++ [name] := by
  induction l with
  | nil => simp [rebind]
  | cons b r ih =>
    obtain ⟨n, v⟩ := b
    by_cases h : n = name
    · subst h
      simp [rebind]
    · have h' : ¬ name = n := fun e => h e.symm
      rw [rebind, if_neg h, List.map_cons, ih]
      simp only [List.map_cons, List.mem_cons, h', false_or]
      split <;> rfl

theorem nodup_rebind {l : List (Text × Int)} (h : (l.map Prod.fst).Nodup) (name : Text)
    (value : Int) : ((rebind name value l).map Prod.fst).Nodup := by
  rw [names_rebind]
  split
  · exact h
  · next hn =>
    exact List.nodup_append.2
      ⟨h, by simp, fun a ha b hb e => hn (by rwa [← List.mem_singleton.1 hb, ← e])⟩

/-! ### Operations -/

/-- The value of a name. -/
def get? (s : Store) (name : Text) : Option Int :=
  valueIn name s.toList

/-- The store with a name bound to a value. -/
def bind (s : Store) (name : Text) (value : Int) : Store :=
  ⟨rebind name value s.toList, nodup_rebind s.distinct name value⟩

/-- The store that a list of bindings, made one after the other, leads to. -/
def ofList (l : List (Text × Int)) : Store :=
  l.foldl (fun s b => s.bind b.1 b.2) empty

/-- The bound names, in the order of first binding. -/
def names (s : Store) : List Text :=
  s.toList.map Prod.fst

/-- The number of bound names. -/
def size (s : Store) : Nat :=
  s.toList.length

def isEmpty (s : Store) : Bool :=
  s.toList.isEmpty

/-- The bindings as a text, in braces and with commas between them. -/
def dump (s : Store) : Text :=
  let binding (b : Text × Int) : Text := b.1 ++ '=' :: Decimal.ofInt b.2
  '\x7b' :: (", ".toList.intercalate (s.toList.map binding) ++ ['\x7d'])

/-! ### What a binding changes -/

theorem valueIn_rebind (name other : Text) (value : Int) (l : List (Text × Int)) :
    valueIn other (rebind name value l)
      = if other = name then some value else valueIn other l := by
  induction l with
  | nil => simp [rebind, valueIn, eq_comm (a := name)]
  | cons b r ih =>
    obtain ⟨n, v⟩ := b
    by_cases h : n = name
    · subst h
      by_cases h' : other = n
      · simp [rebind, valueIn, h']
      · have h'' : ¬ n = other := fun e => h' e.symm
        simp [rebind, valueIn, h', h'']
    · rw [rebind, if_neg h, valueIn, valueIn, ih]
      by_cases h' : n = other
      · subst h'
        simp [h]
      · simp [h']

/-- A binding changes the value of its own name only. -/
theorem get?_bind (s : Store) (name other : Text) (value : Int) :
    (s.bind name value).get? other = if other = name then some value else s.get? other :=
  valueIn_rebind name other value s.toList

/-- A name keeps its place when it is bound again, and comes last when it is new. -/
theorem names_bind (s : Store) (name : Text) (value : Int) :
    (s.bind name value).names
      = if name ∈ s.names then s.names else s.names ++ [name] :=
  names_rebind name value s.toList

end Store

end Abacus
