import Abacus.Journal.Event

/-!
# Reports

A calculation ends with an answer or a refusal; its report holds this outcome together with the
events on the way, in order.
-/

namespace Abacus

/-- What came of a calculation, and the events on the way, in order. -/
structure Report (α : Type) where
  events : List Event := []
  outcome : Except Refusal α

namespace Report

variable {α β : Type}

/-- The report of a calculation that went through without events. -/
def answer (a : α) : Report α := ⟨[], .ok a⟩

/-- The report of a calculation that was refused without events. -/
def refuse (e : Refusal) : Report α := ⟨[], .error e⟩

/-- The report with an event in front of its own. -/
def after (e : Event) (r : Report α) : Report α := { r with events := e :: r.events }

def map (f : α → β) (r : Report α) : Report β := ⟨r.events, r.outcome.map f⟩

@[simp] theorem outcome_after (e : Event) (r : Report α) : (r.after e).outcome = r.outcome := rfl

@[simp] theorem outcome_map (f : α → β) (r : Report α) :
    (r.map f).outcome = r.outcome.map f := rfl

end Report

/-- The events that a refusal by the arithmetic leaves. -/
def Refusal.events : Refusal → List Event
  | .invalidExponent _ (.overBudget bits bitsMax) => [.powerRefused bits bitsMax]
  | _ => []

end Abacus
