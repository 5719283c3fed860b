import Abacus.Journal.Filter

/-!
# The journal

The journal records the events that its filter admits. It is opened once: whoever opens it
first chooses the filter, and a later attempt leaves it as it is. While it is closed nothing is
recorded.
-/

namespace Abacus

/-- A journal and the lines recorded in it, in order. -/
structure Journal where
  /-- The filter, once the journal is open. -/
  filter? : Option Filter := none
  lines : List Text := []
  deriving DecidableEq, Repr

namespace Journal

/-- Records events. -/
def record (j : Journal) (events : List Event) : Journal :=
  match j.filter? with
  | some f => { j with lines := j.lines ++ (events.filter f.admits).map Event.line }
  | none => j

/-- Opens the journal, or notes that it is open already. -/
def openWith (j : Journal) (f : Filter) : Journal :=
  match j.filter? with
  | some _ => j.record [.journalKept]
  | none => { j with filter? := some f }.record [.journalOpened]

end Journal

end Abacus
