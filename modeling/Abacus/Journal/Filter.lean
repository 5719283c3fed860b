import Abacus.Journal.Directive

/-!
# Filters of the journal

A filter is a list of directives, separated by commas. Of the directives that are about an event
the most specific one decides whether it is recorded; an event that none is about is dropped.

- `Filter.read`: reads a filter and drops the directives that are not understood.
- `Filter.readAll?`: reads a filter in which every directive has to be understood.
- `Filter.admits`: whether an event is recorded.
-/

namespace Abacus

/-- What the journal records. -/
structure Filter where
  directives : List Directive
  deriving DecidableEq, Repr

namespace Filter

/-- The parts of a text between commas that are not empty. -/
def parts (s : Text) : List Text :=
  (Text.runs (fun c d => c ≠ ',' && d ≠ ',') s).filter (· ≠ [','])

/-- Reads a filter and drops what is not understood. A filter without directives lets errors
through. -/
def read (s : Text) : Filter :=
  match (parts s).filterMap Directive.read? with
  | [] => ⟨[{ detail := Level.error.detail }]⟩
  | ds => ⟨ds⟩

/-- Reads a filter if every part of it is understood. -/
def readAll? (s : Text) : Option Filter :=
  if (parts s).all fun p => (Directive.read? p).isSome then some (read s) else none

/-- The filter in force unless another is asked for. -/
def standard : Filter := read "warn".toList

/-- The filter that is asked for: by a request, else by the environment if that one is
understood, else the standard one. -/
def choose (request? environment? : Option Text) : Filter :=
  match request? with
  | some s => read s
  | none => (environment?.bind readAll?).getD standard

/-- The directive that decides about an event. -/
def decisive? (f : Filter) (e : Event) : Option Directive :=
  (f.directives.filter (·.covers e)).foldl
    (fun best d => if best.all (·.yieldsTo d) then some d else best) none

/-- Whether an event is recorded. -/
def admits (f : Filter) (e : Event) : Bool :=
  (f.decisive? e).any fun d => e.level.detail ≤ d.detail

end Filter

end Abacus
