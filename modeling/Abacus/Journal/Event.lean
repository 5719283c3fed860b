import Abacus.Text.Quoted
import Abacus.Token
import Abacus.Refusal

/-!
# Events

What happens while the program runs is recorded as events. An event has a level, a target,
which says what part of the program it comes from, and a line of text: the level, a message,
and named fields. Names and lines that the user typed are quoted, so that a field ends where
its value ends; numbers, rendered tokens and error messages stand as they are.
-/

namespace Abacus

/-- How much an event matters. -/
inductive Level where
  | error
  | warn
  | info
  | debug
  | trace
  deriving DecidableEq, Repr

namespace Level

/-- How far down the scale of detail a level lies. -/
def detail : Level → Nat
  | .error => 1
  | .warn => 2
  | .info => 3
  | .debug => 4
  | .trace => 5

/-- The name of a level in a line of the journal. -/
def label : Level → Text
  | .error => "ERROR".toList
  | .warn => "WARN".toList
  | .info => "INFO".toList
  | .debug => "DEBUG".toList
  | .trace => "TRACE".toList

end Level

/-- Something that happened. -/
inductive Event where
  /-- The journal is open. -/
  | journalOpened
  /-- The journal was open already, and stays as it is. -/
  | journalKept
  /-- The program starts. -/
  | started (console : Bool) (exponentMax : UInt32)
  /-- The input has ended without a farewell. -/
  | inputEnded
  /-- A line was brought into normal form. -/
  | normalised (text : Text)
  /-- An expression was turned into postfix form. -/
  | postfixed (tokens : List Token)
  /-- A power went over the budget of bits. -/
  | powerRefused (bits bitsMax : Nat)
  /-- A name was bound. -/
  | assigned (name : Text) (value : Int)
  /-- The user asked for the end of the session. -/
  | exitRequested
  /-- A line was refused. -/
  | refused (line : Text) (cause : Refusal)
  deriving DecidableEq, Repr

namespace Event

def level : Event → Level
  | .started .. | .exitRequested => .info
  | .refused .. => .warn
  | _ => .debug

/-- The part of the program that an event comes from. -/
def target : Event → Text
  | .started .. => "calculatrice_zpur".toList
  | .journalOpened | .journalKept => "calculatrice_zpur::journal".toList
  | .inputEnded => "calculatrice_zpur::console".toList
  | .exitRequested | .refused .. => "calculatrice_zpur::session".toList
  | .normalised _ | .postfixed _ | .powerRefused .. => "calculatrice_zpur::noyau::eval".toList
  | .assigned .. => "calculatrice_zpur::noyau::affectation".toList

def message : Event → Text
  | .journalOpened => "journal initialisé".toList
  | .journalKept => "journal déjà installé, abonné existant conservé".toList
  | .started .. => "démarrage".toList
  | .inputEnded => "fin d’entrée sans /exit".toList
  | .normalised _ => "normalisation".toList
  | .postfixed _ => "conversion postfixe".toList
  | .powerRefused .. => "puissance refusée (résultat trop grand)".toList
  | .assigned .. => "affectation".toList
  | .exitRequested => "fin de session demandée".toList
  | .refused _ (.unknownVariable _) => "variable inconnue".toList
  | .refused _ (.unknownCommand _) => "commande inconnue".toList
  | .refused _ (.invalidExponent ..) => "exposant refusé".toList
  | .refused _ _ => "ligne refusée".toList

/-- What a refused line is about. -/
def causeField : Refusal → Text × Text
  | .unknownVariable name => ("nom".toList, Quoted.encode name)
  | .unknownCommand line => ("commande".toList, Quoted.encode line)
  | .invalidExponent exponent _ => ("exposant".toList, Decimal.ofInt exponent)
  | cause => ("erreur".toList, cause.message)

/-- The named fields of an event, with their texts, in order. -/
def fields : Event → List (Text × Text)
  | .journalOpened | .inputEnded | .exitRequested => []
  | .journalKept =>
    [("erreur".toList, "a global default trace dispatcher has already been set".toList)]
  | .started console exponentMax =>
    [("console".toList, if console then "true".toList else "false".toList),
     ("exposant_max".toList, Decimal.digits exponentMax.toNat)]
  | .normalised text => [("normalise".toList, text)]
  | .postfixed tokens => [("rpn".toList, Token.render tokens)]
  | .powerRefused bits bitsMax =>
    [("bits".toList, Decimal.digits bits), ("bits_max".toList, Decimal.digits bitsMax)]
  | .assigned name value =>
    [("nom".toList, Quoted.encode name), ("valeur".toList, Decimal.ofInt value)]
  | .refused line cause => [("ligne".toList, Quoted.encode line), causeField cause]

/-- The names of what an event carries: its message and its fields. -/
def fieldNames (e : Event) : List Text :=
  "message".toList :: e.fields.map Prod.fst

/-- The line that records an event. -/
def line (e : Event) : Text :=
  Text.unwords (e.level.label :: e.message :: e.fields.map fun f => f.1 ++ '=' :: f.2)

end Event

end Abacus
