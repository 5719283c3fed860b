import Abacus.Console
import Abacus.Journal
import Abacus.Options

/-!
# The program

A run of the program, as a function of its arguments, its input and its environment: the exit
code, the text on the standard output, and the lines of the journal. The journal is opened by the
log option if it is given, else by the environment.
-/

namespace Abacus.Program

/-- What `--help` shows. -/
def helpText : Text :=
  ("Calculatrice entière exacte avec variables\n" ++
   "\n" ++
   "Usage: calculatrice_zpur [OPTIONS]\n" ++
   "\n" ++
   "Options:\n" ++
   "      --console                      " ++
   "Lit les lignes sur stdin au lieu d’ouvrir une fenêtre\n" ++
   "      --log <LOG>                    " ++
   "Filtre du journal (ex: \"debug\", \"calculatrice_zpur=trace\"). Remplace RUST_LOG\n" ++
   "      --exposant-max <EXPOSANT_MAX>  " ++
   "Plus grand exposant accepté par \"^\" [default: 100000]\n" ++
   "      --bits-max <BITS_MAX>          " ++
   "Taille max (en bits) d’un résultat de \"^\" [default: 1048576]\n" ++
   "  -h, --help                         Print help\n" ++
   "  -V, --version                      Print version\n").toList

/-- What `--version` shows. -/
def versionText : Text := "calculatrice_zpur 0.1.0\n".toList

/-- What a run of the program leaves behind. -/
structure Outcome where
  code : UInt32
  output : Text := []
  journal : List Text := []
  deriving DecidableEq, Repr

/-- The events of a run on the console, from the first one after the journal is open. -/
def events (o : Options) (t : Transcript) : List Event :=
  .started o.console o.limits.exponentMax :: t.events

/-- A run with options. Without the console there is no display to open a window on, and the run
fails once it has started. -/
def execute (o : Options) (input : List UInt8) (environment? : Option Text) : Outcome :=
  let journal := Journal.openWith {} (.choose o.log? environment?)
  if o.console then
    let t := Console.run o.limits input
    { code := match t.ending with
        | .farewell => 0
        | .undecodable => 1
      output := t.output
      journal := (journal.record (events o t)).lines }
  else
    { code := 1, journal := (journal.record [.started false o.limits.exponentMax]).lines }

/-- A run of the program. -/
def run (arguments : List Text) (input : List UInt8) (environment? : Option Text) : Outcome :=
  match Options.read arguments with
  | .help => { code := 0, output := helpText }
  | .version => { code := 0, output := versionText }
  | .refused => { code := 2 }
  | .run o => execute o input environment?

end Abacus.Program
