import Abacus.Main
import Abacus.Program
import Abacus.Proofs.Acceptance
import Abacus.Proofs.Assignment
import Abacus.Proofs.Balance
import Abacus.Proofs.Bracketing
import Abacus.Proofs.Commands
import Abacus.Proofs.Conservation
import Abacus.Proofs.Conversation
import Abacus.Proofs.Course
import Abacus.Proofs.Denotation
import Abacus.Proofs.Dump
import Abacus.Proofs.Frame
import Abacus.Proofs.History
import Abacus.Proofs.Infix
import Abacus.Proofs.Lexing
import Abacus.Proofs.Limits
import Abacus.Proofs.NormalForm
import Abacus.Proofs.Numerals
import Abacus.Proofs.Orphans
import Abacus.Proofs.Panel
import Abacus.Proofs.Postorder
import Abacus.Proofs.Power
import Abacus.Proofs.Readback
import Abacus.Proofs.Record
import Abacus.Proofs.Register
import Abacus.Proofs.Rendering
import Abacus.Proofs.Replacement
import Abacus.Proofs.Restart
import Abacus.Proofs.SignRuns
import Abacus.Proofs.Size
import Abacus.Proofs.Unbound
import Abacus.Proofs.Unsigned
import Abacus.Proofs.Warnings
import Abacus.Text.Decimal.Lemmas
import Abacus.Window.Screen
