import Abacus.Text.Blank
import Abacus.Text.Unprintable

/-!
# Quoted text

A field of the journal that holds what the user typed is written between double quotes. A quote
or a backslash inside it is preceded by a backslash, tab, line feed, carriage return and the
null character have short escapes, and any other unprintable character is written by its number
in base sixteen. Every other character stands for itself, whatever its script.
-/

namespace Abacus.Quoted

/-- What stands for a character between the quotes. -/
def encodeChar (c : Char) : Text :=
  if c = '"' ∨ c = '\\' then ['\\', c]
  else if c = '\t' then ['\\', 't']
  else if c = '\n' then ['\\', 'n']
  else if c = '\r' then ['\\', 'r']
  else if c = '\x00' then ['\\', '0']
  else if isUnprintable c then '\\' :: 'u' :: '\x7b' :: (Nat.toDigits 16 c.toNat ++ ['\x7d'])
  else [c]

/-- The quoted form of a text. -/
def encode (s : Text) : Text :=
  '"' :: (s.flatMap encodeChar ++ ['"'])

end Abacus.Quoted
