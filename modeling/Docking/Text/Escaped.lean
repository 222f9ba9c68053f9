import Docking.Text.Combining
import Docking.Text.Hex
import Docking.Text.Hidden

/-!
# Texts in messages

A text that is named in a message stands between quotes. Characters that do not show by themselves
are given by number, so that the message shows exactly which text it means.
-/

namespace Docking.Text

/-- The digits of a number to the base sixteen, without leading zeros. -/
def hexText (n : Nat) : List Char := Nat.toDigits 16 n

/-- A character by number. -/
def numbered (c : Char) : List Char := '\\' :: 'u' :: '\x7b' :: (hexText c.toNat ++ ['\x7d'])

/-- A character between the quotes of a message. -/
def escapedChar (c : Char) : List Char :=
  if c = '\x00' then ['\\', '0']
  else if c = '\t' then ['\\', 't']
  else if c = '\r' then ['\\', 'r']
  else if c = '\n' then ['\\', 'n']
  else if c = '"' then ['\\', '"']
  else if c = '\\' then ['\\', '\\']
  else if isCombining c || isHidden c then numbered c
  else [c]

/-- A text between the quotes of a message. -/
def escaped (s : String) : String := String.ofList ('"' :: (s.toList.flatMap escapedChar ++ ['"']))

end Docking.Text
