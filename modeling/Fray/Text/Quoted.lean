import Fray.Text.Invisible

/-!
# Quoted text

Error texts show a piece of input between double quotes. Quotes and backslashes
are escaped, the usual control characters have their short forms, and every
other invisible character is written by its code point, so that the reader sees
exactly what was given.
-/
namespace Fray.Text

/-- A code point as `\u` and its hexadecimal number in braces. -/
def codePoint (c : Char) : List Char :=
  ['\\', 'u', '{'] ++ Nat.toDigits 16 c.toNat ++ ['}']

/-- How a character is written between quotes. -/
def escape (c : Char) : List Char :=
  if c = '"' then ['\\', '"']
  else if c = '\\' then ['\\', '\\']
  else if c = '\n' then ['\\', 'n']
  else if c = '\r' then ['\\', 'r']
  else if c = '\t' then ['\\', 't']
  else if c.toNat = 0 then ['\\', '0']
  else if isInvisible c then codePoint c
  else [c]

def quoted (text : String) : String :=
  String.ofList ('"' :: text.toList.flatMap escape ++ ['"'])

end Fray.Text
