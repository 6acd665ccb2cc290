import ContentSchema.Text.Unprintable

/-!
# Quoted text in diagnostics

A diagnostic shows a text between double quotes in such a way that every
character of it can be told apart: four controls have a letter, and a character
that does not show on its own is given by its code point in braces.
-/

namespace ContentSchema.Text

/-- A character as a diagnostic shows it. -/
def showCharacter (character : Char) : List Char :=
  if character = '\x00' then ['\\', '0']
  else if character = '\t' then ['\\', 't']
  else if character = '\r' then ['\\', 'r']
  else if character = '\n' then ['\\', 'n']
  else if character = '"' then ['\\', '"']
  else if character = '\\' then ['\\', '\\']
  else if showsAlone character then [character]
  else ['\\', 'u', '\x7b'] ++ Nat.toDigits 16 character.toNat ++ ['\x7d']

/-- A text as a diagnostic shows it. -/
def quoted (text : String) : String :=
  "\"" ++ String.ofList (text.toList.flatMap showCharacter) ++ "\""

end ContentSchema.Text
