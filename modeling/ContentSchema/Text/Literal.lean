/-!
# Double-quoted literals

A literal is a text between double quotes.  Inside it a quote and a backslash
carry a backslash, five control characters have a letter of their own, and every
other character below U+0020 is written with four hexadecimal digits; all other
characters stand for themselves.  This is the string of JSON, and it is also a
string of TypeScript.

Reading accepts more than writing produces: `\/`, any four-digit escape, and a
pair of escapes for a character beyond U+FFFF.  It refuses a raw control
character and half of such a pair.
-/

namespace ContentSchema.Text.Literal

/-- The lower-case hexadecimal digit of a number below sixteen. -/
def hexDigit (value : Nat) : Char :=
  if value < 10 then Char.ofNat (0x30 + value) else Char.ofNat (0x57 + value)

/-- The value of a hexadecimal digit in either case. -/
def hexValue (digit : Char) : Option Nat :=
  let point := digit.toNat
  if 0x30 ≤ point ∧ point ≤ 0x39 then some (point - 0x30)
  else if 0x61 ≤ point ∧ point ≤ 0x66 then some (point - 0x57)
  else if 0x41 ≤ point ∧ point ≤ 0x46 then some (point - 0x37)
  else none

/-- The letter that follows the backslash in the short escape of a character. -/
def shortEscape (character : Char) : Option Char :=
  if character = '"' then some '"'
  else if character = '\\' then some '\\'
  else if character = '\x08' then some 'b'
  else if character = '\x0c' then some 'f'
  else if character = '\n' then some 'n'
  else if character = '\r' then some 'r'
  else if character = '\t' then some 't'
  else none

/-- A character as it stands inside a literal. -/
def escape (character : Char) : List Char :=
  match shortEscape character with
  | some letter => ['\\', letter]
  | none =>
    if character.toNat < 0x20 then
      ['\\', 'u', '0', '0', hexDigit (character.toNat / 16), hexDigit (character.toNat % 16)]
    else [character]

/-- A text as it stands inside a literal. -/
def encode (characters : List Char) : List Char :=
  characters.flatMap escape

@[simp]
theorem encode_nil : encode [] = [] := rfl

@[simp]
theorem encode_cons (character : Char) (rest : List Char) :
    encode (character :: rest) = escape character ++ encode rest := by
  simp [encode]

/-- The character that a short escape stands for, by the letter after the backslash. -/
def ofShortEscape (letter : Char) : Option Char :=
  if letter = '"' then some '"'
  else if letter = '\\' then some '\\'
  else if letter = '/' then some '/'
  else if letter = 'b' then some '\x08'
  else if letter = 'f' then some '\x0c'
  else if letter = 'n' then some '\n'
  else if letter = 'r' then some '\r'
  else if letter = 't' then some '\t'
  else none

/-- The number written by four hexadecimal digits, with the text after them. -/
def readUnit : List Char → Option (Nat × List Char)
  | first :: second :: third :: fourth :: rest => do
    let first ← hexValue first
    let second ← hexValue second
    let third ← hexValue third
    let fourth ← hexValue fourth
    some (((first * 16 + second) * 16 + third) * 16 + fourth, rest)
  | _ => none

/-- A number is the first half of a pair. -/
def isHighHalf (unit : Nat) : Bool :=
  0xD800 ≤ unit && unit ≤ 0xDBFF

/-- A number is the second half of a pair. -/
def isLowHalf (unit : Nat) : Bool :=
  0xDC00 ≤ unit && unit ≤ 0xDFFF

/-- The second half of a pair, written as an escape of its own. -/
def readLowHalf : List Char → Option (Nat × List Char)
  | '\\' :: 'u' :: digits =>
    match readUnit digits with
    | some (unit, rest) => if isLowHalf unit then some (unit, rest) else none
    | none => none
  | _ => none

/-- The character written by hexadecimal digits, the escape of a second half included. -/
def readCodePoint (digits : List Char) : Option (Char × List Char) :=
  match readUnit digits with
  | none => none
  | some (unit, rest) =>
    if isLowHalf unit then none
    else if isHighHalf unit then
      match readLowHalf rest with
      | some (low, after) =>
        some (Char.ofNat (0x10000 + (unit - 0xD800) * 0x400 + (low - 0xDC00)), after)
      | none => none
    else some (Char.ofNat unit, rest)

/-- One character of a literal, escaped or raw, with the text after it. -/
def readCharacter : List Char → Option (Char × List Char)
  | [] => none
  | '\\' :: 'u' :: digits => readCodePoint digits
  | '\\' :: letter :: rest => (ofShortEscape letter).map fun character => (character, rest)
  | character :: rest =>
    if character = '"' ∨ character = '\\' ∨ character.toNat < 0x20 then none
    else some (character, rest)

theorem readUnit_length
    {digits rest : List Char} {unit : Nat}
    (read : readUnit digits = some (unit, rest)) :
    rest.length + 4 = digits.length := by
  unfold readUnit at read
  split at read
  · simp only [Option.bind_eq_bind, Option.bind_eq_some_iff, Option.some.injEq,
      Prod.mk.injEq] at read
    obtain ⟨_, _, _, _, _, _, _, _, _, rfl⟩ := read
    simp
  · simp at read

theorem readLowHalf_length
    {text rest : List Char} {unit : Nat}
    (read : readLowHalf text = some (unit, rest)) :
    rest.length < text.length := by
  unfold readLowHalf at read
  split at read
  · split at read
    · rename_i digits _ _ unitRead
      split at read
      · have length := readUnit_length unitRead
        simp only [Option.some.injEq, Prod.mk.injEq] at read
        obtain ⟨_, rfl⟩ := read
        simp only [List.length_cons]
        omega
      · simp at read
    · simp at read
  · simp at read

theorem readCodePoint_length
    {digits rest : List Char} {character : Char}
    (read : readCodePoint digits = some (character, rest)) :
    rest.length < digits.length := by
  unfold readCodePoint at read
  split at read
  · simp at read
  · rename_i unit middle unitRead
    have length := readUnit_length unitRead
    split at read
    · simp at read
    · split at read
      · split at read
        · rename_i low after lowRead
          have lowLength := readLowHalf_length lowRead
          simp only [Option.some.injEq, Prod.mk.injEq] at read
          obtain ⟨_, rfl⟩ := read
          omega
        · simp at read
      · simp only [Option.some.injEq, Prod.mk.injEq] at read
        obtain ⟨_, rfl⟩ := read
        omega

/-- Every character takes up some text. -/
theorem readCharacter_length
    {text rest : List Char} {character : Char}
    (read : readCharacter text = some (character, rest)) :
    rest.length < text.length := by
  unfold readCharacter at read
  split at read
  · simp at read
  · have length := readCodePoint_length read
    simp only [List.length_cons]
    omega
  · simp only [Option.map_eq_some_iff, Prod.mk.injEq] at read
    obtain ⟨_, _, _, rfl⟩ := read
    simp only [List.length_cons]
    omega
  · split at read
    · simp at read
    · simp only [Option.some.injEq, Prod.mk.injEq] at read
      obtain ⟨_, rfl⟩ := read
      simp

/-- The characters up to the closing quote, with the text after that quote. -/
def readBody (text : List Char) : Option (List Char × List Char) :=
  if text.head? = some '"' then some ([], text.tail)
  else
    match _read : readCharacter text with
    | none => none
    | some (character, rest) =>
      match readBody rest with
      | none => none
      | some (characters, after) => some (character :: characters, after)
termination_by text.length
decreasing_by exact readCharacter_length _read

end ContentSchema.Text.Literal

namespace ContentSchema.Text

/-- The literal of a text. -/
def literal (text : String) : String :=
  "\"" ++ String.ofList (Literal.encode text.toList) ++ "\""

theorem toList_literal (text : String) :
    (literal text).toList = '"' :: (Literal.encode text.toList ++ ['"']) := by
  simp [literal]

end ContentSchema.Text
