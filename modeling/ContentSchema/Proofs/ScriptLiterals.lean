import Mathlib
import ContentSchema.Proofs.RecordKeys

/-!
# Literals as the language of the module reads them

Literals are written by the rules of JSON, but it is TypeScript that reads them.  Its strings
are sequences of 16-bit units, so a character beyond U+FFFF counts as a pair of them, and its
literals have more escapes than are ever written: two hexadecimal digits, a code point in
braces, a zero, more letters, and any character that means nothing else.  A backslash in
front of the end of a line stands for nothing.  The line and paragraph separators may stand
raw, as they may since 2019; octal escapes may not stand in a module.

Every text is read back from its literal by these rules.  Reading ends where the literal
ends, so no front part of it is a literal; and since the units of a text determine the text,
neither literals nor keys nor choices can be mistaken for those of other texts.
-/

namespace ContentSchema

open Text (literal hasIdentifierShape isIdentifierStart isIdentifierPart isIdentifierMark
  isAlphabetic isNumeric toList_literal)
open Text.Literal (escape encode encode_nil encode_cons hexValue readUnit hexDigit shortEscape)
open Reading (Reader)

namespace Script

/-! ## The units of a text -/

/-- The units of a code point: itself, or the two halves of a pair. -/
def pointUnits (point : Nat) : List Nat :=
  if point < 0x10000 then [point]
  else [0xD800 + (point - 0x10000) / 0x400, 0xDC00 + (point - 0x10000) % 0x400]

/-- The units of a text. -/
def textUnits (characters : List Char) : List Nat :=
  characters.flatMap fun character => pointUnits character.toNat

@[simp]
theorem textUnits_cons (character : Char) (rest : List Char) :
    textUnits (character :: rest) = pointUnits character.toNat ++ textUnits rest := by
  simp [textUnits]

/-- No character is half of a pair, so the units of a text are taken apart in one way. -/
theorem pointUnits_append_inj
    {first second : Char} {rest others : List Nat}
    (same : pointUnits first.toNat ++ rest = pointUnits second.toNat ++ others) :
    first = second ∧ rest = others := by
  have whole : ∀ character : Char, character.toNat < 0xD800 ∨
      0xDFFF < character.toNat ∧ character.toNat < 0x110000 :=
    fun character => character.valid
  have firstWhole := whole first
  have secondWhole := whole second
  rw [← Char.toNat_inj]
  unfold pointUnits at same
  split_ifs at same <;>
    simp only [List.cons_append, List.nil_append, List.cons.injEq] at same
  · exact same
  · omega
  · omega
  · refine ⟨?_, same.2.2⟩
    omega

theorem textUnits_cons_ne_nil (character : Char) (rest : List Char) :
    textUnits (character :: rest) ≠ [] := by
  rw [textUnits_cons, pointUnits]
  split_ifs <;> exact List.cons_ne_nil _ _

/-- The units of a text determine it, by induction on the text. -/
theorem textUnits_injective : Function.Injective textUnits := by
  intro first
  induction first with
  | nil =>
      intro second same
      cases second with
      | nil =>
          rfl
      | cons other others =>
          exact absurd same.symm (textUnits_cons_ne_nil other others)
  | cons character rest ih =>
      intro second same
      cases second with
      | nil =>
          exact absurd same (textUnits_cons_ne_nil character rest)
      | cons other others =>
          rw [textUnits_cons, textUnits_cons] at same
          rcases pointUnits_append_inj same with ⟨rfl, tails⟩
          rw [ih tails]

/-! ## Reading literals -/

/-- The characters that end a line. -/
def lineEnds : List Char :=
  ['\n', '\r', '\u2028', '\u2029']

/-- A decimal digit. -/
def isDigit (character : Char) : Bool :=
  '0' ≤ character && character ≤ '9'

/-- The character that an escaped letter stands for, where the letter alone says it. -/
def ofLetter (letter : Char) : Option Char :=
  if letter = 'b' then some '\x08'
  else if letter = 't' then some '\t'
  else if letter = 'n' then some '\n'
  else if letter = 'v' then some '\x0b'
  else if letter = 'f' then some '\x0c'
  else if letter = 'r' then some '\r'
  else if isDigit letter then none
  else some letter

/-- The number that hexadecimal digits up to a closing brace add to those of a value. -/
def readPoint (value : Nat) : Reader Nat
  | [] => none
  | digit :: rest =>
    if digit = '\x7d' then some (value, rest)
    else (hexValue digit).bind fun low => readPoint (value * 16 + low) rest

/-- The code point in braces, behind the opening one: at least one digit. -/
def readBraced : Reader (List Nat)
  | [] => none
  | digit :: digits =>
    (hexValue digit).bind fun value =>
      (readPoint value digits).bind fun (point, rest) =>
        if point ≤ 0x10FFFF then some (pointUnits point, rest) else none

/-- What follows the letter of a Unicode escape: a code point in braces, or four digits. -/
def readUnicode : Reader (List Nat)
  | [] => none
  | first :: digits =>
    if first = '\x7b' then readBraced digits
    else (readUnit (first :: digits)).map fun (unit, rest) => ([unit], rest)

/-- The unit written by two hexadecimal digits. -/
def readByte : Reader (List Nat)
  | high :: low :: rest =>
    (hexValue high).bind fun high => (hexValue low).map fun low => ([high * 16 + low], rest)
  | _ => none

/-- The units of what follows a backslash; the end of a line stands for none. -/
def readEscape : Reader (List Nat)
  | [] => none
  | letter :: rest =>
    if letter = 'u' then readUnicode rest
    else if letter = 'x' then readByte rest
    else if letter = '0' then if rest.head?.any isDigit then none else some ([0], rest)
    else if letter = '\r' ∧ rest.head? = some '\n' then some ([], rest.tail)
    else if letter ∈ lineEnds then some ([], rest)
    else (ofLetter letter).map fun character => (pointUnits character.toNat, rest)

/-- The units of one element of a literal. -/
def readElement : Reader (List Nat)
  | [] => none
  | character :: rest =>
    if character = '\\' then readEscape rest
    else if character = '"' ∨ character = '\n' ∨ character = '\r' then none
    else some (pointUnits character.toNat, rest)

/--
A reader takes something off the front of a text.  Only at the very end of a text may it
matter to the reader that nothing follows: with a rest left over, more text behind that
rest makes no difference.
-/
def TakesFront {Value : Type} (read : Reader Value) : Prop :=
  ∀ ⦃text value rest⦄, read text = some (value, rest) →
    rest.length < text.length ∧
    (rest ≠ [] → ∀ further, read (text ++ further) = some (value, rest ++ further))

theorem takesFront_readPoint (value : Nat) : TakesFront (readPoint value) := by
  intro text
  induction text generalizing value with
  | nil =>
      intro point rest read
      cases read
  | cons digit digits ih =>
      intro point rest read
      simp only [readPoint, List.cons_append] at read ⊢
      split_ifs at read ⊢
      · cases read
        exact ⟨by simp, fun _ further => rfl⟩
      · rcases Option.bind_eq_some_iff.mp read with ⟨low, isLow, read⟩
        have further := ih _ read
        refine ⟨further.1.trans (by simp), fun filled more => ?_⟩
        rw [isLow]
        exact further.2 filled more

theorem takesFront_readBraced : TakesFront readBraced := by
  intro text units rest read
  cases text with
  | nil =>
      cases read
  | cons digit digits =>
      simp only [readBraced, List.cons_append] at read ⊢
      rcases Option.bind_eq_some_iff.mp read with ⟨value, isValue, read⟩
      rcases Option.bind_eq_some_iff.mp read with ⟨⟨point, after⟩, isPoint, read⟩
      have taken := takesFront_readPoint value isPoint
      split_ifs at read with small
      cases read
      refine ⟨taken.1.trans (by simp), fun filled further => ?_⟩
      simp only [isValue, taken.2 filled further, Option.bind_some, if_pos small]

theorem readUnit_append
    {digits rest : List Char} {unit : Nat}
    (read : readUnit digits = some (unit, rest))
    (further : List Char) :
    readUnit (digits ++ further) = some (unit, rest ++ further) := by
  unfold readUnit at read
  split at read
  · simp only [Option.bind_eq_bind, Option.bind_eq_some_iff, Option.some.injEq,
      Prod.mk.injEq] at read
    obtain ⟨_, first, _, second, _, third, _, fourth, rfl, rfl⟩ := read
    simp [readUnit, first, second, third, fourth]
  · cases read

theorem takesFront_readUnicode : TakesFront readUnicode := by
  intro text units rest read
  cases text with
  | nil =>
      cases read
  | cons first digits =>
      simp only [readUnicode, List.cons_append] at read ⊢
      split_ifs at read ⊢
      · have taken := takesFront_readBraced read
        exact ⟨taken.1.trans (by simp), taken.2⟩
      · rcases Option.map_eq_some_iff.mp read with ⟨⟨unit, after⟩, isUnit, same⟩
        cases same
        have shorter : after.length + 4 = digits.length + 1 := Text.Literal.readUnit_length isUnit
        refine ⟨by simp only [List.length_cons]; omega, fun _ further => ?_⟩
        rw [← List.cons_append, readUnit_append isUnit]
        rfl

theorem takesFront_readByte : TakesFront readByte := by
  intro text units rest read
  unfold readByte at read
  split at read
  · rename_i high low after
    rcases Option.bind_eq_some_iff.mp read with ⟨first, isFirst, read⟩
    rcases Option.map_eq_some_iff.mp read with ⟨second, isSecond, same⟩
    cases same
    refine ⟨by simp, fun _ further => ?_⟩
    simp [readByte, isFirst, isSecond]
  · cases read

theorem takesFront_readEscape : TakesFront readEscape := by
  intro text units rest read
  cases text with
  | nil =>
      cases read
  | cons letter after =>
      -- What stands behind the letter matters to a zero and to the end of a line.
      have ahead : after ≠ [] → ∀ further, (after ++ further).head? = after.head? :=
        fun filled _ => List.head?_append_of_ne_nil _ filled
      simp only [readEscape, List.cons_append] at read ⊢
      split_ifs at read with unicode byte zero digit folded lineEnd
      · have taken := takesFront_readUnicode read
        refine ⟨taken.1.trans (by simp), fun filled further => ?_⟩
        rw [if_pos unicode, taken.2 filled]
      · have taken := takesFront_readByte read
        refine ⟨taken.1.trans (by simp), fun filled further => ?_⟩
        rw [if_neg unicode, if_pos byte, taken.2 filled]
      · cases read
        refine ⟨by simp, fun filled further => ?_⟩
        rw [if_neg unicode, if_neg byte, if_pos zero, ahead filled, if_neg digit]
      · cases read
        rcases List.head?_eq_some_iff.mp folded.2 with ⟨behind, rfl⟩
        refine ⟨by simp, fun filled further => ?_⟩
        rw [if_neg unicode, if_neg byte, if_neg zero, ahead (by simp), if_pos folded]
        rfl
      · cases read
        refine ⟨by simp, fun filled further => ?_⟩
        rw [if_neg unicode, if_neg byte, if_neg zero, ahead filled, if_neg folded, if_pos lineEnd]
      · rcases Option.map_eq_some_iff.mp read with ⟨character, isLetter, same⟩
        cases same
        refine ⟨by simp, fun filled further => ?_⟩
        rw [if_neg unicode, if_neg byte, if_neg zero, ahead filled, if_neg folded,
          if_neg lineEnd, isLetter]
        rfl

/-- An element of a literal is taken off the front, so reading ends. -/
theorem takesFront_readElement : TakesFront readElement := by
  intro text units rest read
  cases text with
  | nil =>
      cases read
  | cons character after =>
      simp only [readElement, List.cons_append] at read ⊢
      split_ifs at read ⊢
      · have taken := takesFront_readEscape read
        exact ⟨taken.1.trans (by simp), taken.2⟩
      · cases read
        exact ⟨by simp, fun _ further => rfl⟩

/-- The units of the elements up to the closing quote, with the text after that quote. -/
def readElements (text : List Char) : Option (List Nat × List Char) :=
  if text.head? = some '"' then some ([], text.tail)
  else
    match _read : readElement text with
    | none => none
    | some (units, rest) =>
      (readElements rest).map fun (others, after) => (units ++ others, after)
termination_by text.length
decreasing_by exact (takesFront_readElement _read).1

/-- The units of a text that is one literal from the first to the last character. -/
def stringValue : List Char → Option (List Nat)
  | '"' :: text =>
    match readElements text with
    | some (units, []) => some units
    | _ => none
  | _ => none

/-- Escapes are read that are never written. -/
example :
    stringValue "\"\\u\x7b1F600\x7d\\x41\\0\\\n\\'\"".toList =
      some [0xD83D, 0xDE00, 0x41, 0, 0x27] := by
  cbv

theorem readElements_quote (rest : List Char) :
    readElements ('"' :: rest) = some ([], rest) := by
  rw [readElements]
  rfl

theorem readElements_of_readElement
    {text rest : List Char} {units : List Nat}
    (read : readElement text = some (units, rest)) :
    readElements text =
      (readElements rest).map fun (others, after) => (units ++ others, after) := by
  have noQuote : text.head? ≠ some '"' := by
    intro quote
    rcases List.head?_eq_some_iff.mp quote with ⟨after, rfl⟩
    cases read
  rw [readElements, if_neg noQuote]
  split
  · rename_i failed
    exact absurd (read.symm.trans failed) (by simp)
  · rename_i found after success
    cases read.symm.trans success
    rfl

/-- What is read up to a closing quote does not depend on what follows that quote. -/
theorem readElements_append
    {text rest : List Char} {units : List Nat}
    (read : readElements text = some (units, rest))
    (further : List Char) :
    readElements (text ++ further) = some (units, rest ++ further) := by
  induction text using readElements.induct generalizing units rest with
  | case1 text quote =>
      rcases List.head?_eq_some_iff.mp quote with ⟨after, rfl⟩
      rw [readElements_quote] at read
      cases read
      exact readElements_quote _
  | case2 text noQuote failed =>
      rw [readElements, if_neg noQuote] at read
      split at read
      · cases read
      · rename_i success
        exact absurd (success.symm.trans failed) (by simp)
  | case3 text noQuote first after success ih =>
      rw [readElements_of_readElement success] at read
      rcases Option.map_eq_some_iff.mp read with ⟨⟨others, behind⟩, later, same⟩
      cases same
      have filled : after ≠ [] := by
        rintro rfl
        rw [readElements] at later
        cases later
      rw [readElements_of_readElement ((takesFront_readElement success).2 filled further),
        ih later]
      rfl

/-! ## Literals are read back -/

theorem pointUnits_of_small {point : Nat} (small : point < 0x10000) : pointUnits point = [point] :=
  if_pos small

/-- The letter of a short escape settles its character. -/
theorem readEscape_of_shortEscape
    {character letter : Char}
    (short : shortEscape character = some letter)
    (rest : List Char) :
    readEscape (letter :: rest) = some (pointUnits character.toNat, rest) := by
  unfold shortEscape at short
  split_ifs at short <;> cases short <;> subst_vars <;>
    simp [readEscape, ofLetter, lineEnds, isDigit]

/-- The step of the reading: one escaped character is read as the units of that character. -/
theorem readElement_escape (character : Char) (rest : List Char) :
    readElement (escape character ++ rest) = some (pointUnits character.toNat, rest) := by
  cases short : shortEscape character with
  | some letter =>
      simp only [escape, short, List.cons_append, List.nil_append]
      exact readEscape_of_shortEscape short rest
  | none =>
      have ordinary := Text.Literal.ordinary_of_shortEscape short
      by_cases control : character.toNat < 0x20
      · have digits := Text.Literal.readUnit_control character control rest
        simp only [escape, short, control, if_true, List.cons_append, List.nil_append]
        rw [pointUnits_of_small (by omega)]
        simp [readElement, readEscape, readUnicode, digits]
      · have noLineEnd : character ≠ '\n' ∧ character ≠ '\r' := by
          constructor <;> rintro rfl <;> exact control (by decide)
        simp only [escape, short, control, if_false, List.cons_append, List.nil_append]
        simp [readElement, ordinary, noLineEnd]

/-- An encoded text up to its closing quote is read as the units of the text. -/
theorem readElements_encode (characters rest : List Char) :
    readElements (encode characters ++ '"' :: rest) = some (textUnits characters, rest) := by
  induction characters with
  | nil =>
      exact readElements_quote rest
  | cons character characters ih =>
      rw [encode_cons, List.append_assoc, readElements_of_readElement (readElement_escape _ _), ih,
        textUnits_cons]
      rfl

/-- The value of a literal is its text, in units of sixteen bits. -/
theorem stringValue_literal (text : String) :
    stringValue (literal text).toList = some (textUnits text.toList) := by
  rw [toList_literal, stringValue, readElements_encode]

/-- A text that is one literal is none any more when something follows it. -/
theorem stringValue_append
    {text further : List Char} {units : List Nat}
    (value : stringValue text = some units)
    (more : further ≠ []) :
    stringValue (text ++ further) = none := by
  unfold stringValue at value
  split at value
  · split at value
    · rename_i inside units read
      rw [List.cons_append, stringValue, readElements_append read]
      cases further with
      | nil =>
          exact absurd rfl more
      | cons character rest =>
          rfl
    · cases value
  · cases value

/-! ## Quotes and backslashes inside literals -/

/-- The number of backslashes at the end of a text. -/
def backslashes (text : List Char) : Nat :=
  (text.rtakeWhile (· = '\\')).length

theorem backslashes_concat (text : List Char) (character : Char) :
    backslashes (text ++ [character]) =
      if character = '\\' then backslashes text + 1 else 0 := by
  unfold backslashes
  split_ifs with backslash
  · rw [List.rtakeWhile_concat_pos _ _ _ (by simpa using backslash)]
    simp
  · rw [List.rtakeWhile_concat_neg _ _ _ (by simpa using backslash)]
    rfl

/-- Behind a front, every quote of a text is escaped and no backslash is left over at its end. -/
structure Sealed (front text : List Char) : Prop where
  quote : ∀ before after, text = before ++ '"' :: after → Odd (backslashes (front ++ before))
  last : Even (backslashes (front ++ text))

/-- Sealed parts one behind the other are sealed, the first being in front of the second. -/
theorem Sealed.append
    {front first second : List Char}
    (firstSealed : Sealed front first)
    (secondSealed : Sealed (front ++ first) second) :
    Sealed front (first ++ second) where
  quote := by
    intro before after split
    rcases List.append_eq_append_iff.mp split with ⟨inside, rfl, rest⟩ | ⟨inside, rfl, rest⟩
    · rw [← List.append_assoc]
      exact secondSealed.quote inside after rest
    · cases inside with
      | nil =>
          have last := secondSealed.quote [] after rest.symm
          rwa [List.append_nil, List.append_nil] at last
      | cons character others =>
          cases rest
          exact firstSealed.quote before others rfl
  last := by
    rw [← List.append_assoc]
    exact secondSealed.last

theorem sealed_letter
    {front : List Char}
    (paired : Even (backslashes front))
    (letter : Char) :
    Sealed front ['\\', letter] where
  quote := by
    intro before after split
    rcases before with _ | ⟨first, _ | ⟨second, others⟩⟩
    · cases split
    · cases split
      rw [backslashes_concat, if_pos rfl]
      exact paired.add_one
    · cases others <;> cases split
  last := by
    rw [List.append_cons, backslashes_concat, backslashes_concat, if_pos rfl]
    split_ifs
    · exact paired.add_one.add_one
    · exact Even.zero

/-- Where no quote stands, only the last character matters. -/
theorem sealed_of_not_mem
    (front text : List Char)
    {last : Char}
    (noQuote : '"' ∉ text ++ [last])
    (noBackslash : last ≠ '\\') :
    Sealed front (text ++ [last]) where
  quote := by
    intro before after split
    exact absurd (split ▸ List.mem_append_right before List.mem_cons_self) noQuote
  last := by
    rw [← List.append_assoc, backslashes_concat, if_neg noBackslash]
    exact Even.zero

theorem hexDigit_ordinary :
    ∀ value < 16, hexDigit value ≠ '"' ∧ hexDigit value ≠ '\\' := by
  decide

/-- No quote inside an escape can end the literal. -/
theorem sealed_escape
    {front : List Char}
    (paired : Even (backslashes front))
    (character : Char) :
    Sealed front (escape character) := by
  cases short : shortEscape character with
  | some letter =>
      simp only [escape, short]
      exact sealed_letter paired letter
  | none =>
      by_cases control : character.toNat < 0x20
      · have high := hexDigit_ordinary (character.toNat / 16) (by omega)
        have low := hexDigit_ordinary (character.toNat % 16) (by omega)
        simp only [escape, short, control, if_true]
        refine sealed_of_not_mem front ['\\', 'u', '0', '0', _] ?_ low.2
        simp [high.1.symm, low.1.symm]
      · have ordinary := Text.Literal.ordinary_of_shortEscape short
        simp only [escape, short, control, if_false]
        refine sealed_of_not_mem front [] ?_ ordinary.2
        simpa using ordinary.1.symm

/-- An encoded text is sealed, by induction on its characters with what precedes it free. -/
theorem sealed_encode
    {front : List Char}
    (paired : Even (backslashes front))
    (characters : List Char) :
    Sealed front (encode characters) := by
  induction characters generalizing front with
  | nil =>
      refine ⟨fun before after split => absurd split (by simp), ?_⟩
      rwa [encode_nil, List.append_nil]
  | cons character characters ih =>
      rw [encode_cons]
      exact (sealed_escape paired character).append (ih (sealed_escape paired character).last)

/-! ## Keys -/

/-- The units of the name that a key stands for: a bare one stands for itself. -/
def keyValue (key : List Char) : Option (List Nat) :=
  if key.head? = some '"' then stringValue key else some (textUnits key)

/-- A text starts with a mark or a letter, and goes on with those and numbers. -/
def IsBare (text : String) : Prop :=
  ∃ first rest, text.toList = first :: rest ∧
    (first = '_' ∨ first = '$' ∨ isAlphabetic first = true) ∧
    ∀ character ∈ rest,
      character = '_' ∨ character = '$' ∨ isAlphabetic character = true ∨
        isNumeric character = true

/-- A key is written bare when a script may have it so. -/
theorem hasIdentifierShape_iff_isBare (text : String) :
    hasIdentifierShape text = true ↔ IsBare text := by
  unfold hasIdentifierShape IsBare
  cases text.toList with
  | nil =>
      simp
  | cons first rest =>
      simp only [isIdentifierStart, isIdentifierPart, isIdentifierMark, Bool.and_eq_true,
        Bool.or_eq_true, beq_iff_eq, List.all_eq_true, List.cons.injEq]
      constructor
      · rintro ⟨start, parts⟩
        refine ⟨first, rest, ⟨rfl, rfl⟩, by tauto, fun character member => ?_⟩
        have part := parts character member
        tauto
      · rintro ⟨_, _, ⟨rfl, rfl⟩, start, parts⟩
        refine ⟨by tauto, fun character member => ?_⟩
        have part := parts character member
        tauto

/-- The value of a key is the name, bare or quoted. -/
theorem keyValue_key (name : String) :
    keyValue (Expression.key name).toList = some (textUnits name.toList) := by
  unfold Expression.key keyValue
  split_ifs with shape quote quote
  · rcases List.head?_eq_some_iff.mp quote with ⟨rest, characters⟩
    exact absurd (characters ▸ List.mem_cons_self)
      (Text.not_mem_of_shape shape (by simp [Text.delimiters]))
  · rfl
  · exact stringValue_literal name
  · rw [toList_literal] at quote
    exact absurd rfl quote

/-! ## What is written is what is read -/

/-- A literal is read as its text, as no other one, and only from the first to the last quote. -/
structure LiteralDecodes (text : String) : Prop where
  /-- Nothing between the two quotes is a control character, a free quote or half an escape. -/
  enclosed : ∃ inside, (literal text).toList = '"' :: (inside ++ ['"']) ∧
    (∀ character ∈ inside, 0x20 ≤ character.toNat) ∧ Sealed [] inside
  value : ∀ other : String,
    stringValue (literal text).toList = some (textUnits other.toList) ↔ other = text
  whole : ∀ front further, front ++ further = (literal text).toList → further ≠ [] →
    stringValue front = none

theorem literalDecodes (text : String) : LiteralDecodes text where
  enclosed :=
    ⟨encode text.toList, toList_literal text,
      fun _ => Text.Literal.above_controls_of_mem_encode, sealed_encode Even.zero text.toList⟩
  value := by
    intro other
    rw [stringValue_literal, Option.some.injEq, textUnits_injective.eq_iff, String.toList_inj,
      eq_comm]
  whole := by
    intro front further whole more
    cases value : stringValue front with
    | none =>
        rfl
    | some units =>
        have none := stringValue_append value more
        rw [whole, stringValue_literal] at none
        cases none

/-- A key is read as its name, whether it is the name itself or its literal. -/
structure KeyDecodes (name : String) : Prop where
  spelled : IsBare name ∧ Expression.key name = name ∨
    ¬ IsBare name ∧ Expression.key name = literal name
  value : ∀ other : String,
    keyValue (Expression.key name).toList = some (textUnits other.toList) ↔ other = name

theorem keyDecodes (name : String) : KeyDecodes name where
  spelled := by
    rw [← hasIdentifierShape_iff_isBare]
    by_cases shape : hasIdentifierShape name = true
    · exact .inl ⟨shape, if_pos shape⟩
    · exact .inr ⟨shape, if_neg shape⟩
  value := by
    intro other
    rw [keyValue_key, Option.some.injEq, textUnits_injective.eq_iff, String.toList_inj, eq_comm]

/-- Different texts have different literals. -/
theorem literal_injective : Function.Injective literal := by
  intro first second same
  exact ((literalDecodes second).value first).mp (same ▸ stringValue_literal first)

/-- The options of a choice are read back from its expression, however many there are. -/
theorem oneOf_injective : Function.Injective Expression.oneOf := by
  intro first second same
  have firstRead := Schema.readCore_oneOf (fun _ => none)
    (Nat.le_max_left first.length second.length) []
  have secondRead := Schema.readCore_oneOf (fun _ => none)
    (Nat.le_max_right first.length second.length) []
  rw [same, secondRead] at firstRead
  cases firstRead
  rfl

/-- Literals, keys and choices lose nothing of the texts that they are written for. -/
theorem decodes_literals_and_keys :
    (∀ text, LiteralDecodes text) ∧ Function.Injective literal ∧
    (∀ name, KeyDecodes name) ∧ Function.Injective Expression.key ∧
    Function.Injective Expression.oneOf :=
  ⟨literalDecodes, literal_injective, keyDecodes, Expression.key_injective, oneOf_injective⟩

end Script

end ContentSchema
