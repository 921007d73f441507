import ChatBlocks.Json.Value
import ChatBlocks.Text.Numeral

/-!
# Reading JSON

A reader takes the characters that remain and returns what it read with the
characters after it. Arrays and objects may lie at most `nestingLimit` deep.

A value is read either to be kept or to be skipped. A kept string must hold
paired surrogate escapes only and a kept number must fit a binary64 float; a
skipped value is checked for its form alone.
-/

namespace ChatBlocks.Json

open Text (hexValue? decimalValue readDigits fitsFloat)

def nestingLimit : Nat := 127

inductive Purpose where
  | keep
  | skip
  deriving DecidableEq, Repr

def isSpace (character : Char) : Bool :=
  character == ' ' || character == '\n' || character == '\t' || character == '\r'

def skipSpace (input : List Char) : List Char :=
  input.dropWhile isSpace

def expect : List Char → List Char → Option (List Char)
  | [], input => some input
  | _ :: _, [] => none
  | wanted :: more, character :: rest =>
      if wanted = character then expect more rest else none

def readHexQuad : List Char → Option (Nat × List Char)
  | a :: b :: c :: d :: rest => do
      let a ← hexValue? a
      let b ← hexValue? b
      let c ← hexValue? c
      let d ← hexValue? d
      some (((a * 16 + b) * 16 + c) * 16 + d, rest)
  | _ => none

def replacementCharacter : Char := '\uFFFD'

/-- Reads what follows `\u`. A kept escape of a surrogate must be a leading
one directly followed by the escape of a trailing one. -/
def readUnicodeEscape (purpose : Purpose) (input : List Char) : Option (Char × List Char) := do
  let (unit, rest) ← readHexQuad input
  match purpose with
  | .skip => some (replacementCharacter, rest)
  | .keep =>
      if 0xD800 ≤ unit ∧ unit < 0xDC00 then do
        let afterMark ← expect ['\\', 'u'] rest
        let (trailing, rest) ← readHexQuad afterMark
        if 0xDC00 ≤ trailing ∧ trailing < 0xE000 then
          some (Char.ofNat (0x10000 + (unit - 0xD800) * 0x400 + (trailing - 0xDC00)), rest)
        else
          none
      else if 0xDC00 ≤ unit ∧ unit < 0xE000 then
        none
      else
        some (Char.ofNat unit, rest)

def simpleEscape? (letter : Char) : Option Char :=
  if letter = '"' then some '"'
  else if letter = '\\' then some '\\'
  else if letter = '/' then some '/'
  else if letter = 'b' then some '\x08'
  else if letter = 'f' then some '\x0c'
  else if letter = 'n' then some '\n'
  else if letter = 'r' then some '\r'
  else if letter = 't' then some '\t'
  else none

/-- Reads string content up to the closing quote; `content` holds what was
read so far, last character first. The fuel bounds the number of characters. -/
def readStringContent (purpose : Purpose) :
    Nat → List Char → List Char → Option (String × List Char)
  | 0, _, _ => none
  | _ + 1, _, [] => none
  | fuel + 1, content, character :: rest =>
      if character = '"' then
        some (String.ofList content.reverse, rest)
      else if character = '\\' then
        match rest with
        | [] => none
        | letter :: rest =>
            if letter = 'u' then
              match readUnicodeEscape purpose rest with
              | none => none
              | some (escaped, rest) => readStringContent purpose fuel (escaped :: content) rest
            else
              match simpleEscape? letter with
              | none => none
              | some escaped => readStringContent purpose fuel (escaped :: content) rest
      else if character.toNat < 0x20 then
        none
      else
        readStringContent purpose fuel (character :: content) rest

def readString (purpose : Purpose) : List Char → Option (String × List Char)
  | [] => none
  | character :: rest =>
      if character = '"' then readStringContent purpose (rest.length + 1) [] rest else none

/-- The digits before a decimal point: one zero, or digits that do not start
with a zero. -/
def readIntegerPart (input : List Char) : Option (List Char × List Char) :=
  let (digits, rest) := readDigits input
  match digits with
  | [] => none
  | first :: more =>
      if first = '0' then
        if more.isEmpty then some (digits, rest) else none
      else
        some (digits, rest)

/-- The digits after a decimal point, if there is one. -/
def readFraction (input : List Char) : Option (Option (List Char) × List Char) :=
  match input with
  | '.' :: rest =>
      let (digits, rest) := readDigits rest
      if digits.isEmpty then none else some (some digits, rest)
  | _ => some (none, input)

def readExponent (input : List Char) : Option (Option Int × List Char) :=
  match input with
  | mark :: rest =>
      if mark = 'e' ∨ mark = 'E' then
        let (negative, rest) : Bool × List Char :=
          match rest with
          | '-' :: rest => (true, rest)
          | '+' :: rest => (false, rest)
          | _ => (false, rest)
        let (digits, rest) := readDigits rest
        if digits.isEmpty then none
        else
          let size : Int := decimalValue digits
          some (some (if negative then -size else size), rest)
      else
        some (none, input)
  | [] => some (none, [])

def readNumber (purpose : Purpose) (input : List Char) : Option (Number × List Char) := do
  let (negative, unsigned) : Bool × List Char :=
    match input with
    | '-' :: rest => (true, rest)
    | _ => (false, input)
  let (whole, rest) ← readIntegerPart unsigned
  let (fraction, rest) ← readFraction rest
  let (exponent, rest) ← readExponent rest
  let magnitude := decimalValue (whole ++ fraction.getD [])
  let mantissa : Int := if negative then -(magnitude : Int) else magnitude
  let shift : Int := exponent.getD 0 - ((fraction.getD []).length : Int)
  let isInteger := fraction.isNone && exponent.isNone && !(negative && magnitude == 0)
  if purpose == .keep && !fitsFloat magnitude shift then
    none
  else
    some (⟨mantissa, if isInteger then none else some shift⟩, rest)

mutual

/-- Reads one value, after any white space. `limit` is the number of arrays
and objects that may still be entered. -/
def readValue (purpose : Purpose) : Nat → Nat → List Char → Option (Value × List Char)
  | 0, _, _ => none
  | fuel + 1, limit, input =>
      match skipSpace input with
      | [] => none
      | character :: rest =>
          if character = 'n' then
            (expect ['u', 'l', 'l'] rest).map fun rest => (.null, rest)
          else if character = 't' then
            (expect ['r', 'u', 'e'] rest).map fun rest => (.bool true, rest)
          else if character = 'f' then
            (expect ['a', 'l', 's', 'e'] rest).map fun rest => (.bool false, rest)
          else if character = '"' then
            (readString purpose (character :: rest)).map fun (text, rest) => (.string text, rest)
          else if character = '[' then
            match limit with
            | 0 => none
            | limit + 1 =>
                match skipSpace rest with
                | ']' :: rest => some (.array [], rest)
                | _ =>
                    (readElements purpose fuel limit [] rest).map fun (elements, rest) =>
                      (.array elements, rest)
          else if character = '\x7b' then
            match limit with
            | 0 => none
            | limit + 1 =>
                match skipSpace rest with
                | '\x7d' :: rest => some (.object [], rest)
                | _ =>
                    (readMembers purpose fuel limit [] rest).map fun (members, rest) =>
                      (.object members, rest)
          else if character = '-' ∨ character.isDigit then
            (readNumber purpose (character :: rest)).map fun (number, rest) =>
              (.number number, rest)
          else
            none

/-- Reads array elements up to the closing bracket; `elements` holds those
read so far, last one first. -/
def readElements (purpose : Purpose) :
    Nat → Nat → List Value → List Char → Option (List Value × List Char)
  | 0, _, _, _ => none
  | fuel + 1, limit, elements, input =>
      match readValue purpose fuel limit input with
      | none => none
      | some (value, rest) =>
          match skipSpace rest with
          | ',' :: rest => readElements purpose fuel limit (value :: elements) rest
          | ']' :: rest => some ((value :: elements).reverse, rest)
          | _ => none

/-- Reads object members up to the closing brace; `members` holds those read
so far, last one first. -/
def readMembers (purpose : Purpose) :
    Nat → Nat → List (String × Value) → List Char → Option (List (String × Value) × List Char)
  | 0, _, _, _ => none
  | fuel + 1, limit, members, input =>
      match readString purpose (skipSpace input) with
      | none => none
      | some (key, rest) =>
          match skipSpace rest with
          | ':' :: rest =>
              match readValue purpose fuel limit rest with
              | none => none
              | some (value, rest) =>
                  match skipSpace rest with
                  | ',' :: rest => readMembers purpose fuel limit ((key, value) :: members) rest
                  | '\x7d' :: rest => some (((key, value) :: members).reverse, rest)
                  | _ => none
          | _ => none

end

/-- Reads one value with at most `limit` levels of nesting. -/
def readValueWithin (purpose : Purpose) (limit : Nat) (input : List Char) :
    Option (Value × List Char) :=
  readValue purpose (2 * input.length + 2) limit input

/-- The value of a whole text with at most `limit` levels of nesting. -/
def parseWithin? (limit : Nat) (text : String) : Option Value :=
  match readValueWithin .keep limit text.toList with
  | some (value, rest) => if (skipSpace rest).isEmpty then some value else none
  | none => none

def parse? (text : String) : Option Value :=
  parseWithin? nestingLimit text

end ChatBlocks.Json
