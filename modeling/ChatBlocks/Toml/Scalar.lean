import ChatBlocks.Text.Numeral
import ChatBlocks.Toml.Value

/-!
# Unquoted values

Truth values, integers, floats, dates and times. Underscores may stand between
two digits. An integer has to fit 128 bits, and a float has to be finite unless
it is written as infinity. The seconds of a time may be left out.
-/

namespace ChatBlocks.Toml

def isScalarChar (character : Char) : Bool :=
  character.isAlphanum || character == '_' || character == '+' || character == '-'
    || character == '.' || character == ':'

def underscoresSeparate : List Char → Bool
  | [] => true
  | [character] => character != '_'
  | first :: second :: rest =>
      !(first == '_' && second == '_') && underscoresSeparate (second :: rest)

def readGroupedDigits (isDigit : Char → Bool) (input : List Char) :
    Option (List Char × List Char) :=
  let written := input.takeWhile fun character => isDigit character || character == '_'
  if written.isEmpty || written.head? == some '_' || !underscoresSeparate written then
    none
  else
    some (written.filter (· != '_'), input.drop written.length)

def radixValue (radix : Nat) (digits : List Char) : Nat :=
  digits.foldl (fun value digit => value * radix + (Text.hexValue? digit).getD 0) 0

def fitsInteger (value : Int) : Bool :=
  -(Nat.pow 2 127 : Int) ≤ value && value < (Nat.pow 2 128 : Int)

def radixInteger? (digits : List Char) (radix : Nat) : Option Value := do
  let isDigit := fun character : Char =>
    match Text.hexValue? character with
    | some value => value < radix
    | none => false
  match ← readGroupedDigits isDigit digits with
  | (digits, []) =>
      let value : Int := radixValue radix digits
      if fitsInteger value then some (.integer value) else none
  | _ => none

def readFixedDigits (count : Nat) (input : List Char) : Option (Nat × List Char) :=
  let digits := input.take count
  if digits.length = count ∧ digits.all Char.isDigit then
    some (Text.decimalValue digits, input.drop count)
  else
    none

def readChar (wanted : Char) : List Char → Option (List Char)
  | character :: rest => if character = wanted then some rest else none
  | [] => none

def daysInMonth (year month : Nat) : Nat :=
  if month = 2 then
    if year % 4 = 0 ∧ (year % 100 ≠ 0 ∨ year % 400 = 0) then 29 else 28
  else if month = 4 ∨ month = 6 ∨ month = 9 ∨ month = 11 then 30
  else 31

def skipDate? (input : List Char) : Option (List Char) := do
  let (year, rest) ← readFixedDigits 4 input
  let (month, rest) ← readFixedDigits 2 (← readChar '-' rest)
  let (day, rest) ← readFixedDigits 2 (← readChar '-' rest)
  if 1 ≤ month ∧ month ≤ 12 ∧ 1 ≤ day ∧ day ≤ daysInMonth year month then some rest else none

/-- Skips the fraction of a second, if there is one. -/
def skipFraction? : List Char → Option (List Char)
  | '.' :: rest =>
      let (digits, rest) := Text.readDigits rest
      if digits.isEmpty then none else some rest
  | input => some input

/-- Skips a time of day. A minute may have a second too many. -/
def skipTime? (input : List Char) : Option (List Char) := do
  let (hour, rest) ← readFixedDigits 2 input
  let (minute, rest) ← readFixedDigits 2 (← readChar ':' rest)
  if hour ≤ 23 ∧ minute ≤ 59 then
    match rest with
    | ':' :: rest => do
        let (second, rest) ← readFixedDigits 2 rest
        if second ≤ 60 then skipFraction? rest else none
    | _ => some rest
  else
    none

/-- Skips the distance from universal time, if there is one. -/
def skipZone? (input : List Char) : Option (List Char) :=
  match input with
  | [] => some []
  | mark :: rest =>
      if mark = 'Z' ∨ mark = 'z' then some rest
      else if mark = '+' ∨ mark = '-' then do
        let (hours, rest) ← readFixedDigits 2 rest
        let (minutes, rest) ← readFixedDigits 2 (← readChar ':' rest)
        if hours ≤ 23 ∧ minutes ≤ 59 then some rest else none
      else none

def isMoment (text : List Char) : Bool :=
  match skipDate? text with
  | some [] => true
  | some (mark :: rest) =>
      (mark == 'T' || mark == 't' || mark == ' ') && ((skipTime? rest).bind skipZone?) == some []
  | none => skipTime? text == some []

/-- Reads the fraction of a float, if there is one. -/
def readFraction? : List Char → Option (Option (List Char) × List Char)
  | '.' :: rest =>
      (readGroupedDigits Char.isDigit rest).map fun (digits, rest) => (some digits, rest)
  | input => some (none, input)

/-- Reads the exponent of a float, if there is one. -/
def readExponent? (input : List Char) : Option (Option Int × List Char) :=
  match input with
  | mark :: rest =>
      if mark = 'e' ∨ mark = 'E' then do
        let (negative, rest) : Bool × List Char :=
          match rest with
          | '-' :: rest => (true, rest)
          | '+' :: rest => (false, rest)
          | _ => (false, rest)
        let (digits, rest) ← readGroupedDigits Char.isDigit rest
        let size : Int := Text.decimalValue digits
        some (some (if negative then -size else size), rest)
      else
        some (none, input)
  | [] => some (none, [])

/-- Reads a decimal integer or a float that is written in digits; the sign
stands apart. -/
def decimal? (negative : Bool) (written : List Char) (unsigned : List Char) : Option Value := do
  let (whole, rest) ← readGroupedDigits Char.isDigit unsigned
  if whole.head? = some '0' ∧ 1 < whole.length then none
  else
    let (fraction, rest) ← readFraction? rest
    let (exponent, rest) ← readExponent? rest
    if rest.isEmpty then
      match fraction, exponent with
      | none, none =>
          let size : Int := Text.decimalValue whole
          let value := if negative then -size else size
          if fitsInteger value then some (.integer value) else none
      | _, _ =>
          let digits := fraction.getD []
          let shift : Int := exponent.getD 0 - (digits.length : Int)
          if Text.fitsFloat (Text.decimalValue (whole ++ digits)) shift then
            some (.float (String.ofList written))
          else
            none
    else
      none

def scalar? (text : List Char) : Option Value :=
  if text = ['t', 'r', 'u', 'e'] then some (.boolean true)
  else if text = ['f', 'a', 'l', 's', 'e'] then some (.boolean false)
  else if isMoment text then some (.moment (String.ofList text))
  else
    match text with
    | '0' :: 'x' :: digits => radixInteger? digits 16
    | '0' :: 'o' :: digits => radixInteger? digits 8
    | '0' :: 'b' :: digits => radixInteger? digits 2
    | _ =>
        let (negative, unsigned) : Bool × List Char :=
          match text with
          | '-' :: rest => (true, rest)
          | '+' :: rest => (false, rest)
          | _ => (false, text)
        if unsigned = ['i', 'n', 'f'] ∨ unsigned = ['n', 'a', 'n'] then
          some (.float (String.ofList text))
        else
          decimal? negative text unsigned

end ChatBlocks.Toml
