import ChatBlocks.Markdown.EntityTable
import ChatBlocks.Markdown.Scan

/-!
# Reading character references

A reference is a name from the table, or the number of a code point in decimal
or hexadecimal. A number that is no character, and zero, stand for U+FFFD.
-/

namespace ChatBlocks.Markdown

/-- The character of a code point, or the replacement character. -/
def charOfCode (code : Nat) : Char :=
  if code = 0 ∨ ¬ code.isValidChar then '\uFFFD' else Char.ofNat code

def isHexDigit (character : Char) : Bool :=
  character.isDigit || ('a' ≤ character && character ≤ 'f')
    || ('A' ≤ character && character ≤ 'F')

def digitValue (digit : Char) : Nat :=
  if digit.isDigit then digit.toNat - 48
  else if digit.toNat < 97 then digit.toNat - 55
  else digit.toNat - 87

namespace Source

/-- A number that ends with a semicolon and has at most `most` digits. -/
def numericReference? (source : Source) (base most : Nat) (isDigit : Char → Bool)
    (offset : Nat) : Option (String × Nat) :=
  let stop := min (source.skipWhile isDigit offset) (offset + most)
  if stop = offset ∨ !source.hasAt stop ';' then none
  else
    let code := (source.slice offset stop).toList.foldl
      (fun value digit => value * base + digitValue digit) 0
    some (String.singleton (charOfCode code), stop + 1)

def reference? (source : Source) (offset : Nat) : Option (String × Nat) :=
  if !source.hasAt offset '&' then none
  else if source.hasAt (offset + 1) '#' then
    if source.hasAt (offset + 2) 'x' || source.hasAt (offset + 2) 'X' then
      source.numericReference? 16 6 isHexDigit (offset + 3)
    else
      source.numericReference? 10 7 Char.isDigit (offset + 2)
  else
    let stop := source.skipWhile isAsciiAlphanumeric (offset + 1)
    if source.hasAt stop ';' then
      (entityText? (source.slice (offset + 1) stop)).map fun text => (text, stop + 1)
    else
      none

end Source

end ChatBlocks.Markdown
