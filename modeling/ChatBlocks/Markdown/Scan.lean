import ChatBlocks.Markdown.Source

/-!
# Scanning lines

Small scanners that look at the source from an offset on and return the offset
they reached. The end of the source counts as the end of a line.
-/

namespace ChatBlocks.Markdown

def isAsciiLetter (character : Char) : Bool :=
  character.isAlpha

def isAsciiAlphanumeric (character : Char) : Bool :=
  character.isAlphanum

def isEscapable (character : Char) : Bool :=
  let code := character.toNat
  (0x21 ≤ code && code ≤ 0x2F) || (0x3A ≤ code && code ≤ 0x40)
    || (0x5B ≤ code && code ≤ 0x60) || (0x7B ≤ code && code ≤ 0x7E)

def isLineSpace (character : Char) : Bool :=
  character == ' ' || character == '\t' || character == '\x0b' || character == '\x0c'

def isLineEnd (character : Char) : Bool :=
  character == '\n' || character == '\r'

def isAsciiSpace (character : Char) : Bool :=
  isLineSpace character || isLineEnd character

def isBlankOrTab (character : Char) : Bool :=
  character == ' ' || character == '\t'

namespace Source

def isEscapeAt (source : Source) (offset : Nat) : Bool :=
  source.hasAt offset '\\' && source.testAt (offset + 1) isEscapable

def skipSpace (source : Source) (offset : Nat) : Nat :=
  source.skipWhile isLineSpace offset

/-- The offset after a line ending, when one stands at the offset. The end of
the source is a line ending of no width. -/
def lineEnd? (source : Source) (offset : Nat) : Option Nat :=
  match source.at? offset with
  | none => some offset
  | some '\n' => some (offset + 1)
  | some '\r' => some (if source.hasAt (offset + 1) '\n' then offset + 2 else offset + 1)
  | some _ => none

def isLineEndAt (source : Source) (offset : Nat) : Bool :=
  (source.lineEnd? offset).isSome

/-- The offset after the line, when nothing but white space is left on it. -/
def blankLine? (source : Source) (offset : Nat) : Option Nat :=
  source.lineEnd? (source.skipSpace offset)

/-- The offset after the next line feed, or the end of the source. -/
def nextLine (source : Source) (offset : Nat) : Nat :=
  let feed := source.skipWhile (· != '\n') offset
  if feed < source.size then feed + 1 else feed

/-- Counts the marks of a thematic break, with blanks between them, up to the
end of the line. Any other character ends the search. -/
def ruleMarks (source : Source) (mark : Char) (count offset : Nat) : Option (Nat × Nat) :=
  if h : offset < source.bytes.size then
    let character := Char.ofNat source.bytes[offset].toNat
    if isLineEnd character then some (count, (source.lineEnd? offset).getD offset)
    else if character == mark then source.ruleMarks mark (count + 1) (offset + 1)
    else if isBlankOrTab character then source.ruleMarks mark count (offset + 1)
    else none
  else
    some (count, offset)
termination_by source.bytes.size - offset

/-- A thematic break at an offset is three or more of one mark and nothing else
on the line; the result is the offset after the line. -/
def rule? (source : Source) (offset : Nat) : Option Nat := do
  let mark ← source.at? offset
  if mark == '*' || mark == '-' || mark == '_' then
    let (count, stop) ← source.ruleMarks mark 0 offset
    if 3 ≤ count then some stop else none
  else
    none

def isRule (source : Source) (offset : Nat) : Bool :=
  (source.rule? offset).isSome

def headingRank? (source : Source) (offset : Nat) : Option Nat :=
  let rank := source.runLength '#' offset
  if 1 ≤ rank && rank ≤ 6
      && ((source.at? (offset + rank)).all isAsciiSpace) then
    some rank
  else
    none

/-- The line under a heading: its rank and the offset after the line. -/
def underline? (source : Source) (offset : Nat) : Option (Nat × Nat) :=
  let line (mark : Char) (rank : Nat) : Option (Nat × Nat) :=
    (source.blankLine? (offset + source.runLength mark offset)).map fun stop => (rank, stop)
  match source.at? offset with
  | some '=' => line '=' 1
  | some '-' => line '-' 2
  | _ => none

/-- A code fence: its character and length. A fence of backticks has no
further backtick on its line. -/
def fence? (source : Source) (offset : Nat) : Option (Char × Nat) :=
  match source.at? offset with
  | some mark =>
      if mark == '\x60' || mark == '~' then
        let length := source.runLength mark offset
        if length < 3 then none
        else if mark == '\x60' then
          let stop := source.skipWhile (fun c => c != '\x60' && c != '\n') (offset + length)
          if source.hasAt stop '\x60' then none else some (mark, length)
        else some (mark, length)
      else none
  | none => none

/-- The end of a code block: the offset after the marks and the blanks behind
them, with nothing else on the line. The end of the source closes any block. -/
def closingFence? (source : Source) (mark : Char) (length offset : Nat) : Option Nat :=
  if source.size ≤ offset then some offset
  else
    let run := source.runLength mark offset
    if run < length then none
    else
      let stop := source.skipWhile (· == ' ') (offset + run)
      if source.isLineEndAt stop then some stop else none

structure ListMarker where
  stop : Nat
  bullet : Bool
  number : Nat

def decimalAt (source : Source) (start stop : Nat) : Nat :=
  (source.slice start stop).toList.foldl (fun value digit => value * 10 + (digit.toNat - 48)) 0

def listMarker? (source : Source) (offset : Nat) : Option ListMarker :=
  let marked (width : Nat) (bullet : Bool) (number : Nat) : Option ListMarker :=
    let stop := offset + width
    if source.testAt stop isBlankOrTab || source.isLineEndAt stop then
      some ⟨stop, bullet, number⟩
    else
      none
  match source.at? offset with
  | some mark =>
      if mark == '-' || mark == '+' || mark == '*' then marked 1 true 0
      else if mark.isDigit then
        let digits := min (source.skipWhile Char.isDigit offset - offset) 9
        let after := offset + digits
        if source.hasAt after '.' || source.hasAt after ')' then
          marked (digits + 1) false (source.decimalAt offset after)
        else
          none
      else
        none
  | none => none

def isEmptyItem (source : Source) (offset : Nat) : Bool :=
  match source.blankLine? offset with
  | some next => (source.blankLine? next).isSome
  | none => false

end Source

end ChatBlocks.Markdown
