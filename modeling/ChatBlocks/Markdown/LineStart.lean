import ChatBlocks.Markdown.Scan

/-!
# The start of a line

The markers of containers stand at the start of a line and are measured in
columns. A tab reaches to the next multiple of four, and a container may take
only some of its columns; the others are left for what follows.
-/

namespace ChatBlocks.Markdown

structure LineStart where
  offset : Nat
  tabOrigin : Nat
  /-- The columns of a tab that are not yet taken. -/
  spareColumns : Nat

structure ItemMarker where
  /-- The bullet, or the character behind the number. -/
  mark : Char
  number : Nat
  indent : Nat

namespace LineStart

def ofOffset (offset : Nat) : LineStart :=
  ⟨offset, offset, 0⟩

/-- Takes columns from the characters at a place. Each character has a column
or more, so there are at most as many steps as columns wanted. -/
def takeCharacters (source : Source) : Nat → Nat → LineStart → Nat × LineStart
  | 0, wanted, place => (wanted, place)
  | steps + 1, wanted, place =>
      if wanted = 0 then (0, place)
      else
        match source.at? place.offset with
        | some ' ' =>
            takeCharacters source steps (wanted - 1) { place with offset := place.offset + 1 }
        | some '\t' =>
            let columns := 4 - (place.offset - place.tabOrigin) % 4
            let taken := min wanted columns
            takeCharacters source steps (wanted - taken)
              { place with
                offset := place.offset + 1
                tabOrigin := place.offset + 1
                spareColumns := columns - taken }
        | _ => (wanted, place)

/-- Takes up to a number of columns of white space; the first part of the
result is the number that was missing. -/
def takeColumns (source : Source) (place : LineStart) (wanted : Nat) : Nat × LineStart :=
  let spare := min place.spareColumns wanted
  let missing := wanted - spare
  takeCharacters source missing missing { place with spareColumns := place.spareColumns - spare }

/-- Takes exactly a number of columns, and says whether they were there. What
was there is taken in any case. -/
def takeExactly (source : Source) (place : LineStart) (wanted : Nat) : Bool × LineStart :=
  let (missing, place) := place.takeColumns source wanted
  (missing == 0, place)

def takeUpTo (source : Source) (place : LineStart) (wanted : Nat) : Nat × LineStart :=
  let (missing, place) := place.takeColumns source wanted
  (wanted - missing, place)

def takeAll (source : Source) (place : LineStart) : LineStart :=
  { place with offset := source.skipWhile isBlankOrTab place.offset, spareColumns := 0 }

def isAtEnd (source : Source) (place : LineStart) : Bool :=
  source.isLineEndAt place.offset

def takeMark? (source : Source) (place : LineStart) (mark : Char) : Option LineStart :=
  if source.hasAt place.offset mark then some { place with offset := place.offset + 1 } else none

def takeQuoteMarker? (source : Source) (place : LineStart) : Option LineStart :=
  (place.takeMark? source '>').map fun place => (place.takeExactly source 1).2

/-- Takes the columns between a list marker and its content. Four or more of
them belong to the content, as do those of an empty item. -/
def takeItemPadding (source : Source) (place : LineStart) (mark : Char) (number indent : Nat) :
    ItemMarker × LineStart :=
  if (source.blankLine? place.offset).isSome then (⟨mark, number, indent⟩, place)
  else
    let (padding, after) := place.takeUpTo source 4
    if padding < 4 then (⟨mark, number, indent + padding⟩, after)
    else (⟨mark, number, indent⟩, place)

def takeSeparator? (source : Source) (place : LineStart) : Option LineStart :=
  let (separated, after) := place.takeExactly source 1
  if separated || after.isAtEnd source then some after else none

/-- Takes a list marker behind `indent` columns. A thematic break is no
marker. -/
def takeListMarker? (source : Source) (place : LineStart) (indent : Nat) :
    Option (ItemMarker × LineStart) := do
  let first ← source.at? place.offset
  if first == '-' || first == '+' || first == '*' then
    if source.isRule place.offset then none
    else
      let after ← { place with offset := place.offset + 1 }.takeSeparator? source
      some (after.takeItemPadding source first 0 (indent + 2))
  else if first.isDigit then
    let digits := min (source.skipWhile Char.isDigit place.offset - place.offset) 9
    let stop := place.offset + digits
    let mark ← source.at? stop
    if mark == '.' || mark == ')' then
      let after ← { place with offset := stop + 1 }.takeSeparator? source
      some (after.takeItemPadding source mark (source.decimalAt place.offset stop)
        (indent + digits + 2))
    else
      none
  else
    none

/-- Takes a checkbox and says whether it is checked. White space has to follow
it, and the end of the source is none. -/
def takeCheckbox? (source : Source) (place : LineStart) : Option (Bool × LineStart) := do
  let (_, place) := place.takeUpTo source 3
  let inside ← place.takeMark? source '['
  let state ← source.at? inside.offset
  let checked ←
    if isLineSpace state then some false
    else if state == 'x' || state == 'X' then some true
    else none
  let closed ← { inside with offset := inside.offset + 1 }.takeMark? source ']'
  if source.testAt closed.offset isAsciiSpace then some (checked, closed) else none

end LineStart

end ChatBlocks.Markdown
