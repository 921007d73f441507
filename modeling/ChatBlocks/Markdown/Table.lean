import ChatBlocks.Markdown.Interrupt
import ChatBlocks.Markdown.Node

/-!
# Tables

A paragraph's first line heads a table when the next line is a delimiter row
with as many columns. A line inside a paragraph does so only if it starts with
a pipe. The rows follow until a line that starts another block. A row has as
many cells as the header: missing ones are empty, and cells beyond them are
left out.
-/

namespace ChatBlocks.Markdown

structure DelimiterScan where
  columns : Nat
  fresh : Bool
  pipe : Bool
  hyphen : Bool
  hyphenInColumn : Bool

namespace Source

def delimitersFrom? (source : Source) : Nat → Nat → DelimiterScan → Option (DelimiterScan × Nat)
  | 0, _, _ => none
  | fuel + 1, offset, scan =>
      match source.lineEnd? offset with
      | some next => some (scan, next)
      | none =>
          match source.at? offset with
          | some ' ' => source.delimitersFrom? fuel (offset + 1) scan
          | some ':' => source.delimitersFrom? fuel (offset + 1) { scan with fresh := false }
          | some '-' =>
              source.delimitersFrom? fuel (offset + 1)
                { scan with fresh := false, hyphen := true, hyphenInColumn := true }
          | some '|' =>
              if scan.hyphenInColumn then
                source.delimitersFrom? fuel (offset + 1)
                  { scan with
                    columns := scan.columns + 1
                    fresh := true
                    pipe := true
                    hyphenInColumn := false }
              else
                none
          | _ => none

/-- A delimiter row that starts at an offset: the number of its columns and
the offset behind its line. -/
def delimiterRow? (source : Source) (offset : Nat) : Option (Nat × Nat) := do
  let (indent, place) := (LineStart.ofOffset offset).takeUpTo source 4
  if indent = 4 ∨ source.size ≤ place.offset then none
  else
    let pipe := source.hasAt place.offset '|'
    let start := if pipe then place.offset + 1 else place.offset
    let (scan, stop) ← source.delimitersFrom? (source.size + 1) start ⟨0, true, pipe, false, false⟩
    let columns := if scan.fresh then scan.columns else scan.columns + 1
    if scan.pipe && scan.hyphen then some (columns, stop) else none

/-- The number of columns of a line with pipes: a pipe at either end of the
line divides nothing. -/
def headerColumns (source : Source) (start pipes lastPipe : Nat) : Nat :=
  let dividing := if source.hasAt (source.skipSpace start) '|' then pipes - 1 else pipes
  if (source.blankLine? (lastPipe + 1)).isSome then dividing else dividing + 1

/-- Counts the pipes of a line that have no backslash right before them. The result
has their number, the last one and the end of the line. -/
def linePipes (source : Source) : Nat → Bool → Nat → Nat → Nat → Nat × Nat × Nat
  | 0, _, pipes, lastPipe, offset => (pipes, lastPipe, offset)
  | fuel + 1, escaped, pipes, lastPipe, offset =>
      match source.at? offset with
      | none => (pipes, lastPipe, offset)
      | some character =>
          if isLineEnd character then (pipes, lastPipe, offset)
          else if character == '\\' then
            source.linePipes fuel true pipes lastPipe (offset + 1)
          else if character == '|' && !escaped then
            source.linePipes fuel false (pipes + 1) offset (offset + 1)
          else
            source.linePipes fuel false pipes lastPipe (offset + 1)

/-- The delimiter row below a line that ends at an offset: the number of its
columns and the offset behind it. -/
def delimiterRowBelow? (source : Source) (containers : List Container) (lineEnd : Nat) :
    Option (Nat × Nat) := do
  let next ← source.lineEnd? lineEnd
  let line := containedLine source containers next
  if lineEnd < source.size && line.inside then source.delimiterRow? line.place.offset else none

def headsTable (source : Source) (containers : List Container) (offset : Nat) : Bool :=
  source.hasAt offset '|'
    && (let (pipes, lastPipe, lineEnd) := source.linePipes (source.size + 1) false 0 offset offset
        match source.delimiterRowBelow? containers lineEnd with
        | some (columns, _) => columns == source.headerColumns offset pipes lastPipe
        | none => false)

def interruptsParagraph (source : Source) (containers : List Container) (inside : Bool)
    (offset : Nat) : Bool :=
  source.startsBlock (!inside) offset || source.headsTable containers offset

/-- Reads the cells of a row. The cells so far stand last one first. -/
def tableCells (source : Source) :
    Nat → Nat → List (Span × List Piece) → List (Span × List Piece) × Nat
  | 0, offset, cells => (cells, offset)
  | fuel + 1, offset, cells =>
      let start := if source.hasAt offset '|' then offset + 1 else offset
      let text := source.skipSpace start
      match source.lineEnd? text with
      | some next => (cells, next)
      | none =>
          let (scan, stop) := source.scanLine .cell [] text
          source.tableCells fuel stop
            ((⟨start, stop⟩, (scan.closeTrimmed source stop).reverse) :: cells)

/-- Reads a row with a number of columns. A row without any cell is none. -/
def tableRow? (source : Source) (columns offset : Nat) : Option (TableRow × Nat) :=
  let (reversed, stop) := source.tableCells (source.size + 1) offset []
  if reversed.isEmpty then none
  else
    let cells := reversed.reverse
    let missing := List.replicate (columns - cells.length) (Span.mk stop stop, [])
    some (⟨⟨offset, stop⟩, cells.take columns ++ missing⟩, stop)

def tableRows (source : Source) (containers : List Container) (columns : Nat) :
    Nat → Nat → List TableRow → List TableRow × Nat
  | 0, offset, rows => (rows, offset)
  | fuel + 1, offset, rows =>
      let line := containedLine source containers offset
      let start := (line.place.takeAll source).offset
      if !line.inside || source.startsBlock true start then (rows, offset)
      else
        match source.tableRow? columns start with
        | some (row, next) => source.tableRows containers columns fuel next (row :: rows)
        | none => (rows, offset)

end Source

end ChatBlocks.Markdown
