import ChatBlocks.Markdown.Definition
import ChatBlocks.Markdown.Table

/-!
# Reading the block structure

A document is read one block after the other. Each round looks at one line:
it leaves the containers that the line does not go on with, enters those the
line starts, and reads the block that begins there, with all its lines.
Containers that are open lie on a spine, innermost first.

A list is tight unless blank lines stand between two of its items or between
two blocks of an item.
-/

namespace ChatBlocks.Markdown

inductive OpenKind where
  | list (mark : Char) (first : Nat) (tight : Bool)
  | item (indent : Nat)
  | quote
  | footnote
  deriving DecidableEq

structure OpenContainer where
  kind : OpenKind
  start : Nat
  /-- The blocks so far, last one first. -/
  children : List Node

def OpenKind.container : OpenKind → Container
  | .list .. => .list
  | .item indent => .item indent
  | .quote => .quote
  | .footnote => .footnote

def OpenContainer.close (container : OpenContainer) (stop : Nat) : Node :=
  let span := Span.mk container.start stop
  let children := container.children.reverse
  match container.kind with
  | .list mark first tight =>
      let ordered := mark == '.' || mark == ')'
      .list (if ordered then some first else none) span
        (if tight then children.map Node.tightenItem else children)
  | .item indent => .item indent span children
  | .quote => .quote span children
  | .footnote => .footnote span children

structure BlockState where
  /-- The open containers, innermost first. -/
  spine : List OpenContainer
  /-- The blocks outside all containers, last one first. -/
  roots : List Node
  blank : Bool
  /-- Where the content of an item begins whose first line is empty. -/
  emptyItem : Option Nat
  checkbox : Option Piece
  definitions : List (String × LinkDefinition)
  footnotes : List String

namespace BlockState

def initial : BlockState := ⟨[], [], false, none, none, [], []⟩

def containers (state : BlockState) : List Container :=
  (state.spine.map fun container => container.kind.container).reverse

def add (state : BlockState) (node : Node) : BlockState :=
  match state.spine with
  | [] => { state with roots := node :: state.roots }
  | container :: rest =>
      { state with spine := { container with children := node :: container.children } :: rest }

def enter (state : BlockState) (kind : OpenKind) (start : Nat) : BlockState :=
  { state with spine := ⟨kind, start, []⟩ :: state.spine }

def leave (state : BlockState) (stop : Nat) : BlockState :=
  match state.spine with
  | [] => state
  | container :: rest =>
      let state := { state with spine := rest }.add (container.close stop)
      match container.kind with
      | .list _ _ true => { state with emptyItem := none }
      | _ => state

def leaveTo (count stop : Nat) : Nat → BlockState → BlockState
  | 0, state => state
  | fuel + 1, state =>
      if state.spine.length ≤ count then state else leaveTo count stop fuel (state.leave stop)

/-- Records that a block begins behind a blank line inside an item: the list
is not tight then. The list is the container around the innermost one. -/
def loosenAround (state : BlockState) : BlockState :=
  if state.blank then
    match state.spine with
    | inner :: ⟨.list mark first _, start, children⟩ :: rest =>
        { state with
          blank := false
          spine := inner :: ⟨.list mark first false, start, children⟩ :: rest }
    | _ => { state with blank := false }
  else
    state

/-- Leaves the innermost container if it is a list, before a block that is no
item of it. -/
def finishList (state : BlockState) (stop : Nat) : BlockState :=
  match state.spine with
  | ⟨.list .., _, _⟩ :: _ => (state.leave stop).loosenAround
  | _ => state.loosenAround

/-- Leaves an item whose first line is empty and is followed by a blank line:
such an item has no content. -/
def finishEmptyItem (state : BlockState) : BlockState :=
  let left :=
    match state.emptyItem, state.blank, state.spine with
    | some stop, true, ⟨.item _, _, _⟩ :: _ => state.leave stop
    | _, _, _ => state
  { left with emptyItem := none }

/-- Goes on with the innermost list, if it has the given mark, or starts a new
one. -/
def continueList (state : BlockState) (start : Nat) (mark : Char) (first : Nat) : BlockState :=
  let state := state.finishEmptyItem
  let startList (state : BlockState) : BlockState :=
    { state.enter (.list mark first true) start with blank := false }
  match state.spine with
  | [] => startList state
  | ⟨.list openMark openFirst tight, openStart, children⟩ :: rest =>
      if openMark == mark then
        { state with
          spine := ⟨.list openMark openFirst (tight && !state.blank), openStart, children⟩ :: rest
          blank := false }
      else
        startList (state.finishList start)
  | _ => startList (state.finishList start)

/-- Records a blank line. Inside an item that has no content yet, the lines
that follow need no indentation to go on with it. -/
def addBlankLine (state : BlockState) : BlockState :=
  match state.spine with
  | ⟨.quote, _, _⟩ :: _ => state
  | ⟨.item _, start, children⟩ :: rest =>
      if state.emptyItem.isSome then
        { state with spine := ⟨.item 0, start, children⟩ :: rest, blank := true }
      else
        { state with blank := true }
  | _ => { state with blank := true }

/-- Adds a definition, unless its label is defined already. -/
def define (state : BlockState) (label : String) (definition : LinkDefinition) : BlockState :=
  if state.definitions.any (·.1 == label) then state
  else { state with definitions := state.definitions ++ [(label, definition)] }

end BlockState

abbrev Step := BlockState × Nat

/-- The lines of an indented code block, or of the content of a fenced one:
the spaces that are left of a tab, and the line, with a line feed at its end
whatever the source has there. -/
def codeLine (source : Source) (spare start stop : Nat) : List (String × Span) :=
  let spaces := String.ofList (List.replicate spare ' ')
  let padding := if 0 < spare then [(spaces, Span.mk start start)] else []
  if start + 2 ≤ stop && source.hasAt (stop - 2) '\r' && source.hasAt (stop - 1) '\n' then
    padding ++ [(source.slice start (stop - 2), ⟨start, stop - 2⟩),
      (source.slice (stop - 1) stop, ⟨stop - 1, stop⟩)]
  else
    padding ++ [(source.slice start stop, ⟨start, stop⟩)]

structure IndentedScan where
  /-- The texts up to the last line that is not blank, last one first. -/
  texts : List (String × Span)
  /-- The texts of the blank lines behind them, last one first. -/
  pending : List (String × Span)
  /-- The end of the last line that is not blank. -/
  stop : Nat
  blank : Bool

def indentedLines (source : Source) (containers : List Container) :
    Nat → Nat → Nat → IndentedScan → IndentedScan × Nat
  | 0, _, offset, scan => (scan, offset)
  | fuel + 1, spare, offset, scan =>
      let next := source.nextLine offset
      let line := (codeLine source spare offset next).reverse
      let scan :=
        if scan.blank then { scan with pending := line ++ scan.pending }
        else
          { scan with texts := line ++ (scan.pending ++ scan.texts), pending := [], stop := next }
      if source.size ≤ next then (scan, next)
      else
        let contained := containedLine source containers next
        let (indented, place) := contained.place.takeExactly source 4
        if !contained.inside || !(indented || place.isAtEnd source) then (scan, next)
        else
          let blank := (source.blankLine? place.offset).isSome
          indentedLines source containers fuel place.spareColumns place.offset
            { scan with blank }

def readIndentedCode (source : Source) (state : BlockState) (place : LineStart) : Step :=
  let (scan, next) := indentedLines source state.containers (source.size + 1) place.spareColumns
    place.offset ⟨[], [], place.offset, false⟩
  ({ state.add (.code .indented ⟨place.offset, scan.stop⟩ scan.texts.reverse) with
      blank := scan.blank }, next)

/-- Reads the content of a fenced code block: its texts, last one first, the
end of the block and the offset to go on from. -/
def fencedLines (source : Source) (containers : List Container) (indent : Nat) (mark : Char)
    (length : Nat) : Nat → Nat → List (String × Span) → List (String × Span) × Nat × Nat
  | 0, offset, texts => (texts, offset, offset)
  | fuel + 1, offset, texts =>
      let line := containedLine source containers offset
      if !line.inside then (texts, offset, offset)
      else
        let (_, place) := line.place.takeExactly source indent
        let (deep, closing) := place.takeExactly source (4 - indent)
        let closed :=
          if deep then none else source.closingFence? mark length closing.offset
        match closed with
        | some stop => (texts, stop, (source.blankLine? stop).getD stop)
        | none =>
            let next := source.nextLine place.offset
            let text := (codeLine source place.spareColumns place.offset next).reverse
            fencedLines source containers indent mark length fuel next (text ++ texts)

def readFencedCode (source : Source) (state : BlockState) (start indent : Nat) (mark : Char)
    (length : Nat) : Step :=
  let infoStart := source.skipSpace (start + length)
  let next := source.nextLine infoStart
  let infoEnd := next - source.countBack isAsciiSpace infoStart next
  let info := unescape false (source.slice infoStart infoEnd)
  let (texts, stop, next) :=
    fencedLines source state.containers indent mark length (source.size + 1) next []
  (state.add (.code (.fenced info) ⟨start, stop⟩ texts.reverse), next)

def markedHtmlEnd (source : Source) (containers : List Container) (mark : List Char) :
    Nat → Nat → Nat × Nat
  | 0, offset => (offset, offset)
  | fuel + 1, offset =>
      let next := source.nextLine offset
      let line := containedLine source containers next
      let found := ((source.take next).find? mark offset).isSome
      if !line.inside || found then (next, next)
      else if source.size ≤ line.place.offset then (line.place.offset, next)
      else markedHtmlEnd source containers mark fuel line.place.offset

def openHtmlEnd (source : Source) (containers : List Container) : Nat → Nat → Nat × Nat
  | 0, offset => (offset, offset)
  | fuel + 1, offset =>
      let next := source.nextLine offset
      let line := containedLine source containers next
      if !line.inside || line.place.isAtEnd source then (next, next)
      else if (source.blankLine? line.place.offset).isSome then (line.place.offset, next)
      else openHtmlEnd source containers fuel line.place.offset

/-- Reads a block of HTML, if one starts at an offset. -/
def readHtml? (source : Source) (state : BlockState) (start : Nat) : Option Step := do
  if source.hasAt start '<' then
    let (stop, next) ←
      match source.htmlBlockEnd? (start + 1) with
      | some mark =>
          some (markedHtmlEnd source state.containers mark.toList (source.size + 1) start)
      | none =>
          if source.isBlockTag (start + 1) || source.isTagLine start then
            some (openHtmlEnd source state.containers (source.size + 1) start)
          else
            none
    some (state.add (.html ⟨start, stop⟩), next)
  else
    none

/-- Where the text of a heading ends: without the spaces at the end of its
line, and without number signs at the end if a space stands before them or
nothing else is left. -/
def headingTextEnd (source : Source) (start stop : Nat) : Nat :=
  let trimmed := stop - source.countBack (fun c => c == ' ' || isLineEnd c) start stop
  let closer := trimmed - source.countBack (· == '#') start trimmed
  if closer = start then start
  else
    let spaces := source.countBack (· == ' ') start closer
    if 0 < spaces then closer - spaces else trimmed

def cutLastPiece (stop : Nat) : List Piece → List Piece
  | [] => []
  | piece :: rest => { piece with stop } :: rest

def readHeading (source : Source) (state : BlockState) (start rank : Nat) (level : HeadingLevel) :
    Step :=
  let behind := start + rank
  match source.lineEnd? behind with
  | some next => (state.add (.heading level ⟨start, next⟩ []), next)
  | none =>
      let textStart := source.skipSpace behind
      let (scan, stop) := source.scanLine .flow [] textStart
      let (pieces, next) :=
        if stop < source.size then
          ((scan.closeBroken source stop).1, (source.lineEnd? stop).getD stop)
        else
          (scan.closeTrimmed source stop, stop)
      let textEnd := headingTextEnd source textStart next
      (state.add (.heading level ⟨start, next⟩ (cutLastPiece textEnd pieces).reverse), next)

def levelOfRank (rank : Nat) : HeadingLevel :=
  (HeadingLevel.ofRank? rank).getD .six

/-- The table that a line heads, if the next line is its delimiter row: its
rows and the offset behind it. A backslash at the end of the line forbids it. -/
def tableFrom? (source : Source) (containers : List Container) (start : Nat) (scan : LineScan)
    (lineEnd : Nat) : Option (Node × Nat) := do
  if 0 < scan.pipes && !source.endsWithBackslash lineEnd then
    let (columns, bodyStart) ← source.delimiterRowBelow? containers lineEnd
    if columns = source.headerColumns start scan.pipes scan.lastPipe then
      let (header, _) ← source.tableRow? columns start
      let (rows, stop) := source.tableRows containers columns (source.size + 1) bodyStart []
      some (.table ⟨start, stop⟩ (header :: rows.reverse), stop)
    else
      none
  else
    none

/-- How a paragraph ends: as itself or as a heading, with its pieces, last one
first, its end and the offset to go on from. -/
structure ParagraphEnd where
  level : Option HeadingLevel
  pieces : List Piece
  stop : Nat

/-- A hard break at the end of a paragraph is no break; its backslash is text. -/
def withoutBreak (pieces : List Piece) (lineBreak : Piece) : List Piece :=
  match lineBreak.kind with
  | .hardBreak true => appendTextPiece pieces lineBreak.start (lineBreak.start + 1)
  | _ => pieces

def paragraphLines (source : Source) (containers : List Container) :
    Nat → LineScan → Nat → ParagraphEnd
  | 0, scan, stop => ⟨none, scan.pieces, stop⟩
  | fuel + 1, scan, lineEnd =>
      if source.size ≤ lineEnd then ⟨none, scan.closeTrimmed source lineEnd, lineEnd⟩
      else
        let (pieces, lineBreak) := scan.closeBroken source lineEnd
        let next := lineBreak.stop
        let line := containedLine source containers next
        let (indented, place) := line.place.takeExactly source 4
        let underline := if !indented && line.inside then source.underline? place.offset else none
        match underline with
        | some (rank, stop) => ⟨some (levelOfRank rank), withoutBreak pieces lineBreak, stop⟩
        | none =>
            let text := place.takeAll source
            if (!indented && source.interruptsParagraph containers line.inside place.offset)
                || text.isAtEnd source then
              ⟨none, withoutBreak pieces lineBreak, next⟩
            else
              let (scan, stop) := source.scanLine .flow (lineBreak :: pieces) text.offset
              paragraphLines source containers fuel scan stop

/-- Reads a paragraph, or the table or heading that it turns out to be. -/
def readParagraph (source : Source) (state : BlockState) (start : Nat) : Step :=
  let leading := state.checkbox.toList
  let cleared := { state with checkbox := none }
  let (scan, lineEnd) := source.scanLine .flow leading start
  match tableFrom? source state.containers start scan lineEnd with
  | some (table, next) => (cleared.add table, next)
  | none =>
      let result := paragraphLines source state.containers (source.size + 1) scan lineEnd
      let span := Span.mk start result.stop
      let pieces := result.pieces.reverse
      match result.level with
      | some level => (cleared.add (.heading level span pieces), result.stop)
      | none => (cleared.add (.paragraph false span pieces), result.stop)

inductive Entered where
  /-- A block begins at a place; `lineStart` is where its line starts. -/
  | block (state : BlockState) (lineStart : Nat) (place : LineStart)
  /-- A paragraph begins behind a checkbox, whatever its first line looks like. -/
  | paragraph (state : BlockState) (start : Nat)
  | emptyItem (state : BlockState) (next : Nat)

def enterItem (source : Source) (state : BlockState) (start lineStart : Nat) (marker : ItemMarker)
    (behind : LineStart) : Entered :=
  let state := state.continueList start marker.mark marker.number
  let state := state.enter (.item marker.indent) start
  match source.blankLine? behind.offset with
  | some next => .emptyItem { state with emptyItem := some next } next
  | none =>
      match behind.takeCheckbox? source with
      | none => .block state lineStart behind
      | some (checked, place) =>
          match source.blankLine? place.offset with
          | some next =>
              let task := Node.task checked ⟨behind.offset, place.offset⟩
              .emptyItem { state.add task with emptyItem := some next } next
          | none =>
              let task : Piece := ⟨.task checked, behind.offset, place.offset⟩
              .paragraph { state with checkbox := some task } (source.skipSpace place.offset)

def enterContainers (source : Source) : Nat → BlockState → Nat → LineStart → Entered
  | 0, state, lineStart, place => .block state lineStart place
  | fuel + 1, state, lineStart, place =>
      let (indent, indented) := place.takeUpTo source 4
      if 4 ≤ indent then .block state lineStart place
      else
        match source.footnoteLabel? indented.offset with
        | some (label, stop) =>
            let state := (state.finishList indented.offset).enter .footnote indented.offset
            enterContainers source fuel
              { state with footnotes := foldLabel label :: state.footnotes } stop (.ofOffset stop)
        | none =>
            match indented.takeListMarker? source indent with
            | some (marker, behind) =>
                match enterItem source state (indented.offset - indent) lineStart marker behind with
                | .block state lineStart place => enterContainers source fuel state lineStart place
                | entered => entered
            | none =>
                match indented.takeQuoteMarker? source with
                | some behind =>
                    enterContainers source fuel
                      ((state.finishList lineStart).enter .quote indented.offset) lineStart behind
                | none => .block state lineStart place

/-- Reads the block that begins at a place which is no blank line. -/
def readBlock (source : Source) (state : BlockState) (lineStart : Nat) (place : LineStart) : Step :=
  let state := state.finishEmptyItem.finishList lineStart
  let (indent, indented) := place.takeUpTo source 4
  if indent = 4 then readIndentedCode source state indented
  else
    let start := indented.offset
    match readHtml? source state start with
    | some step => step
    | none =>
        match source.rule? start with
        | some next => (state.add (.rule ⟨start, next⟩), next)
        | none =>
            match source.headingRank? start with
            | some rank => readHeading source state start rank (levelOfRank rank)
            | none =>
                match source.fence? start with
                | some (mark, length) => readFencedCode source state start indent mark length
                | none =>
                    match linkDefinition? source state.containers start with
                    | some read =>
                        (state.define read.label read.definition,
                          (source.blankLine? read.stop).getD read.stop)
                    | none => readParagraph source state start

def readStep (source : Source) (state : BlockState) (lineStart : Nat) : Step :=
  let (count, place) := takeContainers source state.containers (.ofOffset lineStart)
  let state := BlockState.leaveTo count lineStart state.spine.length state
  match enterContainers source (source.size + 1) state lineStart place with
  | .emptyItem state next => (state, next)
  | .paragraph state start => readParagraph source state start
  | .block state lineStart place =>
      match source.blankLine? place.offset with
      | some next => (state.addBlankLine, next)
      | none => readBlock source state lineStart place

def readSteps (source : Source) : Nat → BlockState → Nat → BlockState
  | 0, state, _ => state
  | fuel + 1, state, offset =>
      if source.size ≤ offset then BlockState.leaveTo 0 offset state.spine.length state
      else
        let (state, next) := readStep source state offset
        readSteps source fuel state next

structure Outline where
  nodes : List Node
  definitions : List (String × LinkDefinition)
  footnotes : List String

/-- Reads the block structure of a document. Every step passes a byte or more. -/
def readOutline (source : Source) : Outline :=
  let state := readSteps source (source.size + 1) .initial 0
  ⟨state.roots.reverse, state.definitions, state.footnotes⟩

end ChatBlocks.Markdown
