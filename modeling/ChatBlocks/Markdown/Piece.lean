import ChatBlocks.Markdown.Entity
import ChatBlocks.Markdown.Punctuation
import ChatBlocks.Text.Blank

/-!
# The pieces of a line

A line of inline content is cut at the characters that may mean something. A
piece is a part of the source: text, or a mark that is paired with another one
later, or stays text. A backslash before punctuation is in no piece, and the
punctuation starts a piece of its own.
-/

namespace ChatBlocks.Markdown

inductive PieceKind where
  | text
  | reference (text : String)
  | emphasis (mark : Char) (count : Nat) (opens closes : Bool)
  /-- A run of backticks. A backslash before it takes its first one away when
  the run opens a code span, but not when it closes one. -/
  | backticks (count : Nat) (escaped : Bool)
  | angle
  | imageOpen
  | bracketOpen
  /-- A closing bracket; one that closed a label without a definition cannot
  refer to a definition again. -/
  | bracketClose (mayRefer : Bool)
  | softBreak
  | hardBreak (backslash : Bool)
  | task (checked : Bool)
  deriving DecidableEq

structure Piece where
  kind : PieceKind
  start : Nat
  stop : Nat
  deriving DecidableEq

inductive LineMode where
  | flow
  | cell
  deriving DecidableEq

/-- Adds text to pieces that stand last one first. Text right behind text is
one piece. -/
def appendTextPiece (pieces : List Piece) (start stop : Nat) : List Piece :=
  if start < stop then
    match pieces with
    | ⟨.text, first, last⟩ :: rest =>
        if last = start then ⟨.text, first, stop⟩ :: rest else ⟨.text, start, stop⟩ :: pieces
    | _ => ⟨.text, start, stop⟩ :: pieces
  else
    pieces

namespace Source

def followsPipe (source : Source) (offset : Nat) : Bool :=
  0 < offset && source.hasAt (offset - 1) '|' && !(1 < offset && source.hasAt (offset - 2) '\\')

def opensEmphasis (source : Source) (mode : LineMode) (mark : Char) (count offset : Nat) : Bool :=
  match source.charAt? (offset + count) with
  | none => false
  | some next =>
      if Text.isWhiteSpace next then false
      else
        match source.charBefore? offset with
        | none => true
        | some previous =>
            if mode == .cell && source.followsPipe offset then true
            else if mode == .cell && next == '|' then false
            else if mark == '*' && !isPunctuation next then true
            else if mark == '~' && 1 < count then true
            else if mark == '~' && previous == '~' && !isPunctuation next then true
            else Text.isWhiteSpace previous || isPunctuation previous

def closesEmphasis (source : Source) (mode : LineMode) (mark : Char) (count offset : Nat) :
    Bool :=
  match source.charBefore? offset with
  | none => false
  | some previous =>
      if Text.isWhiteSpace previous then false
      else
        match source.charAt? (offset + count) with
        | none => true
        | some next =>
            if mode == .cell && source.followsPipe offset then false
            else if mode == .cell && next == '|' then true
            else if (mark == '*' || (mark == '~' && 1 < count)) && !isPunctuation previous then true
            else if mark == '~' && previous == '~' then true
            else Text.isWhiteSpace next || isPunctuation next

end Source

structure LineScan where
  /-- The pieces so far, last one first. -/
  pieces : List Piece
  /-- Where the text begins that is in no piece yet. -/
  textStart : Nat
  pipes : Nat
  lastPipe : Nat

namespace LineScan

def add (scan : LineScan) (offset : Nat) (piece : Piece) : LineScan :=
  { scan with
    pieces := piece :: appendTextPiece scan.pieces scan.textStart offset
    textStart := piece.stop }

def restartText (scan : LineScan) (offset textStart : Nat) : LineScan :=
  { scan with
    pieces := appendTextPiece scan.pieces scan.textStart offset
    textStart }

end LineScan

namespace Source

def scanBackslash (source : Source) (mode : LineMode) (offset : Nat) (scan : LineScan) :
    LineScan × Nat :=
  if !source.isEscapeAt offset then (scan, offset + 1)
  else if source.hasAt (offset + 1) '\x60' then
    let count := source.runLength '\x60' (offset + 1)
    let stop := offset + 1 + count
    (scan.add offset ⟨.backticks count true, offset + 1, stop⟩, stop)
  else if mode == .cell && source.startsWith (offset + 1) ['\\', '|'] then
    (scan.restartText offset (offset + 2), offset + 3)
  else
    (scan.restartText offset (offset + 1), offset + 2)

def scanEmphasis (source : Source) (mode : LineMode) (mark : Char) (offset : Nat)
    (scan : LineScan) : LineScan × Nat :=
  let count := source.runLength mark offset
  let stop := offset + count
  let opens := source.opensEmphasis mode mark count offset
  let closes := source.closesEmphasis mode mark count offset
  if (opens || closes) && (mark != '~' || count ≤ 2) then
    (scan.add offset ⟨.emphasis mark count opens closes, offset, stop⟩, stop)
  else
    (scan, stop)

/-- Reads one character or mark that does not end the line, and gives the
offset to go on from. -/
def scanMark (source : Source) (mode : LineMode) (character : Char) (offset : Nat)
    (scan : LineScan) : LineScan × Nat :=
  if character == '\\' then source.scanBackslash mode offset scan
  else if character == '*' || character == '_' || character == '~' then
    source.scanEmphasis mode character offset scan
  else if character == '\x60' then
    let stop := offset + source.runLength '\x60' offset
    (scan.add offset ⟨.backticks (stop - offset) false, offset, stop⟩, stop)
  else if character == '<' && !source.hasAt (offset + 1) '\\' then
    (scan.add offset ⟨.angle, offset, offset + 1⟩, offset + 1)
  else if character == '!' && source.hasAt (offset + 1) '[' then
    (scan.add offset ⟨.imageOpen, offset, offset + 2⟩, offset + 2)
  else if character == '[' then
    (scan.add offset ⟨.bracketOpen, offset, offset + 1⟩, offset + 1)
  else if character == ']' then
    (scan.add offset ⟨.bracketClose true, offset, offset + 1⟩, offset + 1)
  else if character == '&' then
    match source.reference? offset with
    | some (text, stop) => (scan.add offset ⟨.reference text, offset, stop⟩, stop)
    | none => (scan, offset + 1)
  else if character == '|' && !(0 < offset && source.hasAt (offset - 1) '\\') then
    ({ scan with pipes := scan.pipes + 1, lastPipe := offset }, offset + 1)
  else
    (scan, offset + 1)

def endsLine (source : Source) (mode : LineMode) (character : Char) (offset : Nat) : Bool :=
  isLineEnd character
    || (mode == .cell && character == '|' && !(0 < offset && source.hasAt (offset - 1) '\\'))

/-- Reads pieces up to the end of the line, or of the table cell. The result
has the offset that ends it. -/
def scanLineFrom (source : Source) (mode : LineMode) : Nat → Nat → LineScan → LineScan × Nat
  | 0, offset, scan => (scan, offset)
  | fuel + 1, offset, scan =>
      match source.at? offset with
      | none => (scan, offset)
      | some character =>
          if source.endsLine mode character offset then (scan, offset)
          else
            let (scan, next) := source.scanMark mode character offset scan
            source.scanLineFrom mode fuel next scan

def scanLine (source : Source) (mode : LineMode) (pieces : List Piece) (offset : Nat) :
    LineScan × Nat :=
  source.scanLineFrom mode (source.size + 1) offset ⟨pieces, offset, 0, offset⟩

end Source

def LineScan.closeTrimmed (source : Source) (scan : LineScan) (stop : Nat) : List Piece :=
  let space := source.countBack isLineSpace scan.textStart stop
  appendTextPiece scan.pieces scan.textStart (stop - space)

/-- Whether a line that ends at an offset ends with a backslash that is not
escaped itself. -/
def Source.endsWithBackslash (source : Source) (stop : Nat) : Bool :=
  source.countBack (· == '\\') 0 stop % 2 == 1

/-- The pieces of a line that ends at `stop` and is followed by another one,
and the break between the two. A backslash, or two spaces, at the end of the
line makes the break a hard one. -/
def LineScan.closeBroken (source : Source) (scan : LineScan) (stop : Nat) :
    List Piece × Piece :=
  let next := (source.lineEnd? stop).getD stop
  if source.endsWithBackslash stop && next < source.size then
    (appendTextPiece scan.pieces scan.textStart (stop - 1),
      ⟨.hardBreak true, stop - 1, next⟩)
  else
    let space := source.countBack isLineSpace 0 stop
    let pieces := appendTextPiece scan.pieces scan.textStart (stop - space)
    if 2 ≤ space then (pieces, ⟨.hardBreak false, stop - space, next⟩)
    else (pieces, ⟨.softBreak, stop, next⟩)

end ChatBlocks.Markdown
