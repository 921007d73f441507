import ChatBlocks.Markdown.Event
import ChatBlocks.Render.Plain
import ChatBlocks.Text.Blank
import ChatBlocks.Text.Cursor
import ChatBlocks.Text.Lines

/-!
# Building the token tree

The events of a document are folded into its token tree. Open containers lie
on a stack of frames, innermost first; a container that is left becomes a
token of the frame below it, or of the output when no frame is left.

Any sequence of events gives a tree: a `leave` without an open container does
nothing, and a container that is never left ends with the source. A range that
is no slice of the source gives the empty text.
-/

namespace ChatBlocks

open Markdown (Event LocatedEvent Span Tag)

structure LexOptions where
  /-- Whether a paragraph of the top level that holds one image and nothing
  else becomes that image. -/
  imageBlocks : Bool := false
  deriving DecidableEq, Repr

inductive FrameKind where
  | paragraph
  | heading (depth : UInt8)
  | blockquote
  | code (lang : Option String) (text : String)
  | htmlBlock
  | list (ordered : Bool) (start : UInt64) (items : List ListItem)
  | item (task : Option Bool)
  | table (header : List TableCell) (rows : List (List TableCell))
  | tableHead (cells : List TableCell)
  | tableRow (cells : List TableCell)
  | tableCell
  | emphasis
  | strong
  | strikethrough
  | link (href : String) (title : Option String)
  | image (href : String) (title : Option String)
  | other

namespace FrameKind

def holdsInline : FrameKind → Bool
  | .paragraph | .heading _ | .tableCell | .emphasis | .strong | .strikethrough | .link ..
  | .image .. => true
  | .blockquote | .code .. | .htmlBlock | .list .. | .item _ | .table .. | .tableHead _
  | .tableRow _ | .other => false

def isBlockquote : FrameKind → Bool
  | .blockquote => true
  | _ => false

def isTableCell : FrameKind → Bool
  | .tableCell => true
  | _ => false

/-- The language of a code block: the trimmed info string, unless it is empty. -/
def language : Markdown.CodeBlockKind → Option String
  | .indented => none
  | .fenced info => Text.nonEmpty (Text.trim info)

def ofTag : Tag → FrameKind
  | .paragraph => .paragraph
  | .heading level => .heading level.rank
  | .blockquote => .blockquote
  | .codeBlock kind => .code (language kind) ""
  | .htmlBlock => .htmlBlock
  | .list first => .list first.isSome (first.getD 1) []
  | .item => .item none
  | .table => .table [] []
  | .tableHead => .tableHead []
  | .tableRow => .tableRow []
  | .tableCell => .tableCell
  | .emphasis => .emphasis
  | .strong => .strong
  | .strikethrough => .strikethrough
  | .link destination title => .link destination (Text.nonEmpty title)
  | .image destination title => .image destination (Text.nonEmpty title)
  | .footnoteDefinition | .definitionList | .definitionTitle | .definitionBody | .superscript
  | .subscript | .metadata => .other

end FrameKind

/-- An open container with the tokens it holds so far. -/
structure Frame where
  kind : FrameKind
  tokens : List Token

/-- Removes one quote marker: any spaces and tabs, the sign, and one space
after it. -/
def stripQuoteMarker? (line : List Char) : Option (List Char) :=
  match line.dropWhile fun character => character == ' ' || character == '\t' with
  | '>' :: ' ' :: rest => some rest
  | '>' :: rest => some rest
  | _ => none

def stripQuoteMarkers : Nat → List Char → List Char
  | 0, line => line
  | depth + 1, line =>
      match stripQuoteMarker? line with
      | some rest => stripQuoteMarkers depth rest
      | none => line

/-- Removes the markers of enclosing quotes from every line but the first. -/
def stripContinuationLines (depth : Nat) (source : String) : String :=
  match Text.splitLines source.toList with
  | [] => ""
  | first :: rest =>
      Text.joinLines ((first :: rest.map (stripQuoteMarkers depth)).map String.ofList)

/-- The characters that a backslash escapes: ASCII punctuation. -/
def isAsciiPunctuation (character : Char) : Bool :=
  let code := character.toNat
  (0x21 ≤ code && code ≤ 0x2F) || (0x3A ≤ code && code ≤ 0x40)
    || (0x5B ≤ code && code ≤ 0x60) || (0x7B ≤ code && code ≤ 0x7E)

/-- Adds an inline token to a sequence. A text leaf is merged into a text leaf
right before it. -/
def appendInline : List Token → Token → List Token
  | [], token => [token]
  | [.text text none raw], .text nextText none nextRaw =>
      [.text (text ++ nextText) none (raw ++ nextRaw)]
  | head :: rest, token =>
      match rest with
      | [] => [head, token]
      | next :: more => head :: appendInline (next :: more) token

/-- Adds an inline token to the content of a list item, where neighbouring
inline tokens form one run. -/
def appendToRun : List Token → Token → List Token
  | [], token => [.text token.raw (some [token]) token.raw]
  | [.text text (some run) raw], token =>
      [.text (text ++ token.raw) (some (appendInline run token)) (raw ++ token.raw)]
  | head :: rest, token =>
      match rest with
      | [] => [head, .text token.raw (some [token]) token.raw]
      | next :: more => head :: appendToRun (next :: more) token

structure Builder where
  source : String
  options : LexOptions
  /-- The open containers, innermost first. -/
  stack : List Frame
  out : List Token
  /-- Where the last block of the top level ended. -/
  lastBlockEnd : Option Nat

namespace Builder

def start (source : String) (options : LexOptions) : Builder :=
  ⟨source, options, [], [], none⟩

def quoteDepth (builder : Builder) : Nat :=
  (builder.stack.filter fun frame => frame.kind.isBlockquote).length

/-- The source of a range, without the markers of the open blockquotes. -/
def raw (builder : Builder) (span : Span) : String :=
  let source := (Text.slice? builder.source span.start span.stop).getD ""
  if builder.quoteDepth = 0 then source
  else stripContinuationLines builder.quoteDepth source

/-- The escaped character that stands at an offset: punctuation behind an odd
number of backslashes. Inside a table cell a pipe is content, never escaped. -/
def escapedAt? (builder : Builder) (offset : Nat) : Option Char :=
  match Text.cursorAt? builder.source offset with
  | some ⟨before, character :: _⟩ =>
      if isAsciiPunctuation character
          && !(character == '|' && builder.stack.any fun frame => frame.kind.isTableCell)
          && (before.takeWhile (· == '\\')).length % 2 == 1 then
        some character
      else
        none
  | _ => none

def pushInline (builder : Builder) (token : Token) : Builder :=
  match builder.stack with
  | [] => { builder with out := builder.out ++ [token] }
  | ⟨.item task, tokens⟩ :: below =>
      { builder with stack := ⟨.item task, appendToRun tokens token⟩ :: below }
  | ⟨kind, tokens⟩ :: below =>
      { builder with stack := ⟨kind, appendInline tokens token⟩ :: below }

/-- The white space between the last block of the top level and an offset. -/
def gapBefore? (builder : Builder) (offset : Nat) : Option String := do
  let stop ← builder.lastBlockEnd
  let gap ← Text.slice? builder.source stop offset
  if !gap.isEmpty && Text.isBlank gap then some gap else none

/-- Adds a block to the innermost container. At the top level the white space
before it is kept as a token of its own. -/
def pushBlock (builder : Builder) (token : Token) (span : Span) : Builder :=
  match builder.stack with
  | [] =>
      let space :=
        match builder.gapBefore? span.start with
        | some gap => [Token.space gap]
        | none => []
      { builder with
        out := builder.out ++ space ++ [token]
        lastBlockEnd := some span.stop }
  | ⟨kind, tokens⟩ :: below =>
      { builder with stack := ⟨kind, tokens ++ [token]⟩ :: below }

/-- Adds text outside of code: an escape becomes a leaf of its own, written
with its backslash, and the text goes on behind it. -/
def pushPlainText (builder : Builder) (text : String) (span : Span) : Builder :=
  let leaf (builder : Builder) (text : String) (span : Span) : Builder :=
    builder.pushInline (.text text none (builder.raw span))
  match builder.escapedAt? span.start, text.toList with
  | some escaped, first :: rest =>
      if first = escaped then
        let mark := builder.raw ⟨span.start - 1, span.start + 1⟩
        let builder := builder.pushInline (.other mark)
        if rest.isEmpty then builder
        else leaf builder (String.ofList rest) ⟨span.start + 1, span.stop⟩
      else
        leaf builder text span
  | _, _ => leaf builder text span

/-- Adds text to the innermost container. A code block takes it as it is. -/
def pushText (builder : Builder) (text : String) (span : Span) : Builder :=
  match builder.stack with
  | ⟨.code lang code, tokens⟩ :: below =>
      { builder with stack := ⟨.code lang (code ++ text), tokens⟩ :: below }
  | _ => builder.pushPlainText text span

/-- Records a checkbox, if the innermost container is a list item. -/
def pushTask (builder : Builder) (checked : Bool) : Builder :=
  match builder.stack with
  | ⟨.item _, tokens⟩ :: below =>
      { builder with stack := ⟨.item (some checked), tokens⟩ :: below }
  | _ => builder

/-- Adds raw HTML. An HTML block keeps its source as a whole, so its content
is not added to it. -/
def pushHtml (builder : Builder) (html : String) : Builder :=
  match builder.stack with
  | ⟨.htmlBlock, _⟩ :: _ => builder
  | _ => builder.pushInline (.html html)

def dropFinalNewline (text : String) : String :=
  match text.toList.reverse with
  | '\n' :: rest => String.ofList rest.reverse
  | _ => text

def pushItem (builder : Builder) (item : ListItem) (span : Span) : Builder :=
  match builder.stack with
  | ⟨.list ordered start items, tokens⟩ :: below =>
      { builder with stack := ⟨.list ordered start (items ++ [item]), tokens⟩ :: below }
  | _ => builder.pushBlock (.other item.raw) span

def pushTableHead (builder : Builder) (cells : List TableCell) (raw : String) (span : Span) :
    Builder :=
  match builder.stack with
  | ⟨.table _ rows, tokens⟩ :: below =>
      { builder with stack := ⟨.table cells rows, tokens⟩ :: below }
  | _ => builder.pushBlock (.other raw) span

def pushTableRow (builder : Builder) (cells : List TableCell) (raw : String) (span : Span) :
    Builder :=
  match builder.stack with
  | ⟨.table header rows, tokens⟩ :: below =>
      { builder with stack := ⟨.table header (rows ++ [cells]), tokens⟩ :: below }
  | _ => builder.pushBlock (.other raw) span

def pushTableCell (builder : Builder) (cell : TableCell) (span : Span) : Builder :=
  match builder.stack with
  | ⟨.tableHead cells, tokens⟩ :: below =>
      { builder with stack := ⟨.tableHead (cells ++ [cell]), tokens⟩ :: below }
  | ⟨.tableRow cells, tokens⟩ :: below =>
      { builder with stack := ⟨.tableRow (cells ++ [cell]), tokens⟩ :: below }
  | _ => builder.pushBlock (.other cell.raw) span

def topHoldsInline (builder : Builder) : Bool :=
  match builder.stack with
  | frame :: _ => frame.kind.holdsInline
  | [] => false

def pushParagraph (builder : Builder) (tokens : List Token) (raw : String) (span : Span) :
    Builder :=
  match tokens with
  | [.image href title text imageRaw] =>
      if builder.options.imageBlocks && builder.stack.isEmpty then
        builder.pushBlock (.image href title text imageRaw) span
      else
        builder.pushBlock (.paragraph tokens raw) span
  | _ => builder.pushBlock (.paragraph tokens raw) span

def deliver (builder : Builder) (frame : Frame) (span : Span) : Builder :=
  let raw := builder.raw span
  match frame.kind with
  | .paragraph => builder.pushParagraph frame.tokens raw span
  | .heading depth => builder.pushBlock (.heading depth frame.tokens raw) span
  | .blockquote => builder.pushBlock (.blockquote frame.tokens raw) span
  | .code lang text => builder.pushBlock (.code lang (dropFinalNewline text) raw) span
  | .htmlBlock => builder.pushBlock (.html raw) span
  | .list ordered start items => builder.pushBlock (.list ordered start items raw) span
  | .item task => builder.pushItem ⟨task, frame.tokens, raw⟩ span
  | .table header rows => builder.pushBlock (.table header rows raw) span
  | .tableHead cells => builder.pushTableHead cells raw span
  | .tableRow cells => builder.pushTableRow cells raw span
  | .tableCell => builder.pushTableCell ⟨frame.tokens, raw⟩ span
  | .emphasis => builder.pushInline (.em frame.tokens raw)
  | .strong => builder.pushInline (.strong frame.tokens raw)
  | .strikethrough => builder.pushInline (.del frame.tokens raw)
  | .link href title => builder.pushInline (.link href title frame.tokens raw)
  | .image href title => builder.pushInline (.image href title (plainText frame.tokens) raw)
  | .other =>
      if builder.topHoldsInline then builder.pushInline (.other raw)
      else builder.pushBlock (.other raw) span

def leave (builder : Builder) (span : Span) : Builder :=
  match builder.stack with
  | [] => builder
  | frame :: below => deliver { builder with stack := below } frame span

def enter (builder : Builder) (tag : Tag) : Builder :=
  { builder with stack := ⟨.ofTag tag, []⟩ :: builder.stack }

def push (builder : Builder) (located : LocatedEvent) : Builder :=
  let span := located.span
  match located.event with
  | .enter tag => builder.enter tag
  | .leave => builder.leave span
  | .text text => builder.pushText text span
  | .code text => builder.pushInline (.codespan text (builder.raw span))
  | .softBreak | .hardBreak => builder.pushInline (.br (builder.raw span))
  | .html html | .inlineHtml html => builder.pushHtml html
  | .rule => builder.pushBlock (.hr (builder.raw span)) span
  | .taskMarker checked => builder.pushTask checked
  | .inlineMath _ | .displayMath _ | .footnoteReference _ =>
      builder.pushInline (.other (builder.raw span))

def pushAll (builder : Builder) (events : List LocatedEvent) : Builder :=
  events.foldl push builder

def leaveAll : Nat → Builder → Builder
  | 0, builder => builder
  | count + 1, builder =>
      let stop := builder.source.utf8ByteSize
      leaveAll count (builder.leave ⟨stop, stop⟩)

/-- Leaves every open container and gives the tokens of the top level. -/
def finish (builder : Builder) : List Token :=
  (leaveAll builder.stack.length builder).out

end Builder

/-- The tokens that a sequence of events stands for. -/
def tokensOfEvents (source : String) (options : LexOptions) (events : List LocatedEvent) :
    List Token :=
  ((Builder.start source options).pushAll events).finish

end ChatBlocks
