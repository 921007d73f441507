import ChatBlocks.Markdown.Emphasis
import ChatBlocks.Markdown.Structure

/-!
# Documents

The events of a Markdown document, in order, each with the part of the source
it covers. The dialect is CommonMark with tables, strikethrough, checkboxes and
footnotes.
-/

namespace ChatBlocks.Markdown

def contained (tag : Tag) (span : Span) (content : List LocatedEvent) : List LocatedEvent :=
  ⟨.enter tag, span⟩ :: (content ++ [⟨.leave, span⟩])

def EmphasisStyle.tag : EmphasisStyle → Tag
  | .emphasis => .emphasis
  | .strong => .strong
  | .strikethrough => .strikethrough

mutual

def inlineEvents (source : Source) : Inline → List LocatedEvent
  | .text span => [⟨.text (source.slice span.start span.stop), span⟩]
  | .literal text span => [⟨.text text, span⟩]
  | .code text span => [⟨.code text, span⟩]
  | .html text span => [⟨.inlineHtml text, span⟩]
  | .softBreak span => [⟨.softBreak, span⟩]
  | .hardBreak _ span => [⟨.hardBreak, span⟩]
  | .task checked span => [⟨.taskMarker checked, span⟩]
  | .footnote label span => [⟨.footnoteReference label, span⟩]
  | .run run => [⟨.text (source.slice run.start (run.start + run.count)),
      ⟨run.start, run.start + run.count⟩⟩]
  | .link image definition span children =>
      let tag :=
        if image then Tag.image definition.destination definition.title
        else Tag.link definition.destination definition.title
      contained tag span (inlineEventsAll source children)
  | .styled style span children => contained style.tag span (inlineEventsAll source children)

def inlineEventsAll (source : Source) : List Inline → List LocatedEvent
  | [] => []
  | node :: rest => inlineEvents source node ++ inlineEventsAll source rest

end

structure DocumentContext where
  source : Source
  definitions : List (String × LinkDefinition)
  footnotes : List String

def DocumentContext.contentEvents (context : DocumentContext) (containers : List Container)
    (inTable : Bool) (span : Span) (pieces : List Piece) : List LocatedEvent :=
  let inline : InlineContext :=
    ⟨context.source.take span.stop, containers, inTable, context.definitions, context.footnotes⟩
  inlineEventsAll context.source (pairEmphasis (inline.read pieces))

def DocumentContext.rowEvents (context : DocumentContext) (containers : List Container) (tag : Tag)
    (row : TableRow) : List LocatedEvent :=
  contained tag row.span (row.cells.flatMap fun (span, pieces) =>
    contained .tableCell span (context.contentEvents containers true span pieces))

/-- The events of a table: its first row is the header. -/
def DocumentContext.tableEvents (context : DocumentContext) (containers : List Container)
    (rows : List TableRow) : List LocatedEvent :=
  match rows with
  | [] => []
  | header :: rest =>
      context.rowEvents containers .tableHead header
        ++ rest.flatMap (context.rowEvents containers .tableRow)

mutual

def nodeEvents (context : DocumentContext) (containers : List Container) :
    Node → List LocatedEvent
  | .paragraph true span pieces => context.contentEvents containers false span pieces
  | .paragraph false span pieces =>
      contained .paragraph span (context.contentEvents containers false span pieces)
  | .heading level span pieces =>
      contained (.heading level) span (context.contentEvents containers false span pieces)
  | .code kind span texts =>
      contained (.codeBlock kind) span (texts.map fun (text, span) => ⟨.text text, span⟩)
  | .html span =>
      contained .htmlBlock span [⟨.html (context.source.slice span.start span.stop), span⟩]
  | .rule span => [⟨.rule, span⟩]
  | .task checked span => [⟨.taskMarker checked, span⟩]
  | .table span rows => contained .table span (context.tableEvents containers rows)
  | .list first span items =>
      contained (.list (first.map UInt64.ofNat)) span
        (nodesEvents context (containers ++ [.list]) items)
  | .item indent span children =>
      contained .item span (nodesEvents context (containers ++ [.item indent]) children)
  | .quote span children =>
      contained .blockquote span (nodesEvents context (containers ++ [.quote]) children)
  | .footnote span children =>
      contained .footnoteDefinition span (nodesEvents context (containers ++ [.footnote]) children)

def nodesEvents (context : DocumentContext) (containers : List Container) :
    List Node → List LocatedEvent
  | [] => []
  | node :: rest => nodeEvents context containers node ++ nodesEvents context containers rest

end

def events (text : String) : List LocatedEvent :=
  let source := Source.ofText text
  let outline := readOutline source
  nodesEvents ⟨source, outline.definitions, outline.footnotes⟩ [] outline.nodes

end ChatBlocks.Markdown
