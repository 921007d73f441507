import ChatBlocks.Markdown.Event
import ChatBlocks.Markdown.LineStart
import ChatBlocks.Markdown.Piece

/-!
# Block structure

The block structure of a document is a tree of nodes. Inline content is still
cut into pieces here; the marks in it are paired later, when all link
definitions are known.
-/

namespace ChatBlocks.Markdown

/-- A container that continues over lines, with what its lines must start
with. -/
inductive Container where
  | list
  | item (indent : Nat)
  | quote
  | footnote
  deriving DecidableEq

/-- A row of a table: its range, and its cells with theirs. -/
structure TableRow where
  span : Span
  cells : List (Span × List Piece)

inductive Node where
  /-- A paragraph; one that is tight stands in its list item without being
  marked as a paragraph. -/
  | paragraph (tight : Bool) (span : Span) (pieces : List Piece)
  | heading (level : HeadingLevel) (span : Span) (pieces : List Piece)
  | code (kind : CodeBlockKind) (span : Span) (texts : List (String × Span))
  | html (span : Span)
  | rule (span : Span)
  | task (checked : Bool) (span : Span)
  | table (span : Span) (rows : List TableRow)
  | list (first : Option Nat) (span : Span) (items : List Node)
  | item (indent : Nat) (span : Span) (children : List Node)
  | quote (span : Span) (children : List Node)
  | footnote (span : Span) (children : List Node)

namespace Node

/-- A child of a tight list's item: a paragraph loses its mark. -/
def tighten : Node → Node
  | .paragraph _ span pieces => .paragraph true span pieces
  | node => node

def tightenItem : Node → Node
  | .item indent span children => .item indent span (children.map tighten)
  | node => node

end Node

/-- Takes what the lines of containers must start with, outermost container
first. The result says how many of the containers go on in this line. A list
item and a footnote go on in a blank line of any width. -/
def takeContainers (source : Source) : List Container → LineStart → Nat × LineStart
  | [], place => (0, place)
  | container :: rest, place =>
      let next? : Option LineStart :=
        match container with
        | .list => some place
        | .quote => ((place.takeUpTo source 3).2).takeQuoteMarker? source
        | .item indent =>
            let (indented, next) := place.takeExactly source indent
            if indented || next.isAtEnd source then some next else none
        | .footnote =>
            let (indented, next) := place.takeExactly source 4
            if indented || next.isAtEnd source then some next else none
      match next? with
      | none => (0, place)
      | some next =>
          let (count, place) := takeContainers source rest next
          (count + 1, place)

structure ContainedLine where
  inside : Bool
  place : LineStart

def containedLine (source : Source) (containers : List Container) (offset : Nat) :
    ContainedLine :=
  let (count, place) := takeContainers source containers (.ofOffset offset)
  ⟨count == containers.length, place⟩

def behindContainers (source : Source) (containers : List Container) (offset : Nat) : Nat :=
  (containedLine source containers offset).place.offset

end ChatBlocks.Markdown
