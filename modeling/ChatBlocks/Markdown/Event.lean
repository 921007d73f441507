/-!
# Markdown events

A Markdown document reads as a flat sequence of events. A container is entered
with its tag and left later; everything between the two lies inside it. Each
event carries the byte range of the source it covers.
-/

namespace ChatBlocks.Markdown

/-- A range of byte offsets. Nothing is promised about its ends: they may lie
outside the source, inside a character, or in the wrong order. -/
structure Span where
  start : Nat
  stop : Nat
  deriving DecidableEq, Repr

inductive HeadingLevel where
  | one | two | three | four | five | six
  deriving DecidableEq, Repr

def HeadingLevel.rank : HeadingLevel → UInt8
  | .one => 1
  | .two => 2
  | .three => 3
  | .four => 4
  | .five => 5
  | .six => 6

def HeadingLevel.ofRank? : Nat → Option HeadingLevel
  | 1 => some .one
  | 2 => some .two
  | 3 => some .three
  | 4 => some .four
  | 5 => some .five
  | 6 => some .six
  | _ => none

inductive CodeBlockKind where
  | indented
  | fenced (info : String)
  deriving DecidableEq, Repr

inductive Tag where
  | paragraph
  | heading (level : HeadingLevel)
  | blockquote
  | codeBlock (kind : CodeBlockKind)
  | htmlBlock
  | list (first : Option UInt64)
  | item
  | footnoteDefinition
  | definitionList
  | definitionTitle
  | definitionBody
  | table
  | tableHead
  | tableRow
  | tableCell
  | emphasis
  | strong
  | strikethrough
  | superscript
  | subscript
  | link (destination title : String)
  | image (destination title : String)
  | metadata
  deriving DecidableEq, Repr

inductive Event where
  | enter (tag : Tag)
  /-- Leaves the innermost container that is still open. -/
  | leave
  | text (text : String)
  | code (text : String)
  | inlineMath (text : String)
  | displayMath (text : String)
  | html (text : String)
  | inlineHtml (text : String)
  | footnoteReference (label : String)
  | softBreak
  | hardBreak
  | rule
  | taskMarker (checked : Bool)
  deriving DecidableEq, Repr

structure LocatedEvent where
  event : Event
  span : Span
  deriving DecidableEq, Repr

end ChatBlocks.Markdown
