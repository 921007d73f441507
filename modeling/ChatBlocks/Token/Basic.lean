/-!
# Tokens

A document is read into a tree of tokens. Every token keeps in `raw` the part
of the source it was made from, which is what a renderer falls back on for a
kind it has no form for.

A token's number fields have the width of their written form: a heading's depth
is one byte and a list's first number is one 64-bit word.
-/

namespace ChatBlocks

mutual

inductive Token where
  /-- Literal text. Inline text is a leaf; a run of inline content directly
  inside a list item is one text token that carries its parts in `run`. -/
  | text (text : String) (run : Option (List Token)) (raw : String)
  | link (href : String) (title : Option String) (tokens : List Token) (raw : String)
  /-- An image; `text` is its description with all markup removed. -/
  | image (href : String) (title : Option String) (text : String) (raw : String)
  | strong (tokens : List Token) (raw : String)
  | em (tokens : List Token) (raw : String)
  | del (tokens : List Token) (raw : String)
  | codespan (text : String) (raw : String)
  | br (raw : String)
  | heading (depth : UInt8) (tokens : List Token) (raw : String)
  | paragraph (tokens : List Token) (raw : String)
  /-- A list; `start` numbers its first item. -/
  | list (ordered : Bool) (start : UInt64) (items : List ListItem) (raw : String)
  | blockquote (tokens : List Token) (raw : String)
  | code (lang : Option String) (text : String) (raw : String)
  | hr (raw : String)
  | table (header : List TableCell) (rows : List (List TableCell)) (raw : String)
  /-- Blank lines between two blocks of the top level. -/
  | space (raw : String)
  | html (raw : String)
  /-- Source that has no kind of its own. -/
  | other (raw : String)

structure ListItem where
  /-- The state of the item's checkbox, when it has one. -/
  task : Option Bool
  tokens : List Token
  raw : String

structure TableCell where
  tokens : List Token
  raw : String

end

structure ListBlock where
  ordered : Bool
  start : UInt64
  items : List ListItem
  raw : String

inductive TokenKind where
  | text | link | image | strong | em | del | codespan | br | heading | paragraph
  | list | blockquote | code | hr | table | space | html | other
  deriving DecidableEq, Repr

namespace TokenKind

/-- Every kind, in the order in which the kinds are numbered. -/
def all : List TokenKind :=
  [.text, .link, .image, .strong, .em, .del, .codespan, .br, .heading, .paragraph,
    .list, .blockquote, .code, .hr, .table, .space, .html, .other]

def name : TokenKind → String
  | .text => "text"
  | .link => "link"
  | .image => "image"
  | .strong => "strong"
  | .em => "em"
  | .del => "del"
  | .codespan => "codespan"
  | .br => "br"
  | .heading => "heading"
  | .paragraph => "paragraph"
  | .list => "list"
  | .blockquote => "blockquote"
  | .code => "code"
  | .hr => "hr"
  | .table => "table"
  | .space => "space"
  | .html => "html"
  | .other => "other"

def ofName? (name : String) : Option TokenKind :=
  all.find? fun kind => kind.name == name

end TokenKind

namespace Token

def raw : Token → String
  | .text _ _ raw => raw
  | .link _ _ _ raw => raw
  | .image _ _ _ raw => raw
  | .strong _ raw => raw
  | .em _ raw => raw
  | .del _ raw => raw
  | .codespan _ raw => raw
  | .br raw => raw
  | .heading _ _ raw => raw
  | .paragraph _ raw => raw
  | .list _ _ _ raw => raw
  | .blockquote _ raw => raw
  | .code _ _ raw => raw
  | .hr raw => raw
  | .table _ _ raw => raw
  | .space raw => raw
  | .html raw => raw
  | .other raw => raw

/-- The tokens directly inside a token, for the kinds that hold a sequence of
them. Lists and tables hold theirs in items and cells, and have none here. -/
def children? : Token → Option (List Token)
  | .text _ run _ => run
  | .link _ _ tokens _ => some tokens
  | .strong tokens _ => some tokens
  | .em tokens _ => some tokens
  | .del tokens _ => some tokens
  | .heading _ tokens _ => some tokens
  | .paragraph tokens _ => some tokens
  | .blockquote tokens _ => some tokens
  | .image .. | .codespan .. | .br .. | .list .. | .code .. | .hr .. | .table .. | .space ..
  | .html .. | .other .. => none

def kind : Token → TokenKind
  | .text .. => .text
  | .link .. => .link
  | .image .. => .image
  | .strong .. => .strong
  | .em .. => .em
  | .del .. => .del
  | .codespan .. => .codespan
  | .br .. => .br
  | .heading .. => .heading
  | .paragraph .. => .paragraph
  | .list .. => .list
  | .blockquote .. => .blockquote
  | .code .. => .code
  | .hr .. => .hr
  | .table .. => .table
  | .space .. => .space
  | .html .. => .html
  | .other .. => .other

end Token

end ChatBlocks
