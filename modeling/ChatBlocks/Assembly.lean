import ChatBlocks.Render.Cell
import ChatBlocks.Render.List

/-!
# Assembling blocks

The tokens of the top level become blocks one by one, in order. A token gives
at most one block; one that gives none is noted, unless it is the space
between two blocks. The notes of an assembly are values like its blocks.
-/

namespace ChatBlocks

structure Assembly where
  blocks : List Block
  notes : List String
  deriving DecidableEq, Repr

namespace Assembly

def empty : Assembly := ⟨[], []⟩

def ofBlock (block : Block) : Assembly := ⟨[block], []⟩

def ofNote (note : String) : Assembly := ⟨[], [note]⟩

def append (first second : Assembly) : Assembly :=
  ⟨first.blocks ++ second.blocks, first.notes ++ second.notes⟩

end Assembly

def fencedCode (lang : Option String) (text : String) : String :=
  Markup.fence ++ lang.getD "" ++ "\n" ++ text ++ "\n" ++ Markup.fence

def quoteMarker : String := "> "

def quoteLines (text : String) : String :=
  Text.joinLines ((Text.lines text).map (quoteMarker ++ ·))

def quotedText (options : RenderOptions) : Token → String
  | .heading _ tokens _ => Markup.wrap Markup.bold (renderInline tokens)
  | .paragraph tokens _ => renderInline tokens
  | .list ordered start items raw => renderList options 0 ⟨ordered, start, items, raw⟩
  | .code lang text _ => fencedCode lang text
  | token => token.raw

/-- The text of a quote: its children one below the other, every line marked. -/
def quoteText (options : RenderOptions) (tokens : List Token) : String :=
  quoteLines (Text.joinLines (tokens.map (quotedText options)))

def quoteNotes (tokens : List Token) : List String :=
  tokens.flatMap fun token => (notesIfList token).getD []

def tableRow (header : Bool) (cells : List TableCell) : List Cell :=
  cells.map fun cell => buildCell header cell.tokens

def tableRows (header : List TableCell) (rows : List (List TableCell)) : List (List Cell) :=
  tableRow true header :: rows.map (tableRow false)

def assembleToken (options : RenderOptions) (token : Token) : Assembly :=
  match token with
  | .heading _ tokens _ =>
      let text := renderInline tokens
      if Text.isBlank text then .ofNote "skipping heading with blank text"
      else .ofBlock (.header (.plain text options.headerEmoji))
  | .list ordered start items raw =>
      ⟨[.markupSection (renderList options 0 ⟨ordered, start, items, raw⟩)], notesOfItems items⟩
  | .paragraph tokens _ =>
      let text := renderInline tokens
      if Text.isBlank text then .ofNote "skipping blank paragraph"
      else .ofBlock (.markupSection text)
  | .blockquote tokens _ =>
      ⟨[.markupSection (quoteText options tokens)], quoteNotes tokens⟩
  | .code lang text _ => .ofBlock (.markupSection (fencedCode lang text))
  | .hr _ => .ofBlock .divider
  | .image href title text _ =>
      .ofBlock (.image href text
        ((title.bind Text.nonEmpty).map fun title => .plain title options.headerEmoji))
  | .table header rows _ => .ofBlock (.table (tableRows header rows))
  | .space _ => .empty
  | .text .. | .link .. | .strong .. | .em .. | .del .. | .codespan .. | .br .. | .html ..
  | .other .. => .ofNote ("no block for top-level " ++ token.kind.name ++ " token")

def assembly (options : RenderOptions) : List Token → Assembly
  | [] => .empty
  | token :: rest => (assembleToken options token).append (assembly options rest)

def assemble (options : RenderOptions) (tokens : List Token) : List Block :=
  (assembly options tokens).blocks

end ChatBlocks
