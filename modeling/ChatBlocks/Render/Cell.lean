import ChatBlocks.Block
import ChatBlocks.Render.Plain
import ChatBlocks.Text.Blank

/-!
# Table cells

A cell keeps the literal text of its tokens, trimmed. The platform refuses an
empty cell, so a blank one becomes a single space.
-/

namespace ChatBlocks

def cellText (tokens : List Token) : String :=
  let text := Text.trim (plainText tokens)
  if text.isEmpty then " " else text

/-- The cell of a token sequence; a header cell is bold. -/
def buildCell (header : Bool) (tokens : List Token) : Cell :=
  ⟨cellText tokens, header⟩

end ChatBlocks
