import ChatBlocks.Assembly
import ChatBlocks.Markdown.Document
import ChatBlocks.Token.Builder

/-!
# From Markdown to a message

A document is read into tokens, and the tokens are assembled into blocks. The
notes of a conversion end with the sizes of both.
-/

namespace ChatBlocks

def lex (options : LexOptions) (markdown : String) : List Token :=
  tokensOfEvents markdown options (Markdown.events markdown)

structure Converter where
  lex : LexOptions := {}
  render : RenderOptions := {}

namespace Converter

def tokens (converter : Converter) (markdown : String) : List Token :=
  ChatBlocks.lex converter.lex markdown

def sizeNote (tokens blocks : Nat) : String :=
  Nat.repr tokens ++ " top-level tokens -> " ++ Nat.repr blocks ++ " blocks"

/-- The message of a Markdown text, and the notes made on the way. -/
def convertWithNotes (converter : Converter) (markdown : String) : Message × List String :=
  let tokens := converter.tokens markdown
  let assembly := assembly converter.render tokens
  (⟨assembly.blocks⟩, assembly.notes ++ [sizeNote tokens.length assembly.blocks.length])

def convert (converter : Converter) (markdown : String) : Message :=
  (converter.convertWithNotes markdown).1

end Converter

end ChatBlocks
