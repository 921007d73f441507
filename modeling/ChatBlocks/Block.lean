/-!
# Message blocks

A message is a sequence of blocks as the chat platform takes them. A text
object is literal text or markup, and only literal text carries an emoji flag.
-/

namespace ChatBlocks

inductive TextStyle where
  | plain
  | markup
  deriving DecidableEq, Repr

structure TextObject where
  style : TextStyle
  text : String
  emoji : Option Bool
  deriving DecidableEq, Repr

namespace TextObject

def plain (text : String) (emoji : Bool) : TextObject :=
  ⟨.plain, text, some emoji⟩

def markup (text : String) : TextObject :=
  ⟨.markup, text, none⟩

end TextObject

/-- A table cell: literal text and whether it is bold. -/
structure Cell where
  text : String
  bold : Bool
  deriving DecidableEq, Repr

inductive Block where
  | header (text : TextObject)
  | section (text : TextObject)
  | image (imageUrl altText : String) (title : Option TextObject)
  | divider
  | table (rows : List (List Cell))
  deriving DecidableEq, Repr

def Block.markupSection (text : String) : Block :=
  .section (.markup text)

structure Message where
  blocks : List Block
  deriving DecidableEq, Repr

end ChatBlocks
