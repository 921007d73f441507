/-!
# White space and blank text

The Unicode property `White_Space` decides what is trimmed and what counts as
blank. U+200B and U+FEFF do not have the property, so a text that holds either
of them is not blank.
-/

namespace ChatBlocks.Text

/-- Characters with the Unicode property `White_Space`. -/
def isWhiteSpace (character : Char) : Bool :=
  let code := character.toNat
  (0x09 ≤ code && code ≤ 0x0D) || code == 0x20 || code == 0x85 || code == 0xA0
    || code == 0x1680 || (0x2000 ≤ code && code ≤ 0x200A) || code == 0x2028
    || code == 0x2029 || code == 0x202F || code == 0x205F || code == 0x3000

def dropEndWhile {α : Type} (drops : α → Bool) (items : List α) : List α :=
  (items.reverse.dropWhile drops).reverse

def trim (text : String) : String :=
  String.ofList (dropEndWhile isWhiteSpace (text.toList.dropWhile isWhiteSpace))

def isBlank (text : String) : Bool :=
  text.toList.all isWhiteSpace

def nonEmpty (text : String) : Option String :=
  if text.isEmpty then none else some text

end ChatBlocks.Text
