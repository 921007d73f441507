/-!
# Byte offsets in a text

Offsets count UTF-8 bytes. A cursor stands at an offset that falls between two
characters and keeps the characters before it, nearest first, and those after
it. An offset inside a character or past the end has no cursor, so a range
with such an end has no slice.
-/

namespace ChatBlocks.Text

structure Cursor where
  /-- The characters before the place, nearest first. -/
  before : List Char
  /-- The characters after the place, nearest first. -/
  after : List Char

def Cursor.advance? (before after : List Char) (bytes : Nat) : Option Cursor :=
  match bytes, after with
  | 0, rest => some ⟨before, rest⟩
  | _ + 1, [] => none
  | bytes + 1, character :: rest =>
      if character.utf8Size ≤ bytes + 1 then
        advance? (character :: before) rest (bytes + 1 - character.utf8Size)
      else
        none

/-- The cursor at a byte offset, when the offset lies between characters. -/
def cursorAt? (text : String) (offset : Nat) : Option Cursor :=
  Cursor.advance? [] text.toList offset

/-- The part of a text between two byte offsets, when both lie between
characters and the range does not run backwards. -/
def slice? (text : String) (start stop : Nat) : Option String :=
  if start ≤ stop then do
    let first ← cursorAt? text start
    let last ← Cursor.advance? [] first.after (stop - start)
    some (String.ofList last.before.reverse)
  else
    none

end ChatBlocks.Text
