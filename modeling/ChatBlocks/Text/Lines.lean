/-!
# Lines

A text is cut at every line feed, so it has one line more than it has line
feeds, and `joinLines` puts the cut lines back together.
-/

namespace ChatBlocks.Text

def splitLines : List Char → List (List Char)
  | [] => [[]]
  | character :: rest =>
      if character = '\n' then
        [] :: splitLines rest
      else
        match splitLines rest with
        | [] => [[character]]
        | line :: lines => (character :: line) :: lines

/-- The lines of a text, at least one. -/
def lines (text : String) : List String :=
  (splitLines text.toList).map String.ofList

def joinLines : List String → String
  | [] => ""
  | [line] => line
  | line :: next :: rest => line ++ "\n" ++ joinLines (next :: rest)

def concat : List String → String
  | [] => ""
  | text :: rest => text ++ concat rest

end ChatBlocks.Text
