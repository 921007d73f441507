import ChatBlocks.Toml.Quoted
import ChatBlocks.Toml.Scalar
import ChatBlocks.Toml.Table

/-!
# Reading TOML

A document is read line by line: a key with its value, a header, or nothing.
Arrays and inline tables may run over many lines, may end in a comma, and may
lie at most `nestingLimit` deep. A byte order mark may open the text.
-/

namespace ChatBlocks.Toml

def nestingLimit : Nat := 80

def isKeyChar (character : Char) : Bool :=
  character.isAlphanum || character == '_' || character == '-'

def readKeyPart (input : List Char) : Option (String × List Char) :=
  match input with
  | '"' :: rest => readBasic (rest.length + 1) [] rest
  | '\'' :: rest => readLiteral rest
  | _ =>
      let part := input.takeWhile isKeyChar
      if part.isEmpty then none else some (String.ofList part, input.drop part.length)

def readKey : Nat → List Char → Option (List String × List Char)
  | 0, _ => none
  | fuel + 1, input =>
      match readKeyPart input with
      | none => none
      | some (part, rest) =>
          match skipBlanks rest with
          | '.' :: rest =>
              (readKey fuel (skipBlanks rest)).map fun (more, rest) => (part :: more, rest)
          | rest => some ([part], rest)

def skipGaps : Bool → List Char → Option (List Char)
  | _, [] => some []
  | inComment, character :: rest =>
      if character = '\n' then
        skipGaps false rest
      else if character = '\r' then
        if rest.head? = some '\n' then skipGaps false rest else none
      else if inComment then
        if isPlainChar character then skipGaps true rest else none
      else if isBlankChar character then
        skipGaps false rest
      else if character = '#' then
        skipGaps true rest
      else
        some (character :: rest)

/-- Reads the end of a line: blanks, a comment, and a line end or the end of
the text. -/
def finishLine (input : List Char) : Option (List Char) :=
  let rest :=
    match skipBlanks input with
    | '#' :: rest => rest.dropWhile isPlainChar
    | rest => rest
  if rest.isEmpty then some [] else readLineEnd rest

/-- The characters of an unquoted value. A space may separate a date from a
time. -/
def readScalarText (input : List Char) : List Char × List Char :=
  let text := input.takeWhile isScalarChar
  match input.drop text.length with
  | ' ' :: digit :: rest =>
      if digit.isDigit && skipDate? text == some [] then
        let time := (digit :: rest).takeWhile isScalarChar
        (text ++ [' '] ++ time, (digit :: rest).drop time.length)
      else
        (text, ' ' :: digit :: rest)
  | rest => (text, rest)

mutual

/-- Reads a value. `limit` is the number of arrays and inline tables that may
still be entered. -/
def readValue : Nat → Nat → List Char → Option (Value × List Char)
  | 0, _, _ => none
  | fuel + 1, limit, input =>
      match input with
      | [] => none
      | character :: rest =>
          if character = '"' ∨ character = '\'' then
            (readString? input).map fun (text, rest) => (.string text, rest)
          else if character = '[' then
            match limit with
            | 0 => none
            | limit + 1 =>
                (readElements fuel limit [] rest).map fun (elements, rest) =>
                  (.array elements, rest)
          else if character = '\x7b' then
            match limit with
            | 0 => none
            | limit + 1 =>
                (readEntries fuel limit [] rest).map fun (entries, rest) =>
                  (.table .closed entries, rest)
          else
            let (text, rest) := readScalarText input
            (scalar? text).map fun value => (value, rest)

def readElements : Nat → Nat → List Value → List Char → Option (List Value × List Char)
  | 0, _, _, _ => none
  | fuel + 1, limit, elements, input =>
      match skipGaps false input with
      | none => none
      | some (']' :: rest) => some (elements.reverse, rest)
      | some rest =>
          match readValue fuel limit rest with
          | none => none
          | some (value, rest) =>
              match skipGaps false rest with
              | some (',' :: rest) => readElements fuel limit (value :: elements) rest
              | some (']' :: rest) => some ((value :: elements).reverse, rest)
              | _ => none

def readEntries : Nat → Nat → Entries → List Char → Option (Entries × List Char)
  | 0, _, _, _ => none
  | fuel + 1, limit, entries, input =>
      match skipGaps false input with
      | none => none
      | some ('\x7d' :: rest) => some (entries, rest)
      | some rest =>
          match readEntry fuel limit rest with
          | none => none
          | some (path, value, rest) =>
              match entries.insert? value true path with
              | none => none
              | some entries =>
                  match skipGaps false rest with
                  | some (',' :: rest) => readEntries fuel limit entries rest
                  | some ('\x7d' :: rest) => some (entries, rest)
                  | _ => none

def readEntry : Nat → Nat → List Char → Option (List String × Value × List Char)
  | 0, _, _ => none
  | fuel + 1, limit, input =>
      match readKey (input.length + 1) input with
      | none => none
      | some (path, rest) =>
          match skipBlanks rest with
          | '=' :: rest =>
              (readValue fuel limit (skipBlanks rest)).map fun (value, rest) => (path, value, rest)
          | _ => none

end

def readHeaderPath (closing : List Char) (input : List Char) :
    Option (List String × String × List Char) := do
  let input := skipBlanks input
  let (path, rest) ← readKey (input.length + 1) input
  let key ← path.getLast?
  let rest := skipBlanks rest
  if closing.isPrefixOf rest then
    some (path.dropLast, key, rest.drop closing.length)
  else
    none

def readStatement (input : List Char) : Option (Statement × List Char) :=
  match input with
  | '[' :: '[' :: rest =>
      (readHeaderPath [']', ']'] rest).map fun (path, key, rest) => (.nextHeader path key, rest)
  | '[' :: rest =>
      (readHeaderPath [']'] rest).map fun (path, key, rest) => (.header path key, rest)
  | _ =>
      (readEntry (2 * input.length + 4) nestingLimit input).map fun (path, value, rest) =>
        (.entry path value, rest)

def readDocument : Nat → Document → List Char → Option Document
  | 0, _, _ => none
  | fuel + 1, document, input =>
      match skipGaps false input with
      | none => none
      | some [] => some document
      | some rest =>
          match readStatement rest with
          | none => none
          | some (statement, rest) =>
              match document.apply? statement with
              | none => none
              | some document =>
                  match finishLine rest with
                  | none => none
                  | some rest => readDocument fuel document rest

def dropOrderMark : List Char → List Char
  | [] => []
  | character :: rest => if character = '\uFEFF' then rest else character :: rest

def parse? (text : String) : Option Entries :=
  let input := dropOrderMark text.toList
  (readDocument (input.length + 1) {} input).map Document.root

end ChatBlocks.Toml
