import ChatBlocks.Text.Numeral

/-!
# Quoted strings

A string has four written forms: basic and literal, each on one line or on
many. A basic form has escapes; a literal form has none and holds its
characters as they are. A form on many lines drops a line end that directly
follows its opening mark, and may end in one or two quotes of its own.

A string is written in the first of these forms that needs no escape, tabs
left aside: basic, literal, basic on many lines, literal on many lines. If
none will do, it is written basic, on many lines when it has a line feed.
-/

namespace ChatBlocks.Toml

def isBlankChar (character : Char) : Bool :=
  character == ' ' || character == '\t'

def skipBlanks (input : List Char) : List Char :=
  input.dropWhile isBlankChar

/-- Characters that may stand for themselves in strings and comments: all but
the controls other than the tab. -/
def isPlainChar (character : Char) : Bool :=
  character == '\t' || (0x20 ≤ character.toNat && character.toNat != 0x7F)

def readLineEnd : List Char → Option (List Char)
  | '\n' :: rest => some rest
  | '\r' :: '\n' :: rest => some rest
  | _ => none

/-- Skips blanks and line ends; none when a carriage return stands alone. -/
def skipLines : List Char → Option (List Char)
  | [] => some []
  | character :: rest =>
      if character = ' ' ∨ character = '\t' ∨ character = '\n' then
        skipLines rest
      else if character = '\r' then
        if rest.head? = some '\n' then skipLines rest else none
      else
        some (character :: rest)

def readHexDigits : Nat → Nat → List Char → Option (Nat × List Char)
  | 0, value, rest => some (value, rest)
  | _ + 1, _, [] => none
  | count + 1, value, character :: rest =>
      match Text.hexValue? character with
      | none => none
      | some digit => readHexDigits count (value * 16 + digit) rest

def readCode (count : Nat) (input : List Char) : Option (Char × List Char) := do
  let (code, rest) ← readHexDigits count 0 input
  if code.isValidChar then some (Char.ofNat code, rest) else none

def readEscape : List Char → Option (Char × List Char)
  | [] => none
  | letter :: rest =>
      if letter = '"' then some ('"', rest)
      else if letter = '\\' then some ('\\', rest)
      else if letter = 'b' then some ('\x08', rest)
      else if letter = 't' then some ('\t', rest)
      else if letter = 'n' then some ('\n', rest)
      else if letter = 'f' then some ('\x0c', rest)
      else if letter = 'r' then some ('\r', rest)
      else if letter = 'e' then some ('\x1b', rest)
      else if letter = 'x' then readCode 2 rest
      else if letter = 'u' then readCode 4 rest
      else if letter = 'U' then readCode 8 rest
      else none

/-- Reads the content of a basic string up to its closing quote; `content`
holds what was read so far, last character first. -/
def readBasic : Nat → List Char → List Char → Option (String × List Char)
  | 0, _, _ => none
  | _ + 1, _, [] => none
  | fuel + 1, content, character :: rest =>
      if character = '"' then
        some (String.ofList content.reverse, rest)
      else if character = '\\' then
        match readEscape rest with
        | none => none
        | some (escaped, rest) => readBasic fuel (escaped :: content) rest
      else if isPlainChar character then
        readBasic fuel (character :: content) rest
      else
        none

def readLiteral (input : List Char) : Option (String × List Char) :=
  let content := input.takeWhile fun character => isPlainChar character && character != '\''
  match input.drop content.length with
  | '\'' :: rest => some (String.ofList content, rest)
  | _ => none

/-- Reads the quotes that end a string on many lines: three of them, after
at most two that still belong to the string. Gives the number of the latter. -/
def readClosing (quote : Char) : List Char → Option (Nat × List Char)
  | a :: b :: c :: rest =>
      if a = quote ∧ b = quote ∧ c = quote then
        match rest with
        | d :: e :: more =>
            if d = quote then
              if e = quote then some (2, more) else some (1, e :: more)
            else
              some (0, rest)
        | [d] => if d = quote then some (1, []) else some (0, rest)
        | [] => some (0, [])
      else
        none
  | _ => none

def closeWith (quote : Char) (count : Nat) (content : List Char) : String :=
  String.ofList (content.reverse ++ List.replicate count quote)

/-- Reads the content of a basic string on many lines. A backslash before a
line end skips all white space that follows. -/
def readBasicLines : Nat → List Char → List Char → Option (String × List Char)
  | 0, _, _ => none
  | _ + 1, _, [] => none
  | fuel + 1, content, character :: rest =>
      if character = '"' then
        match readClosing '"' (character :: rest) with
        | some (count, rest) => some (closeWith '"' count content, rest)
        | none => readBasicLines fuel (character :: content) rest
      else if character = '\\' then
        match readLineEnd (skipBlanks rest) with
        | some rest =>
            match skipLines rest with
            | none => none
            | some rest => readBasicLines fuel content rest
        | none =>
            match readEscape rest with
            | none => none
            | some (escaped, rest) => readBasicLines fuel (escaped :: content) rest
      else if character = '\n' ∨ isPlainChar character then
        readBasicLines fuel (character :: content) rest
      else if character = '\r' ∧ rest.head? = some '\n' then
        readBasicLines fuel (character :: content) rest
      else
        none

def readLiteralLines : List Char → List Char → Option (String × List Char)
  | _, [] => none
  | content, character :: rest =>
      if character = '\'' then
        match readClosing '\'' (character :: rest) with
        | some (count, rest) => some (closeWith '\'' count content, rest)
        | none => readLiteralLines (character :: content) rest
      else if character = '\n' ∨ isPlainChar character then
        readLiteralLines (character :: content) rest
      else if character = '\r' ∧ rest.head? = some '\n' then
        readLiteralLines (character :: content) rest
      else
        none

def dropFirstLineEnd (input : List Char) : List Char :=
  (readLineEnd input).getD input

def readString? : List Char → Option (String × List Char)
  | '"' :: '"' :: '"' :: rest =>
      let content := dropFirstLineEnd rest
      readBasicLines (content.length + 1) [] content
  | '\'' :: '\'' :: '\'' :: rest => readLiteralLines [] (dropFirstLineEnd rest)
  | '"' :: rest => readBasic (rest.length + 1) [] rest
  | '\'' :: rest => readLiteral rest
  | _ => none

inductive StringForm where
  | basic
  | literal
  | basicLines
  | literalLines
  deriving DecidableEq, Repr

/-- The length of the longest run of a character; `current` is the length of
the run that ends where the rest begins. -/
def longestRunFrom (mark : Char) : Nat → List Char → Nat
  | current, [] => current
  | current, character :: rest =>
      if character = mark then
        longestRunFrom mark (current + 1) rest
      else
        max current (longestRunFrom mark 0 rest)

def longestRun (mark : Char) (content : List Char) : Nat :=
  longestRunFrom mark 0 content

/-- Controls that only an escape can stand for in every form. -/
def needsEscape (character : Char) : Bool :=
  !isPlainChar character && character != '\n'

def StringForm.of (content : List Char) : StringForm :=
  let escapes := content.any needsEscape
  let backslash := content.contains '\\'
  let lineFeed := content.contains '\n'
  let doubles := longestRun '"' content
  let singles := longestRun '\'' content
  if !escapes && !backslash && doubles == 0 && !lineFeed then .basic
  else if !escapes && singles == 0 && !lineFeed then .literal
  else if !escapes && !backslash && doubles ≤ 2 then .basicLines
  else if !escapes && singles ≤ 2 then .literalLines
  else if lineFeed then .basicLines
  else .basic

def upperHexDigit (value : Nat) : Char :=
  if value < 10 then Char.ofNat (48 + value) else Char.ofNat (55 + value)

def escapeBasic (manyLines : Bool) (character : Char) : List Char :=
  if character = '\\' then ['\\', '\\']
  else if character = '\t' then ['\\', 't']
  else if character = '\x08' then ['\\', 'b']
  else if character = '\x0c' then ['\\', 'f']
  else if character = '\r' then ['\\', 'r']
  else if character = '\n' then if manyLines then ['\n'] else ['\\', 'n']
  else if isPlainChar character then [character]
  else
    ['\\', 'u', '0', '0', upperHexDigit (character.toNat / 16),
      upperHexDigit (character.toNat % 16)]

/-- The written content of a basic string. `quotes` counts the quotes that
directly precede: on one line every quote is escaped, on many lines every
third of a run. -/
def basicContent (manyLines : Bool) : Nat → List Char → List Char
  | _, [] => []
  | quotes, character :: rest =>
      if character = '"' then
        if manyLines ∧ quotes < 2 then
          '"' :: basicContent manyLines (quotes + 1) rest
        else
          '\\' :: '"' :: basicContent manyLines 0 rest
      else
        escapeBasic manyLines character ++ basicContent manyLines 0 rest

/-- The opening mark of a form on many lines, with a line feed when the
string has one itself. -/
def openLines (quote : Char) (content : List Char) : List Char :=
  [quote, quote, quote] ++ (if content.contains '\n' then ['\n'] else [])

def StringForm.write (content : List Char) : StringForm → List Char
  | .basic => ['"'] ++ basicContent false 0 content ++ ['"']
  | .literal => ['\''] ++ content ++ ['\'']
  | .basicLines => openLines '"' content ++ basicContent true 0 content ++ ['"', '"', '"']
  | .literalLines => openLines '\'' content ++ content ++ ['\'', '\'', '\'']

def quote (text : String) : String :=
  String.ofList ((StringForm.of text.toList).write text.toList)

end ChatBlocks.Toml
