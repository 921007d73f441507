import ChatBlocks.Json.Value

/-!
# JSON text

Two layouts: compact, without any white space, and pretty, with two spaces of
indentation per level, one space after a colon, and nothing between the
brackets of an empty array or object. A string escapes the quote, the
backslash and the characters below U+0020; all else is written as it is.
-/

namespace ChatBlocks.Json

def hexDigit (value : Nat) : Char :=
  if value < 10 then Char.ofNat (48 + value) else Char.ofNat (87 + value)

def escapeChar (character : Char) : List Char :=
  if character = '"' then ['\\', '"']
  else if character = '\\' then ['\\', '\\']
  else if character = '\n' then ['\\', 'n']
  else if character = '\r' then ['\\', 'r']
  else if character = '\t' then ['\\', 't']
  else if character = '\x08' then ['\\', 'b']
  else if character = '\x0c' then ['\\', 'f']
  else if character.toNat < 0x20 then
    ['\\', 'u', '0', '0', hexDigit (character.toNat / 16), hexDigit (character.toNat % 16)]
  else [character]

def quote (text : String) : String :=
  String.ofList ('"' :: (text.toList.flatMap escapeChar ++ ['"']))

def Number.text (number : Number) : String :=
  let sign := if number.mantissa < 0 then "-" else ""
  let digits := sign ++ Nat.repr number.mantissa.natAbs
  match number.exponent with
  | none => digits
  | some exponent =>
      let exponentSign := if exponent < 0 then "-" else ""
      digits ++ "e" ++ exponentSign ++ Nat.repr exponent.natAbs

mutual

def Value.compact : Value → String
  | .null => "null"
  | .bool true => "true"
  | .bool false => "false"
  | .number number => number.text
  | .string text => quote text
  | .array elements => "[" ++ compactElements elements ++ "]"
  | .object members => "\x7b" ++ compactMembers members ++ "\x7d"

def compactElements : List Value → String
  | [] => ""
  | [value] => value.compact
  | value :: next :: rest => value.compact ++ "," ++ compactElements (next :: rest)

def compactMembers : List (String × Value) → String
  | [] => ""
  | [(key, value)] => quote key ++ ":" ++ value.compact
  | (key, value) :: next :: rest =>
      quote key ++ ":" ++ value.compact ++ "," ++ compactMembers (next :: rest)

end

def lineBreak (level : Nat) : String :=
  String.ofList ('\n' :: List.replicate (2 * level) ' ')

mutual

def Value.prettyAt (level : Nat) : Value → String
  | .null => "null"
  | .bool true => "true"
  | .bool false => "false"
  | .number number => number.text
  | .string text => quote text
  | .array [] => "[]"
  | .array (first :: rest) =>
      "[" ++ prettyElements (level + 1) (first :: rest) ++ lineBreak level ++ "]"
  | .object [] => "\x7b\x7d"
  | .object (first :: rest) =>
      "\x7b" ++ prettyMembers (level + 1) (first :: rest) ++ lineBreak level ++ "\x7d"

def prettyElements (level : Nat) : List Value → String
  | [] => ""
  | [value] => lineBreak level ++ value.prettyAt level
  | value :: next :: rest =>
      lineBreak level ++ value.prettyAt level ++ "," ++ prettyElements level (next :: rest)

def prettyMembers (level : Nat) : List (String × Value) → String
  | [] => ""
  | [(key, value)] => lineBreak level ++ quote key ++ ": " ++ value.prettyAt level
  | (key, value) :: next :: rest =>
      lineBreak level ++ quote key ++ ": " ++ value.prettyAt level ++ ","
        ++ prettyMembers level (next :: rest)

end

def Value.pretty (value : Value) : String :=
  value.prettyAt 0

def Value.text (pretty : Bool) (value : Value) : String :=
  if pretty then value.pretty else value.compact

end ChatBlocks.Json
