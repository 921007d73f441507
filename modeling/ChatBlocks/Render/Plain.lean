import ChatBlocks.Token.Basic

/-!
# Plain text

The literal text of a token sequence with all markup removed. Text contributes
its content, a token with children contributes theirs, a list its items', a
table its cells' with the header first, and any other leaf its source.
-/

namespace ChatBlocks

mutual

def plainTextOfToken : Token → String
  | .text text _ _ => text
  | .link _ _ tokens _ => plainText tokens
  | .strong tokens _ => plainText tokens
  | .em tokens _ => plainText tokens
  | .del tokens _ => plainText tokens
  | .heading _ tokens _ => plainText tokens
  | .paragraph tokens _ => plainText tokens
  | .blockquote tokens _ => plainText tokens
  | .list _ _ items _ => plainTextOfItems items
  | .table header rows _ => plainTextOfCells header ++ plainTextOfRows rows
  | .image _ _ _ raw => raw
  | .codespan _ raw => raw
  | .br raw => raw
  | .code _ _ raw => raw
  | .hr raw => raw
  | .space raw => raw
  | .html raw => raw
  | .other raw => raw

def plainText : List Token → String
  | [] => ""
  | token :: rest => plainTextOfToken token ++ plainText rest

def plainTextOfItems : List ListItem → String
  | [] => ""
  | ⟨_, tokens, _⟩ :: rest => plainText tokens ++ plainTextOfItems rest

def plainTextOfCells : List TableCell → String
  | [] => ""
  | ⟨tokens, _⟩ :: rest => plainText tokens ++ plainTextOfCells rest

def plainTextOfRows : List (List TableCell) → String
  | [] => ""
  | cells :: rest => plainTextOfCells cells ++ plainTextOfRows rest

end

end ChatBlocks
