import ChatBlocks.Json.Printer
import ChatBlocks.Json.Record
import ChatBlocks.Json.Stream
import ChatBlocks.Token.Basic

/-!
# Tokens as JSON

A token is a tagged record whose tag is its kind. Absent parts are left out:
a text without a run has no `tokens`, and a link without a title no `title`,
while an empty run or title is written. Reading bounds the nesting, so a tree
of any depth is either read whole or refused.
-/

namespace ChatBlocks

open Json (Value)

def optionalMember {α : Type} (key : String) (encode : α → Value) :
    Option α → List (String × Value)
  | none => []
  | some value => [(key, encode value)]

mutual

def Token.toJson : Token → Value
  | .text text run raw =>
      .object ([("type", .string "text"), ("text", .string text)] ++ runMember run
        ++ [("raw", .string raw)])
  | .link href title tokens raw =>
      .object ([("type", .string "link"), ("href", .string href)]
        ++ optionalMember "title" .string title
        ++ [("tokens", .array (tokensToJson tokens)), ("raw", .string raw)])
  | .image href title text raw =>
      .object ([("type", .string "image"), ("href", .string href)]
        ++ optionalMember "title" .string title
        ++ [("text", .string text), ("raw", .string raw)])
  | .strong tokens raw =>
      .object [("type", .string "strong"), ("tokens", .array (tokensToJson tokens)),
        ("raw", .string raw)]
  | .em tokens raw =>
      .object [("type", .string "em"), ("tokens", .array (tokensToJson tokens)),
        ("raw", .string raw)]
  | .del tokens raw =>
      .object [("type", .string "del"), ("tokens", .array (tokensToJson tokens)),
        ("raw", .string raw)]
  | .codespan text raw =>
      .object [("type", .string "codespan"), ("text", .string text), ("raw", .string raw)]
  | .br raw => .object [("type", .string "br"), ("raw", .string raw)]
  | .heading depth tokens raw =>
      .object [("type", .string "heading"), ("depth", .natural depth.toNat),
        ("tokens", .array (tokensToJson tokens)), ("raw", .string raw)]
  | .paragraph tokens raw =>
      .object [("type", .string "paragraph"), ("tokens", .array (tokensToJson tokens)),
        ("raw", .string raw)]
  | .list ordered start items raw =>
      .object [("type", .string "list"), ("ordered", .bool ordered),
        ("start", .natural start.toNat), ("items", .array (itemsToJson items)),
        ("raw", .string raw)]
  | .blockquote tokens raw =>
      .object [("type", .string "blockquote"), ("tokens", .array (tokensToJson tokens)),
        ("raw", .string raw)]
  | .code lang text raw =>
      .object ([("type", .string "code")] ++ optionalMember "lang" .string lang
        ++ [("text", .string text), ("raw", .string raw)])
  | .hr raw => .object [("type", .string "hr"), ("raw", .string raw)]
  | .table header rows raw =>
      .object [("type", .string "table"), ("header", .array (cellsToJson header)),
        ("rows", .array (rowsToJson rows)), ("raw", .string raw)]
  | .space raw => .object [("type", .string "space"), ("raw", .string raw)]
  | .html raw => .object [("type", .string "html"), ("raw", .string raw)]
  | .other raw => .object [("type", .string "other"), ("raw", .string raw)]

def runMember : Option (List Token) → List (String × Value)
  | none => []
  | some tokens => [("tokens", .array (tokensToJson tokens))]

def tokensToJson : List Token → List Value
  | [] => []
  | token :: rest => token.toJson :: tokensToJson rest

def itemsToJson : List ListItem → List Value
  | [] => []
  | ⟨task, tokens, raw⟩ :: rest =>
      .object (optionalMember "task" .bool task
        ++ [("tokens", .array (tokensToJson tokens)), ("raw", .string raw)])
        :: itemsToJson rest

def cellsToJson : List TableCell → List Value
  | [] => []
  | ⟨tokens, raw⟩ :: rest =>
      .object [("tokens", .array (tokensToJson tokens)), ("raw", .string raw)]
        :: cellsToJson rest

def rowsToJson : List (List TableCell) → List Value
  | [] => []
  | cells :: rest => .array (cellsToJson cells) :: rowsToJson rest

end

def tokenNames : List String :=
  TokenKind.all.map TokenKind.name

def TokenKind.fields : TokenKind → List String
  | .text => ["text", "tokens", "raw"]
  | .link => ["href", "title", "tokens", "raw"]
  | .image => ["href", "title", "text", "raw"]
  | .strong | .em | .del | .paragraph | .blockquote => ["tokens", "raw"]
  | .codespan => ["text", "raw"]
  | .heading => ["depth", "tokens", "raw"]
  | .list => ["ordered", "start", "items", "raw"]
  | .code => ["lang", "text", "raw"]
  | .table => ["header", "rows", "raw"]
  | .br | .hr | .space | .html | .other => ["raw"]

def itemFields : List String := ["task", "tokens", "raw"]

def cellFields : List String := ["tokens", "raw"]

section Decoding

open Json (required optional arrayOf)

def ListItem.ofJson? (token : Value → Option Token) (value : Value) : Option ListItem := do
  match ← value.fields? itemFields with
  | [task, tokens, raw] =>
      let task ← optional Value.bool? task
      let tokens ← required (arrayOf token) tokens
      let raw ← required Value.string? raw
      some ⟨task, tokens, raw⟩
  | _ => none

def TableCell.ofJson? (token : Value → Option Token) (value : Value) : Option TableCell := do
  match ← value.fields? cellFields with
  | [tokens, raw] =>
      let tokens ← required (arrayOf token) tokens
      let raw ← required Value.string? raw
      some ⟨tokens, raw⟩
  | _ => none

/-- A token of a known kind out of its fields; the tokens inside it are read
by `token`. -/
def tokenOfFields? (token : Value → Option Token) (kind : TokenKind)
    (fields : List (Option Value)) : Option Token :=
  match kind, fields with
  | .text, [text, run, raw] => do
      let text ← required Value.string? text
      let run ← optional (arrayOf token) run
      let raw ← required Value.string? raw
      some (.text text run raw)
  | .link, [href, title, tokens, raw] => do
      let href ← required Value.string? href
      let title ← optional Value.string? title
      let tokens ← required (arrayOf token) tokens
      let raw ← required Value.string? raw
      some (.link href title tokens raw)
  | .image, [href, title, text, raw] => do
      let href ← required Value.string? href
      let title ← optional Value.string? title
      let text ← required Value.string? text
      let raw ← required Value.string? raw
      some (.image href title text raw)
  | .strong, [tokens, raw] => do
      let tokens ← required (arrayOf token) tokens
      let raw ← required Value.string? raw
      some (.strong tokens raw)
  | .em, [tokens, raw] => do
      let tokens ← required (arrayOf token) tokens
      let raw ← required Value.string? raw
      some (.em tokens raw)
  | .del, [tokens, raw] => do
      let tokens ← required (arrayOf token) tokens
      let raw ← required Value.string? raw
      some (.del tokens raw)
  | .codespan, [text, raw] => do
      let text ← required Value.string? text
      let raw ← required Value.string? raw
      some (.codespan text raw)
  | .br, [raw] => do
      let raw ← required Value.string? raw
      some (.br raw)
  | .heading, [depth, tokens, raw] => do
      let depth ← required (Value.naturalBelow? UInt8.size) depth
      let tokens ← required (arrayOf token) tokens
      let raw ← required Value.string? raw
      some (.heading (UInt8.ofNat depth) tokens raw)
  | .paragraph, [tokens, raw] => do
      let tokens ← required (arrayOf token) tokens
      let raw ← required Value.string? raw
      some (.paragraph tokens raw)
  | .list, [ordered, start, items, raw] => do
      let ordered ← required Value.bool? ordered
      let start ← required (Value.naturalBelow? UInt64.size) start
      let items ← required (arrayOf (ListItem.ofJson? token)) items
      let raw ← required Value.string? raw
      some (.list ordered (UInt64.ofNat start) items raw)
  | .blockquote, [tokens, raw] => do
      let tokens ← required (arrayOf token) tokens
      let raw ← required Value.string? raw
      some (.blockquote tokens raw)
  | .code, [lang, text, raw] => do
      let lang ← optional Value.string? lang
      let text ← required Value.string? text
      let raw ← required Value.string? raw
      some (.code lang text raw)
  | .hr, [raw] => do
      let raw ← required Value.string? raw
      some (.hr raw)
  | .table, [header, rows, raw] => do
      let header ← required (arrayOf (TableCell.ofJson? token)) header
      let rows ← required (arrayOf (arrayOf (TableCell.ofJson? token))) rows
      let raw ← required Value.string? raw
      some (.table header rows raw)
  | .space, [raw] => do
      let raw ← required Value.string? raw
      some (.space raw)
  | .html, [raw] => do
      let raw ← required Value.string? raw
      some (.html raw)
  | .other, [raw] => do
      let raw ← required Value.string? raw
      some (.other raw)
  | _, _ => none

/-- A token whose tree has at most `limit` levels. The tag may be the number
of its kind. -/
def Token.ofJsonWithin? : Nat → Value → Option Token
  | 0, _ => none
  | limit + 1, value => do
      let (tag, body) ← value.untag?
      let kind ← (Json.tagName? tokenNames tag).bind TokenKind.ofName?
      let fields ← body.fields? kind.fields
      tokenOfFields? (Token.ofJsonWithin? limit) kind fields

def Token.ofTagged? (name : String) (body : Value) : Option Token := do
  let kind ← TokenKind.ofName? name
  let fields ← body.fields? kind.fields
  tokenOfFields? (Token.ofJsonWithin? Json.nestingLimit) kind fields

/-- A token that does not lie inside another one. Its tag is a name. -/
def Token.ofJson? (value : Value) : Option Token := do
  let (tag, body) ← value.untag?
  let name ← tag.string?
  Token.ofTagged? name body

def ListBlock.ofJson? (value : Value) : Option ListBlock := do
  match ← value.fields? TokenKind.list.fields with
  | [ordered, start, items, raw] =>
      let ordered ← required Value.bool? ordered
      let start ← required (Value.naturalBelow? UInt64.size) start
      let items ←
        required (arrayOf (ListItem.ofJson? (Token.ofJsonWithin? Json.nestingLimit))) items
      let raw ← required Value.string? raw
      some ⟨ordered, UInt64.ofNat start, items, raw⟩
  | _ => none

def readTokens (text : String) : Except Json.Fault (List Token) :=
  let element (input : List Char) : Json.Reading Token :=
    Json.streamDecoded (Json.streamTagged tokenNames (Json.nestingLimit - 1))
      (fun (name, body) => Token.ofTagged? name body) input
  Json.streamAll (Json.streamArray element) text

end Decoding

def tokensText (pretty : Bool) (tokens : List Token) : String :=
  (Value.array (tokensToJson tokens)).text pretty

end ChatBlocks
