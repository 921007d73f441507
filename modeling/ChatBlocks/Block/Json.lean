import ChatBlocks.Block
import ChatBlocks.Json.Printer
import ChatBlocks.Json.Record
import ChatBlocks.Json.Stream

/-!
# Messages as JSON

A cell is written as a rich text that holds one section with one styled text.
A rich text with more parts is read by its first text: that of the first
section that has one. Without any text the cell is a single space.
-/

namespace ChatBlocks

open Json (Value required optional arrayOf)

def styleNames : List String := ["plain_text", "mrkdwn"]

def TextStyle.name : TextStyle → String
  | .plain => "plain_text"
  | .markup => "mrkdwn"

def TextStyle.ofName? (name : String) : Option TextStyle :=
  if name = "plain_text" then some .plain
  else if name = "mrkdwn" then some .markup
  else none

def TextObject.toJson (object : TextObject) : Value :=
  let emoji :=
    match object.emoji with
    | none => []
    | some emoji => [("emoji", Value.bool emoji)]
  .object ([("type", .string object.style.name), ("text", .string object.text)] ++ emoji)

def TextObject.ofJson? (value : Value) : Option TextObject := do
  match ← value.fields? ["type", "text", "emoji"] with
  | [style, text, emoji] =>
      let style ← required (Json.nameOf? styleNames) style
      let style ← TextStyle.ofName? style
      let text ← required Value.string? text
      let emoji ← optional Value.bool? emoji
      some ⟨style, text, emoji⟩
  | _ => none

def Cell.toJson (cell : Cell) : Value :=
  let style := if cell.bold then [("style", Value.object [("bold", .bool true)])] else []
  let leaf := Value.object ([("type", .string "text"), ("text", .string cell.text)] ++ style)
  let part := Value.object [("type", .string "rich_text_section"), ("elements", .array [leaf])]
  .object [("type", .string "rich_text"), ("elements", .array [part])]

def untagAs? (name : String) (value : Value) : Option Value := do
  let (tag, body) ← value.untag?
  let _ ← Json.tagName? [name] tag
  some body

def boldOfStyle? (value : Value) : Option Bool := do
  match ← value.fields? ["bold"] with
  | [bold] => required Value.bool? bold
  | _ => none

def Cell.ofLeafJson? (value : Value) : Option Cell := do
  let body ← untagAs? "text" value
  match ← body.fields? ["text", "style"] with
  | [text, style] =>
      let text ← required Value.string? text
      let style ← optional boldOfStyle? style
      some ⟨text, style.getD false⟩
  | _ => none

def elementsOf? {α : Type} (name : String) (element : Value → Option α) (value : Value) :
    Option (List α) := do
  let body ← untagAs? name value
  match ← body.fields? ["elements"] with
  | [elements] => required (arrayOf element) elements
  | _ => none

/-- The cell of a rich text without any text. -/
def Cell.blank : Cell := ⟨" ", false⟩

def Cell.ofJson? (value : Value) : Option Cell := do
  let sections ←
    elementsOf? "rich_text" (elementsOf? "rich_text_section" Cell.ofLeafJson?) value
  some ((sections.findSome? List.head?).getD Cell.blank)

def Block.toJson : Block → Value
  | .header text => .object [("type", .string "header"), ("text", text.toJson)]
  | .section text => .object [("type", .string "section"), ("text", text.toJson)]
  | .image imageUrl altText title =>
      let title :=
        match title with
        | none => []
        | some title => [("title", title.toJson)]
      .object ([("type", .string "image"), ("image_url", .string imageUrl),
        ("alt_text", .string altText)] ++ title)
  | .divider => .object [("type", .string "divider")]
  | .table rows =>
      .object [("type", .string "table"),
        ("rows", .array (rows.map fun cells => .array (cells.map Cell.toJson)))]

def blockNames : List String := ["header", "section", "image", "divider", "table"]

def Block.ofTagged? (name : String) (body : Value) : Option Block := do
  if name = "header" then
    match ← body.fields? ["text"] with
    | [text] => (required TextObject.ofJson? text).map .header
    | _ => none
  else if name = "section" then
    match ← body.fields? ["text"] with
    | [text] => (required TextObject.ofJson? text).map .section
    | _ => none
  else if name = "image" then
    match ← body.fields? ["image_url", "alt_text", "title"] with
    | [imageUrl, altText, title] =>
        let imageUrl ← required Value.string? imageUrl
        let altText ← required Value.string? altText
        let title ← optional TextObject.ofJson? title
        some (.image imageUrl altText title)
    | _ => none
  else if name = "divider" then
    if body.isEmptyRecord then some .divider else none
  else if name = "table" then
    match ← body.fields? ["rows"] with
    | [rows] => (required (arrayOf (arrayOf Cell.ofJson?)) rows).map .table
    | _ => none
  else
    none

def Message.toJson (message : Message) : Value :=
  .object [("blocks", .array (message.blocks.map Block.toJson))]

def Message.text (pretty : Bool) (message : Message) : String :=
  message.toJson.text pretty

def Message.read (text : String) : Except Json.Fault Message :=
  let block (input : List Char) : Json.Reading Block :=
    Json.streamDecoded (Json.streamTagged blockNames (Json.nestingLimit - 2))
      (fun (name, body) => Block.ofTagged? name body) input
  (Json.streamAll (Json.streamField "blocks" (Json.streamArray block)) text).map Message.mk

end ChatBlocks
