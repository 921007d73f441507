import ChatBlocks.Block.Json
import ChatBlocks.Proofs.JsonRecords
import ChatBlocks.Proofs.JsonStreaming

/-!
# Messages are read back as they were written

A message is at most eleven arrays and objects deep and holds no numbers, so
its text is always read back. A cell goes through a rich text with one section
and one styled text, where the bold flag is the presence of the style.
-/

namespace ChatBlocks.MessageRoundTrip

open Json JsonLayout JsonReading JsonStreaming JsonRecords

def textValues (object : TextObject) : List (Option Value) :=
  [some (.string object.style.name), some (.string object.text), object.emoji.map .bool]

theorem text_record (object : TextObject) :
    object.toJson = .object (present ["type", "text", "emoji"] (textValues object)) := by
  obtain ⟨style, text, emoji⟩ := object
  cases emoji <;> rfl

theorem decode_text (object : TextObject) : TextObject.ofJson? object.toJson = some object := by
  have fields : object.toJson.fields? ["type", "text", "emoji"] = some (textValues object) := by
    rw [text_record]
    exact fields_of_present rfl (by decide)
  have style : nameOf? styleNames (.string object.style.name) = some object.style.name ∧
      TextStyle.ofName? object.style.name = some object.style := by
    cases object.style <;> decide
  simp [TextObject.ofJson?, fields, textValues, required, style, optional_bool, Value.string?]

theorem text_is_flat (object : TextObject) :
    object.toJson.depth = 1 ∧ numbersFit object.toJson := by
  obtain ⟨style, text, emoji⟩ := object
  cases emoji <;> exact ⟨rfl, by simp [TextObject.toJson, numbersFit, membersFit]⟩

theorem untag_as_tagged {name : String} {members : List (String × Value)}
    (untagged : ∀ member ∈ members, member.1 ≠ "type") :
    untagAs? name (.object (("type", .string name) :: members)) = some (.object members) := by
  simp [untagAs?, untag_tagged untagged, tagName?]

theorem elements_of_single {α : Type} (name : String) {element : Value → Option α}
    {value : Value} {item : α} (reads : element value = some item) :
    elementsOf? name element
        (.object [("type", .string name), ("elements", .array [value])]) = some [item] := by
  have untagged : untagAs? name
      (.object [("type", .string name), ("elements", .array [value])]) =
        some (.object [("elements", .array [value])]) := untag_as_tagged (by simp)
  have fields : (Value.object [("elements", .array [value])]).fields? ["elements"] =
      some [some (.array [value])] := rfl
  simp [elementsOf?, untagged, fields, required, arrayOf, Value.array?, reads]

def styleValue (bold : Bool) : Option Value :=
  if bold then some (.object [("bold", .bool true)]) else none

def leafValues (cell : Cell) : List (Option Value) :=
  [some (.string cell.text), styleValue cell.bold]

def leafToJson (cell : Cell) : Value :=
  .object (("type", .string "text") :: present ["text", "style"] (leafValues cell))

theorem cell_record (cell : Cell) :
    cell.toJson = .object [("type", .string "rich_text"), ("elements", .array [
      .object [("type", .string "rich_text_section"), ("elements", .array [leafToJson cell])]])] := by
  obtain ⟨text, bold⟩ := cell
  cases bold <;> rfl

theorem decode_leaf (cell : Cell) : Cell.ofLeafJson? (leafToJson cell) = some cell := by
  have untagged : untagAs? "text" (leafToJson cell) =
      some (.object (present ["text", "style"] (leafValues cell))) :=
    untag_as_tagged (present_avoids (by decide) (leafValues cell))
  have fields : (Value.object (present ["text", "style"] (leafValues cell))).fields?
      ["text", "style"] = some (leafValues cell) := fields_of_present rfl (by decide)
  obtain ⟨style, reads, bold⟩ : ∃ style,
      Json.optional boldOfStyle? (styleValue cell.bold) = some style ∧
        style.getD false = cell.bold := by
    cases cell.bold
    · exact ⟨none, rfl, rfl⟩
    · exact ⟨some true, rfl, rfl⟩
  rw [leafValues] at untagged fields
  simp [Cell.ofLeafJson?, untagged, fields, required, reads, bold, Value.string?]

theorem decode_cell (cell : Cell) : Cell.ofJson? cell.toJson = some cell := by
  have leaves : elementsOf? "rich_text_section" Cell.ofLeafJson?
      (.object [("type", .string "rich_text_section"), ("elements", .array [leafToJson cell])]) =
        some [cell] := elements_of_single _ (decode_leaf cell)
  have sections := elements_of_single "rich_text" leaves
  rw [cell_record, Cell.ofJson?, sections]
  rfl

theorem cell_is_flat (cell : Cell) : cell.toJson.depth ≤ 6 ∧ numbersFit cell.toJson := by
  obtain ⟨text, bold⟩ := cell
  cases bold
  · exact ⟨Nat.le_of_ble_eq_true rfl, by simp [Cell.toJson, numbersFit, elementsFit, membersFit]⟩
  · exact ⟨Nat.le_of_ble_eq_true rfl, by simp [Cell.toJson, numbersFit, elementsFit, membersFit]⟩

def blockName : Block → String
  | .header _ => "header"
  | .section _ => "section"
  | .image .. => "image"
  | .divider => "divider"
  | .table _ => "table"

def blockFields : Block → List String
  | .header _ => ["text"]
  | .section _ => ["text"]
  | .image .. => ["image_url", "alt_text", "title"]
  | .divider => []
  | .table _ => ["rows"]

def rowsValue (rows : List (List Cell)) : Value :=
  .array (rows.map fun cells => .array (cells.map Cell.toJson))

def blockValues : Block → List (Option Value)
  | .header text => [some text.toJson]
  | .section text => [some text.toJson]
  | .image imageUrl altText title =>
      [some (.string imageUrl), some (.string altText), title.map TextObject.toJson]
  | .divider => []
  | .table rows => [some (rowsValue rows)]

theorem block_record (block : Block) :
    block.toJson = .object (("type", .string (blockName block))
      :: present (blockFields block) (blockValues block)) := by
  cases block with
  | image imageUrl altText title => cases title <;> rfl
  | _ => rfl

theorem fields_of_block (block : Block) :
    (Value.object (present (blockFields block) (blockValues block))).fields? (blockFields block) =
      some (blockValues block) := by
  cases block <;> exact fields_of_present rfl (by simp [blockFields])

theorem decode_title (title : Option TextObject) :
    Json.optional TextObject.ofJson? (title.map TextObject.toJson) = some title :=
  optional_encoded fun object _ => ⟨Value.noConfusion, decode_text object⟩

theorem decode_rows (rows : List (List Cell)) :
    arrayOf (arrayOf Cell.ofJson?) (rowsValue rows) = some rows :=
  array_of_encoded fun _ _ => array_of_encoded fun cell _ => decode_cell cell

theorem decode_block (block : Block) :
    Block.ofTagged? (blockName block)
      (.object (present (blockFields block) (blockValues block))) = some block := by
  have fields := fields_of_block block
  cases block with
  | header text | «section» text =>
      simp only [blockFields, blockValues] at fields
      simp [Block.ofTagged?, blockName, blockFields, blockValues, fields, required, decode_text]
  | image imageUrl altText title =>
      simp only [blockFields, blockValues] at fields
      simp [Block.ofTagged?, blockName, blockFields, blockValues, fields, required, decode_title,
        Value.string?]
  | divider => rfl
  | table rows =>
      simp only [blockFields, blockValues] at fields
      simp [Block.ofTagged?, blockName, blockFields, blockValues, fields, required, decode_rows]

theorem rows_are_flat (rows : List (List Cell)) :
    (rowsValue rows).depth ≤ 8 ∧ numbersFit (rowsValue rows) := by
  constructor
  · apply Nat.succ_le_succ
    rw [depth_of_elements_le_iff, List.forall_mem_map]
    intro cells _
    apply Nat.succ_le_succ
    rw [depth_of_elements_le_iff, List.forall_mem_map]
    intro cell _
    exact (cell_is_flat cell).1
  · rw [rowsValue, numbersFit, elements_fit_iff, List.forall_mem_map]
    intro cells _
    rw [numbersFit, elements_fit_iff, List.forall_mem_map]
    intro cell _
    exact (cell_is_flat cell).2

theorem block_is_flat (block : Block) :
    depthOfMembers (present (blockFields block) (blockValues block)) ≤ 8 ∧
      membersFit (present (blockFields block) (blockValues block)) := by
  constructor
  · rw [depth_of_present_le_iff (by cases block <;> rfl)]
    intro value member
    cases block with
    | header text | «section» text =>
        rw [Option.some.inj (List.mem_singleton.mp member), (text_is_flat text).1]
        decide
    | image imageUrl altText title =>
        simp only [blockValues, List.mem_cons, Option.some.injEq, List.not_mem_nil, or_false,
          eq_comm (a := some value), Option.map_eq_some_iff] at member
        rcases member with rfl | rfl | ⟨title, rfl, rfl⟩
        · exact Nat.zero_le _
        · exact Nat.zero_le _
        · rw [(text_is_flat title).1]
          decide
    | divider => exact absurd member List.not_mem_nil
    | table rows =>
        rw [Option.some.inj (List.mem_singleton.mp member)]
        exact (rows_are_flat rows).1
  · apply present_fits
    cases block with
    | header text | «section» text =>
        have flat : fieldFits (some text.toJson) := (text_is_flat text).2
        simp [blockValues, flat]
    | image imageUrl altText title =>
        have flat : fieldFits (title.map TextObject.toJson) := by
          cases title with
          | none => trivial
          | some title => exact (text_is_flat title).2
        simp [blockValues, flat]
    | divider => simp [blockValues]
    | table rows =>
        have flat : fieldFits (some (rowsValue rows)) := (rows_are_flat rows).2
        simp [blockValues, flat]

theorem message_fits (message : Message) : numbersFit message.toJson := by
  have blocks : elementsFit (message.blocks.map Block.toJson) := by
    rw [elements_fit_iff, List.forall_mem_map]
    intro block _
    rw [block_record]
    exact ⟨trivial, (block_is_flat block).2⟩
  exact ⟨blocks, trivial⟩

theorem takes_back_block (layout : Layout) (level : Nat) (block : Block) :
    TakesBack layout
      (streamDecoded (streamTagged blockNames (nestingLimit - 2))
        fun (name, body) => Block.ofTagged? name body) level block.toJson block := by
  have known : blockNames.contains (blockName block) = true := by
    cases block <;> rfl
  have untagged : "type" ∉ blockFields block := by
    cases block <;> simp [blockFields]
  obtain ⟨shallow, fits⟩ := block_is_flat block
  rw [block_record]
  refine takes_back_decoded (takes_back_tagged known ?_ ?_ fits) (decode_block block)
  · exact present_avoids untagged (blockValues block)
  · exact Nat.lt_of_le_of_lt shallow (by decide)

def recode (pretty : Bool) (text : String) : Except Fault String :=
  (Message.read text).map (Message.text pretty)

theorem read_message (pretty : Bool) (message : Message) :
    Message.read (message.text pretty) = .ok message := by
  have blocks : ∀ block ∈ message.blocks, TakesBack (layoutOf pretty) _ 2 block.toJson block :=
    fun block _ => takes_back_block (layoutOf pretty) 2 block
  have whole := stream_all_text (takes_back_field "blocks" (takes_back_array blocks))
  rw [Message.text, Message.toJson, Message.read, whole]
  rfl

/-- Every message is read back from either layout. So what is written after
reading any text does not change when it is read and written once more, and
only the last layout counts. -/
theorem messages_read_back :
    (∀ pretty message, Message.read (Message.text pretty message) = .ok message) ∧
      ∀ first second text, (recode first text).bind (recode second) = recode second text := by
  refine ⟨read_message, ?_⟩
  intro first second text
  cases read : Message.read text with
  | error fault => simp [recode, read, Except.map, Except.bind]
  | ok message => simp [recode, read, read_message, Except.map, Except.bind]

end ChatBlocks.MessageRoundTrip
