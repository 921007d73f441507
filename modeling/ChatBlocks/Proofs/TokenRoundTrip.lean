import ChatBlocks.Proofs.JsonRecords
import ChatBlocks.Proofs.JsonStreaming
import ChatBlocks.Token.Json

/-!
# Tokens are read back as they were written

Every kind of token is a record with absent fields left out, so one decoding
lemma serves all of them. A token sequence is read back from its text in either
layout when the text lies no deeper than the reader may go, and two sequences
with one text are the same sequence, whatever their depth.
-/

namespace ChatBlocks.TokenRoundTrip

open Json JsonLayout JsonReading JsonStreaming JsonRecords
open Text (fitsFloat)

def arrayField (tokens : List Token) : Value :=
  .array (tokensToJson tokens)

/-- The values of a token's fields, in the order of its kind's field names. -/
def fieldValues : Token → List (Option Value)
  | .text text run raw => [some (.string text), run.map arrayField, some (.string raw)]
  | .link href title tokens raw =>
      [some (.string href), title.map .string, some (arrayField tokens), some (.string raw)]
  | .image href title text raw =>
      [some (.string href), title.map .string, some (.string text), some (.string raw)]
  | .strong tokens raw => [some (arrayField tokens), some (.string raw)]
  | .em tokens raw => [some (arrayField tokens), some (.string raw)]
  | .del tokens raw => [some (arrayField tokens), some (.string raw)]
  | .codespan text raw => [some (.string text), some (.string raw)]
  | .br raw => [some (.string raw)]
  | .heading depth tokens raw =>
      [some (.natural depth.toNat), some (arrayField tokens), some (.string raw)]
  | .paragraph tokens raw => [some (arrayField tokens), some (.string raw)]
  | .list ordered start items raw =>
      [some (.bool ordered), some (.natural start.toNat), some (.array (itemsToJson items)),
        some (.string raw)]
  | .blockquote tokens raw => [some (arrayField tokens), some (.string raw)]
  | .code lang text raw => [lang.map .string, some (.string text), some (.string raw)]
  | .hr raw => [some (.string raw)]
  | .table header rows raw =>
      [some (.array (cellsToJson header)), some (.array (rowsToJson rows)), some (.string raw)]
  | .space raw => [some (.string raw)]
  | .html raw => [some (.string raw)]
  | .other raw => [some (.string raw)]

def itemValues (item : ListItem) : List (Option Value) :=
  [item.task.map .bool, some (arrayField item.tokens), some (.string item.raw)]

def cellValues (cell : TableCell) : List (Option Value) :=
  [some (arrayField cell.tokens), some (.string cell.raw)]

def itemToJson (item : ListItem) : Value :=
  .object (present itemFields (itemValues item))

def cellToJson (cell : TableCell) : Value :=
  .object (present cellFields (cellValues cell))

theorem token_record (token : Token) :
    token.toJson = .object (("type", .string token.kind.name)
      :: present token.kind.fields (fieldValues token)) := by
  cases token with
  | text text run raw => cases run <;> rfl
  | link href title tokens raw => cases title <;> rfl
  | image href title text raw => cases title <;> rfl
  | code lang text raw => cases lang <;> rfl
  | _ => rfl

theorem tokens_as_map (tokens : List Token) : tokensToJson tokens = tokens.map Token.toJson := by
  induction tokens with
  | nil => rfl
  | cons token rest ih => rw [tokensToJson, ih, List.map_cons]

theorem items_as_map (items : List ListItem) : itemsToJson items = items.map itemToJson := by
  induction items with
  | nil => rfl
  | cons item rest ih =>
      obtain ⟨task, tokens, raw⟩ := item
      rw [itemsToJson, ih, List.map_cons]
      cases task <;> rfl

theorem cells_as_map (cells : List TableCell) : cellsToJson cells = cells.map cellToJson := by
  induction cells with
  | nil => rfl
  | cons cell rest ih =>
      obtain ⟨tokens, raw⟩ := cell
      rw [cellsToJson, ih, List.map_cons]
      rfl

theorem rows_as_map (rows : List (List TableCell)) :
    rowsToJson rows = rows.map fun cells => .array (cells.map cellToJson) := by
  induction rows with
  | nil => rfl
  | cons cells rest ih => rw [rowsToJson, ih, cells_as_map, List.map_cons]

theorem fields_of_kind (kind : TokenKind) : kind.fields.Nodup ∧ "type" ∉ kind.fields := by
  cases kind <;> decide

theorem kind_of_name (kind : TokenKind) : TokenKind.ofName? kind.name = some kind := by
  cases kind <;> decide

theorem name_of_kind (kind : TokenKind) : tokenNames.contains kind.name = true := by
  cases kind <;> decide

theorem fields_as_many_as_values (token : Token) :
    token.kind.fields.length = (fieldValues token).length := by
  cases token <;> rfl

theorem untag_token (token : Token) :
    token.toJson.untag? = some (.string token.kind.name,
      .object (present token.kind.fields (fieldValues token))) := by
  rw [token_record]
  exact untag_tagged (present_avoids (fields_of_kind token.kind).2 (fieldValues token))

section Decoding

variable {decode : Value → Option Token} {limit : Nat}
  (reads : ∀ token : Token, token.toJson.depth ≤ limit → decode token.toJson = some token)

include reads

theorem decode_tokens (tokens : List Token) (shallow : (arrayField tokens).depth ≤ limit) :
    arrayOf decode (arrayField tokens) = some tokens := by
  rw [arrayField, tokens_as_map] at shallow ⊢
  exact decode_array_within reads shallow

theorem decode_item (item : ListItem) (shallow : (itemToJson item).depth ≤ limit) :
    ListItem.ofJson? decode (itemToJson item) = some item := by
  have fields : (itemToJson item).fields? itemFields = some (itemValues item) :=
    fields_of_present rfl (by decide)
  have parts := (depth_of_present_le_iff rfl limit).mp (Nat.le_of_succ_le shallow)
  have children := decode_tokens reads item.tokens (parts _ (by simp [itemValues]))
  obtain ⟨task, tokens, raw⟩ := item
  simp [ListItem.ofJson?, fields, itemValues, children, required, optional_bool, Value.string?]

theorem decode_cell (cell : TableCell) (shallow : (cellToJson cell).depth ≤ limit) :
    TableCell.ofJson? decode (cellToJson cell) = some cell := by
  have fields : (cellToJson cell).fields? cellFields = some (cellValues cell) :=
    fields_of_present rfl (by decide)
  have parts := (depth_of_present_le_iff rfl limit).mp (Nat.le_of_succ_le shallow)
  have children := decode_tokens reads cell.tokens (parts _ (by simp [cellValues]))
  obtain ⟨tokens, raw⟩ := cell
  simp [TableCell.ofJson?, fields, cellValues, children, required, Value.string?]

theorem decode_items (items : List ListItem)
    (shallow : (Value.array (itemsToJson items)).depth ≤ limit) :
    arrayOf (ListItem.ofJson? decode) (.array (itemsToJson items)) = some items := by
  rw [items_as_map] at shallow ⊢
  exact decode_array_within (decode_item reads) shallow

theorem decode_cells (cells : List TableCell)
    (shallow : (Value.array (cells.map cellToJson)).depth ≤ limit) :
    arrayOf (TableCell.ofJson? decode) (.array (cells.map cellToJson)) = some cells :=
  decode_array_within (decode_cell reads) shallow

theorem decode_rows (rows : List (List TableCell))
    (shallow : (Value.array (rowsToJson rows)).depth ≤ limit) :
    arrayOf (arrayOf (TableCell.ofJson? decode)) (.array (rowsToJson rows)) = some rows := by
  rw [rows_as_map] at shallow ⊢
  exact decode_array_within (decode_cells reads) shallow

theorem decode_run (run : Option (List Token))
    (shallow : ∀ tokens, run = some tokens → (arrayField tokens).depth ≤ limit) :
    optional (arrayOf decode) (run.map arrayField) = some run := by
  apply optional_encoded
  intro tokens present
  exact ⟨Value.noConfusion, decode_tokens reads tokens (shallow tokens present)⟩

theorem decode_fields (token : Token)
    (shallow : depthOfMembers (present token.kind.fields (fieldValues token)) ≤ limit) :
    tokenOfFields? decode token.kind (fieldValues token) = some token := by
  have parts := (depth_of_present_le_iff (fields_as_many_as_values token) limit).mp shallow
  have children := fun tokens member => decode_tokens reads tokens (parts _ member)
  cases token with
  | text text run raw =>
      have run := decode_run reads run (by
        rintro tokens rfl
        exact parts _ (by simp [fieldValues]))
      simp [Token.kind, tokenOfFields?, fieldValues, required, run, Value.string?]
  | link href title tokens raw =>
      have children := children tokens (by simp [fieldValues])
      simp [Token.kind, tokenOfFields?, fieldValues, required, optional_string, children,
        Value.string?]
  | image href title text raw =>
      simp [Token.kind, tokenOfFields?, fieldValues, required, optional_string, Value.string?]
  | code lang text raw =>
      simp [Token.kind, tokenOfFields?, fieldValues, required, optional_string, Value.string?]
  | strong tokens raw | em tokens raw | del tokens raw | paragraph tokens raw
  | blockquote tokens raw =>
      have children := children tokens (by simp [fieldValues])
      simp [Token.kind, tokenOfFields?, fieldValues, required, children, Value.string?]
  | heading depth tokens raw =>
      have children := children tokens (by simp [fieldValues])
      have small := depth.toNat_lt_size
      simp [Token.kind, tokenOfFields?, fieldValues, required, children, Value.string?,
        Value.naturalBelow?, Value.natural, small]
  | list ordered start items raw =>
      have items := decode_items reads items (parts _ (by simp [fieldValues]))
      have small := start.toNat_lt_size
      simp [Token.kind, tokenOfFields?, fieldValues, required, items, Value.string?, Value.bool?,
        Value.naturalBelow?, Value.natural, small]
  | table header rows raw =>
      have header_cells := parts (.array (cellsToJson header)) (by simp [fieldValues])
      rw [cells_as_map] at header_cells
      have header_row := decode_cells reads header header_cells
      have body := decode_rows reads rows (parts _ (by simp [fieldValues]))
      simp [Token.kind, tokenOfFields?, fieldValues, required, cells_as_map, header_row, body,
        Value.string?]
  | codespan text raw => rfl
  | br raw | hr raw | space raw | html raw | other raw => rfl

end Decoding

theorem decode_within (limit : Nat) : ∀ token : Token, token.toJson.depth ≤ limit →
    Token.ofJsonWithin? limit token.toJson = some token := by
  -- The decoder recurses on the limit and not on the tree, and so does the proof.
  induction limit with
  | zero =>
      intro token shallow
      rw [token_record] at shallow
      exact absurd shallow (Nat.not_succ_le_zero _)
  | succ limit ih =>
      intro token shallow
      have fields := fields_of_present (fields_as_many_as_values token) (fields_of_kind token.kind).1
      have tag : tagName? tokenNames (.string token.kind.name) = some token.kind.name :=
        if_pos (name_of_kind token.kind)
      rw [token_record] at shallow
      have inside := decode_fields ih token (Nat.le_of_succ_le_succ shallow)
      simp [Token.ofJsonWithin?, untag_token, tag, kind_of_name, fields, inside]

theorem decode_tagged (token : Token) (shallow : token.toJson.depth ≤ nestingLimit) :
    Token.ofTagged? token.kind.name
        (.object (present token.kind.fields (fieldValues token))) = some token := by
  have fields := fields_of_present (fields_as_many_as_values token) (fields_of_kind token.kind).1
  rw [token_record] at shallow
  have inside := decode_fields (decode_within nestingLimit) token (Nat.le_of_succ_le shallow)
  simp [Token.ofTagged?, kind_of_name, fields, inside]

theorem natural_fits {number : Nat} (word : number < UInt64.size) :
    fieldFits (some (.natural number)) := by
  change fitsFloat number 0 = true
  have digits : (Nat.repr number).length ≤ 20 :=
    (Nat.length_repr_le_iff (by decide)).mpr (Nat.lt_trans word (by decide))
  by_cases zero : number = 0
  · rw [zero]
    rfl
  · have few : ¬((Nat.repr number).length + (0 : Int) > 310) := by omega
    have fewer : (Nat.repr number).length + (0 : Int) < 300 := by omega
    simp only [fitsFloat, if_neg zero, if_neg few, if_pos fewer]

theorem fit_of_fields {token : Token} (fit : ∀ field ∈ fieldValues token, fieldFits field) :
    numbersFit token.toJson := by
  rw [token_record]
  exact ⟨trivial, present_fits fit⟩

mutual

theorem token_fits : ∀ token : Token, numbersFit token.toJson
  | .text text run raw => by
      have children := run_fits run
      apply fit_of_fields
      simp [fieldValues, children]
  | .link href title tokens raw => by
      have children : fieldFits (some (arrayField tokens)) := tokens_fit tokens
      apply fit_of_fields
      simp [fieldValues, children]
  | .image href title text raw => by
      apply fit_of_fields
      simp [fieldValues]
  | .strong tokens raw | .em tokens raw | .del tokens raw | .paragraph tokens raw
  | .blockquote tokens raw => by
      have children : fieldFits (some (arrayField tokens)) := tokens_fit tokens
      apply fit_of_fields
      simp [fieldValues, children]
  | .heading depth tokens raw => by
      have children : fieldFits (some (arrayField tokens)) := tokens_fit tokens
      have word := natural_fits (Nat.lt_trans depth.toNat_lt_size (by decide))
      apply fit_of_fields
      simp [fieldValues, word, children]
  | .list ordered start items raw => by
      have children : fieldFits (some (.array (itemsToJson items))) := items_fit items
      have word := natural_fits start.toNat_lt_size
      apply fit_of_fields
      simp [fieldValues, word, children]
  | .table header rows raw => by
      have header_row : fieldFits (some (.array (cellsToJson header))) := cells_fit header
      have body : fieldFits (some (.array (rowsToJson rows))) := rows_fit rows
      apply fit_of_fields
      simp [fieldValues, header_row, body]
  | .code lang text raw => by
      apply fit_of_fields
      simp [fieldValues]
  | .codespan text raw => by
      apply fit_of_fields
      simp [fieldValues]
  | .br raw | .hr raw | .space raw | .html raw | .other raw => by
      apply fit_of_fields
      simp [fieldValues]

theorem run_fits : ∀ run : Option (List Token), fieldFits (run.map arrayField)
  | none => trivial
  | some tokens => tokens_fit tokens

theorem tokens_fit : ∀ tokens : List Token, elementsFit (tokensToJson tokens)
  | [] => trivial
  | token :: rest => ⟨token_fits token, tokens_fit rest⟩

theorem items_fit : ∀ items : List ListItem, elementsFit (itemsToJson items)
  | [] => trivial
  | ⟨task, tokens, raw⟩ :: rest => by
      have children : fieldFits (some (arrayField tokens)) := tokens_fit tokens
      have later := items_fit rest
      rw [items_as_map] at later ⊢
      refine ⟨present_fits ?_, later⟩
      simp [itemValues, children]

theorem cells_fit : ∀ cells : List TableCell, elementsFit (cellsToJson cells)
  | [] => trivial
  | ⟨tokens, raw⟩ :: rest => by
      have children : fieldFits (some (arrayField tokens)) := tokens_fit tokens
      have later := cells_fit rest
      rw [cells_as_map] at later ⊢
      refine ⟨present_fits ?_, later⟩
      simp [cellValues, children]

theorem rows_fit : ∀ rows : List (List TableCell), elementsFit (rowsToJson rows)
  | [] => trivial
  | cells :: rest => ⟨cells_fit cells, rows_fit rest⟩

end

theorem takes_back_token (layout : Layout) (level : Nat) (token : Token)
    (shallow : token.toJson.depth < nestingLimit) :
    TakesBack layout
      (streamDecoded (streamTagged tokenNames (nestingLimit - 1))
        fun (name, body) => Token.ofTagged? name body) level token.toJson token := by
  have decodes := decode_tagged token (Nat.le_of_lt shallow)
  have fits := token_fits token
  rw [token_record] at shallow fits ⊢
  refine takes_back_decoded (takes_back_tagged (name_of_kind token.kind) ?_ ?_ fits.2) decodes
  · exact present_avoids (fields_of_kind token.kind).2 (fieldValues token)
  · exact Nat.lt_of_succ_lt_succ shallow

theorem token_of_json {token other : Token} (same : token.toJson = other.toJson) :
    token = other := by
  -- Decoding with the tree's own depth as limit recovers both tokens.
  have read := decode_within other.toJson.depth token (Nat.le_of_eq (congrArg Value.depth same))
  rw [same, decode_within other.toJson.depth other (Nat.le_refl _)] at read
  exact (Option.some.inj read).symm

/-- A token sequence whose text is no deeper than the reader may go is read back
from either layout. At any depth no two sequences have one text, so an absent
run, title, language or task is never written like an empty or false one. -/
theorem tokens_read_back (tokens : List Token)
    (shallow : (Value.array (tokensToJson tokens)).depth ≤ nestingLimit) (pretty : Bool) :
    readTokens (tokensText pretty tokens) = .ok tokens ∧
      Function.Injective (tokensText pretty) := by
  constructor
  · apply stream_all_text
    rw [tokens_as_map] at shallow ⊢
    apply takes_back_array
    intro token member
    have inside := depth_lt_of_element (List.mem_map_of_mem (f := Token.toJson) member)
    exact takes_back_token _ _ token (Nat.lt_of_lt_of_le inside shallow)
  · intro first second same
    have values : Value.array (tokensToJson first) = Value.array (tokensToJson second) :=
      value_of_text (tokens_fit first) (tokens_fit second) same
    rw [tokens_as_map, tokens_as_map] at values
    exact (List.map_inj_right fun _ _ => token_of_json).mp (Value.array.inj values)

def deepTokens : List Token :=
  Nat.repeat (fun tokens => [.blockquote tokens ">"]) 60
    [.text "a" none "\\", .text "a" (some []) "\\", .link "u" none [] "\"",
      .link "u" (some "") [.br "\u0000"] "", .code none "" "", .code (some "") "\u001f\n" "",
      .heading 255 [.text "é😀" none ""] "",
      .list true 18446744073709551615
        [⟨none, [], ""⟩, ⟨some false, [.hr ""], ""⟩, ⟨some true, [], "\t"⟩] "",
      .table [⟨[], ""⟩] [[], [⟨[.space "\r\n"], "|"⟩]] ""]

theorem deep_tokens_read_back :
    (Value.array (tokensToJson deepTokens)).depth = nestingLimit ∧
      readTokens (tokensText true deepTokens) = .ok deepTokens ∧
      tokensText true [.text "a" none "a"] ≠ tokensText true [.text "a" (some []) "a"] :=
  have depth : (Value.array (tokensToJson deepTokens)).depth = nestingLimit := by decide +kernel
  have read := tokens_read_back deepTokens (Nat.le_of_eq depth) true
  ⟨depth, read.1, fun same => nomatch read.2 same⟩

end ChatBlocks.TokenRoundTrip
