import ChatBlocks.Assembly
import ChatBlocks.Proofs.BlankText
import ChatBlocks.Proofs.ListWalk
import Mathlib.Tactic.ByContra

/-!
# Blocks with blank text

No table cell is ever empty, and no header or section is blank except the
section of a list whose every written item is blank behind a blank bullet. The
bullet is a free setting, and lists are the one kind of section that is neither
checked for blank text nor written with a visible mark of its own.
-/

namespace ChatBlocks.BlankBlocks

open Text BlankText ListWalk

/-- A header or section whose text is empty once it is trimmed. -/
def HasBlankText : Block → Prop
  | .header text => trim text.text = ""
  | .section text => trim text.text = ""
  | .image .. | .divider | .table _ => False

def HasEmptyCell : Block → Prop
  | .table rows => ∃ row ∈ rows, ∃ cell ∈ row, cell.text = ""
  | .header _ | .section _ | .image .. | .divider => False

theorem blank_list_indent (depth : Nat) : isBlank (listIndent depth) = true := by
  have space : isWhiteSpace ' ' = true := by decide
  simp [isBlank, listIndent, space]

theorem blank_line (options : RenderOptions) (depth : Nat) (item : WrittenItem) :
    isBlank (item.line options depth) =
      (!item.ordered && isBlank options.bullet && isBlank item.text) := by
  have mark : isBlank ". " = false := by decide
  cases shown : item.ordered <;>
    simp [WrittenItem.line, is_blank_append, blank_list_indent, mark, shown]

mutual

theorem blank_items (options : RenderOptions) (depth level : Nat) (ordered : Bool)
    (start : UInt64) : ∀ (position : Nat) (items : List ListItem),
    (renderItems options (depth + level) ordered start position items).all isBlank =
      (writtenItems level ordered start position items).all
        fun item => isBlank (item.line options depth)
  | _, [] => rfl
  | position, ⟨task, tokens, raw⟩ :: rest => by
      have later := blank_items options depth level ordered start (position + 1) rest
      have nested := blank_last_list options depth (level + 1) tokens
      have newline : isBlank "\n" = true := by decide
      have own : isBlank (listIndent (depth + level) ++ itemMarker options ordered start position
          ++ itemText tokens) =
          isBlank (WrittenItem.line options depth
            ⟨level, ordered, itemNumber start position, itemText tokens⟩) := rfl
      rw [renderItems, writtenItems, List.all_cons, List.all_cons, List.all_append, later, ← own]
      rw [← Nat.add_assoc] at nested
      cases rendered : renderLastList options (depth + level + 1) tokens with
      | none =>
          have unwritten : writtenOfLastList (level + 1) tokens = none := by
            simpa [rendered] using nested
          simp [unwritten]
      | some text =>
          obtain ⟨written, found, blank⟩ :
              ∃ written, writtenOfLastList (level + 1) tokens = some written ∧
                (written.all fun item => isBlank (item.line options depth)) = isBlank text := by
            simpa [rendered] using nested
          simp [found, blank, is_blank_append, newline, Bool.and_assoc]

theorem blank_last_list (options : RenderOptions) (depth level : Nat) : ∀ tokens : List Token,
    ((writtenOfLastList level tokens).map fun written =>
        written.all fun item => isBlank (item.line options depth)) =
      (renderLastList options (depth + level) tokens).map isBlank
  | [] => rfl
  | token :: rest => by
      have later := blank_last_list options depth level rest
      have own := blank_if_list options depth level token
      unfold renderLastList writtenOfLastList
      cases rendered : renderLastList options (depth + level) rest with
      | none =>
          have unwritten : writtenOfLastList level rest = none := by
            simpa [rendered] using later
          simpa [unwritten] using own
      | some text =>
          cases found : writtenOfLastList level rest with
          | none => simp [rendered, found] at later
          | some written => simpa [rendered, found] using later

theorem blank_if_list (options : RenderOptions) (depth level : Nat) : ∀ token : Token,
    ((writtenIfList level token).map fun written =>
        written.all fun item => isBlank (item.line options depth)) =
      (renderIfList options (depth + level) token).map isBlank
  | .list ordered start items raw => by
      have items := blank_items options depth level ordered start 0 items
      simpa only [renderIfList, writtenIfList, Option.map_some, is_blank_join_lines] using
        congrArg some items.symm
  | .text .. | .link .. | .image .. | .strong .. | .em .. | .del .. | .codespan .. | .br ..
  | .heading .. | .paragraph .. | .blockquote .. | .code .. | .hr .. | .table .. | .space ..
  | .html .. | .other .. => rfl

end

theorem blank_list_iff (options : RenderOptions) (ordered : Bool) (start : UInt64)
    (items : List ListItem) (raw : String) :
    isBlank (renderList options 0 ⟨ordered, start, items, raw⟩) = true ↔
      ∀ item ∈ writtenList ordered start items,
        item.ordered = false ∧ isBlank options.bullet = true ∧ isBlank item.text = true := by
  have lines := blank_items options 0 0 ordered start 0 items
  rw [renderList, is_blank_join_lines, lines, List.all_eq_true]
  simp only [writtenList, blank_line, Bool.and_eq_true, Bool.not_eq_true', and_assoc]

theorem quote_text_visible (options : RenderOptions) (tokens : List Token) :
    isBlank (quoteText options tokens) = false := by
  have mark : isBlank quoteMarker = false := by decide
  have some_line := lines_ne_nil (joinLines (tokens.map (quotedText options)))
  rw [quoteText, quoteLines, is_blank_join_lines]
  cases quoted : lines (joinLines (tokens.map (quotedText options))) with
  | nil => exact absurd quoted some_line
  | cons line rest => simp [is_blank_append, mark]

theorem fenced_code_visible (lang : Option String) (text : String) :
    isBlank (fencedCode lang text) = false := by
  have mark : isBlank Markup.fence = false := by decide
  simp [fencedCode, is_blank_append, mark]

/-- Among the tokens of the top level, only a list can give a blank text. -/
theorem blank_block_of_token (options : RenderOptions) (token : Token) :
    (∃ block ∈ (assembleToken options token).blocks, HasBlankText block) ↔
      ∃ ordered start items raw, token = .list ordered start items raw ∧
        isBlank (renderList options 0 ⟨ordered, start, items, raw⟩) = true := by
  cases token with
  | heading depth tokens raw =>
      cases blank : isBlank (renderInline tokens) <;>
        simp [assembleToken, Assembly.ofNote, Assembly.ofBlock, TextObject.plain, HasBlankText,
          trim_eq_empty_iff, blank]
  | paragraph tokens raw =>
      cases blank : isBlank (renderInline tokens) <;>
        simp [assembleToken, Assembly.ofNote, Assembly.ofBlock, Block.markupSection,
          TextObject.markup, HasBlankText, trim_eq_empty_iff, blank]
  | list ordered start items raw =>
      simp [assembleToken, Block.markupSection, TextObject.markup, HasBlankText,
        trim_eq_empty_iff, and_assoc]
  | blockquote tokens raw =>
      simp [assembleToken, Block.markupSection, TextObject.markup, HasBlankText,
        trim_eq_empty_iff, quote_text_visible]
  | code lang text raw =>
      simp [assembleToken, Assembly.ofBlock, Block.markupSection, TextObject.markup,
        HasBlankText, trim_eq_empty_iff, fenced_code_visible]
  | image href title text raw => simp [assembleToken, Assembly.ofBlock, HasBlankText]
  | hr raw => simp [assembleToken, Assembly.ofBlock, HasBlankText]
  | table header rows raw => simp [assembleToken, Assembly.ofBlock, HasBlankText]
  | space raw => simp [assembleToken, Assembly.empty]
  | text text run raw => simp [assembleToken, Assembly.ofNote]
  | link href title tokens raw => simp [assembleToken, Assembly.ofNote]
  | strong tokens raw => simp [assembleToken, Assembly.ofNote]
  | em tokens raw => simp [assembleToken, Assembly.ofNote]
  | del tokens raw => simp [assembleToken, Assembly.ofNote]
  | codespan text raw => simp [assembleToken, Assembly.ofNote]
  | br raw => simp [assembleToken, Assembly.ofNote]
  | html raw => simp [assembleToken, Assembly.ofNote]
  | other raw => simp [assembleToken, Assembly.ofNote]

theorem build_cell_nonempty (header : Bool) (tokens : List Token) :
    (buildCell header tokens).text ≠ "" := by
  unfold buildCell cellText
  by_cases empty : trim (plainText tokens) = ""
  · simp [empty]
  · simp [empty]

theorem table_rows_nonempty (header : List TableCell) (rows : List (List TableCell)) :
    ∀ row ∈ tableRows header rows, ∀ cell ∈ row, cell.text ≠ "" := by
  have built : ∀ (bold : Bool) (cells : List TableCell),
      ∀ cell ∈ tableRow bold cells, cell.text ≠ "" := by
    intro bold cells cell member
    obtain ⟨content, _, rfl⟩ := List.mem_map.mp member
    exact build_cell_nonempty bold content.tokens
  intro row member
  rcases List.mem_cons.mp member with rfl | later
  · exact built true header
  · obtain ⟨cells, _, rfl⟩ := List.mem_map.mp later
    exact built false cells

theorem mem_assemble (options : RenderOptions) (tokens : List Token) (block : Block) :
    block ∈ assemble options tokens ↔
      ∃ token ∈ tokens, block ∈ (assembleToken options token).blocks := by
  induction tokens with
  | nil => simp [assemble, assembly, Assembly.empty]
  | cons token rest ih =>
      simp only [assemble] at ih
      simp [assemble, assembly, Assembly.append, ih]

theorem table_block_of_token (options : RenderOptions) (token : Token) (rows : List (List Cell))
    (made : Block.table rows ∈ (assembleToken options token).blocks) :
    ∃ header body raw, token = .table header body raw ∧ rows = tableRows header body := by
  cases token with
  | table header body raw =>
      have same : rows = tableRows header body := by
        simpa [assembleToken, Assembly.ofBlock] using made
      exact ⟨header, body, raw, rfl, same⟩
  | heading depth tokens raw =>
      simp only [assembleToken] at made
      split at made <;> simp [Assembly.ofNote, Assembly.ofBlock] at made
  | paragraph tokens raw =>
      simp only [assembleToken] at made
      split at made <;> simp [Assembly.ofNote, Assembly.ofBlock, Block.markupSection] at made
  | _ =>
      simp [assembleToken, Assembly.ofNote, Assembly.ofBlock, Assembly.empty,
        Block.markupSection] at made

theorem no_empty_cell (options : RenderOptions) (tokens : List Token) (block : Block)
    (member : block ∈ assemble options tokens) : ¬HasEmptyCell block := by
  cases block with
  | table rows =>
      obtain ⟨token, _, made⟩ := (mem_assemble options tokens _).mp member
      obtain ⟨header, body, raw, _, rfl⟩ := table_block_of_token options token rows made
      rintro ⟨row, inRows, cell, inRow, empty⟩
      exact table_rows_nonempty header body row inRows cell inRow empty
  | _ => exact id

theorem blank_block_iff (options : RenderOptions) (tokens : List Token) :
    (∃ block ∈ assemble options tokens, HasBlankText block) ↔
      ∃ ordered start items raw, Token.list ordered start items raw ∈ tokens ∧
        ∀ item ∈ writtenList ordered start items,
          item.ordered = false ∧ isBlank options.bullet = true ∧ isBlank item.text = true := by
  constructor
  · rintro ⟨block, member, blank⟩
    obtain ⟨token, inTokens, made⟩ := (mem_assemble options tokens block).mp member
    obtain ⟨ordered, start, items, raw, rfl, empty⟩ :=
      (blank_block_of_token options token).mp ⟨block, made, blank⟩
    exact ⟨ordered, start, items, raw, inTokens,
      (blank_list_iff options ordered start items raw).mp empty⟩
  · rintro ⟨ordered, start, items, raw, inTokens, hidden⟩
    obtain ⟨block, made, blank⟩ := (blank_block_of_token options _).mpr
      ⟨ordered, start, items, raw, rfl,
        (blank_list_iff options ordered start items raw).mpr hidden⟩
    exact ⟨block, (mem_assemble options tokens block).mpr ⟨_, inTokens, made⟩, blank⟩

/-- No header and no section is blank exactly when every list of the top level
is written with some item that shows: by its number, by the bullet or by its
own text. No cell is empty in any case. -/
theorem no_blank_text_iff_lists_visible (options : RenderOptions) (tokens : List Token) :
    ((∀ block ∈ assemble options tokens, ¬HasBlankText block) ↔
      ∀ ordered start items raw, Token.list ordered start items raw ∈ tokens →
        ∃ item ∈ writtenList ordered start items,
          item.ordered = true ∨ isBlank options.bullet = false ∨ isBlank item.text = false) ∧
      ∀ block ∈ assemble options tokens, ¬HasEmptyCell block := by
  refine ⟨⟨?_, ?_⟩, no_empty_cell options tokens⟩
  · intro visible ordered start items raw inTokens
    by_contra unseen
    have hidden : ∀ item ∈ writtenList ordered start items,
        item.ordered = false ∧ isBlank options.bullet = true ∧ isBlank item.text = true := by
      intro item inList
      refine ⟨?_, ?_, ?_⟩ <;> by_contra seen <;> exact unseen ⟨item, inList, by simp [seen]⟩
    obtain ⟨block, member, blank⟩ :=
      (blank_block_iff options tokens).mpr ⟨ordered, start, items, raw, inTokens, hidden⟩
    exact visible block member blank
  · intro shown block member blank
    obtain ⟨ordered, start, items, raw, inTokens, hidden⟩ :=
      (blank_block_iff options tokens).mp ⟨block, member, blank⟩
    obtain ⟨item, inList, seen⟩ := shown ordered start items raw inTokens
    obtain ⟨unnumbered, bullet, text⟩ := hidden item inList
    simp [unnumbered, bullet, text] at seen

/-- A list with one item, unordered and without text, behind a bullet that is a
space: its section is blank. -/
theorem blank_bullet_blank_section :
    ¬∀ block ∈ assemble ⟨" ", true⟩ [.list false 1 [⟨none, [], "-"⟩] "-"],
      ¬HasBlankText block := by
  intro visible
  have made : Block.markupSection " " ∈
      assemble ⟨" ", true⟩ [.list false 1 [⟨none, [], "-"⟩] "-"] := List.mem_singleton.mpr rfl
  have blank : trim " " = "" := by decide
  exact visible _ made blank

end ChatBlocks.BlankBlocks
