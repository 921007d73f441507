import ChatBlocks.Proofs.BlankBlocks
import ChatBlocks.Proofs.LeafSequence
import ChatBlocks.Proofs.LiteralText

/-!
# Tables are grids

A table of the source becomes one table of the message: the header first, then a
row for every row, each with its own number of cells. The cells of a header and
of a row reach the table by different ways, but are read alike. What a cell
shows is the literal text of its events, trimmed, or one space when nothing else
is left. A pipe is written in a cell behind a backslash and loses it there;
every other escape keeps its backslash.
-/

namespace ChatBlocks.TableGrid

open Markdown (LocatedEvent Span Tag)
open Text Slices EventForest ForestTokens BuilderForest BlankGaps WordOffsets LiteralText

structure CellEvents where
  entered : Span
  content : InlineEvents
  closed : Span

def CellEvents.events (cell : CellEvents) : List LocatedEvent :=
  enclosed .tableCell cell.entered cell.content cell.closed

structure RowEvents where
  entered : Span
  cells : List CellEvents
  closed : Span

def RowEvents.events (tag : Tag) (row : RowEvents) : List LocatedEvent :=
  ⟨.enter tag, row.entered⟩ :: (row.cells.flatMap CellEvents.events ++ [⟨.leave, row.closed⟩])

structure TableEvents where
  entered : Span
  head : RowEvents
  rows : List RowEvents
  closed : Span

def TableEvents.events (table : TableEvents) : List LocatedEvent :=
  ⟨.enter .table, table.entered⟩ ::
    (table.head.events .tableHead ++ table.rows.flatMap (RowEvents.events .tableRow)
      ++ [⟨.leave, table.closed⟩])

def CellEvents.tree (cell : CellEvents) : EventTree :=
  .node .tableCell cell.entered cell.content.forest cell.closed

def RowEvents.tree (tag : Tag) (row : RowEvents) : EventTree :=
  .node tag row.entered (row.cells.map CellEvents.tree) row.closed

def TableEvents.tree (table : TableEvents) : EventTree :=
  .node .table table.entered (table.head.tree .tableHead :: table.rows.map (RowEvents.tree .tableRow))
    table.closed

theorem forest_events_map {Part : Type} {tree : Part → EventTree}
    {events : Part → List LocatedEvent} (same : ∀ part, treeEvents (tree part) = events part)
    (parts : List Part) : forestEvents (parts.map tree) = parts.flatMap events := by
  induction parts with
  | nil => rfl
  | cons part rest ih => rw [List.map_cons, forestEvents, same, ih, List.flatMap_cons]

theorem cell_tree_events (cell : CellEvents) : treeEvents cell.tree = cell.events :=
  (enclosed_eq_tree_events .tableCell cell.entered cell.content cell.closed).symm

theorem row_tree_events (tag : Tag) (row : RowEvents) :
    treeEvents (row.tree tag) = row.events tag := by
  rw [RowEvents.tree, treeEvents, forest_events_map cell_tree_events, RowEvents.events]

theorem table_tree_events (table : TableEvents) : treeEvents table.tree = table.events := by
  rw [TableEvents.tree, treeEvents, forestEvents, row_tree_events,
    forest_events_map (row_tree_events .tableRow), TableEvents.events]

/-- Inside a cell, whatever the cell lies in, as long as no quote is open. -/
def insideCell (source : String) : Builder := ⟨source, {}, [⟨.tableCell, []⟩], [], none⟩

def cellContext : Context := stackContext (insideCell "").stack

def builtCell (source : String) (options : LexOptions) (cell : CellEvents) : TableCell :=
  ⟨placedTokens .inline (forestContributions source options cellContext cell.content.forest),
    rawText source 0 cell.closed⟩

theorem cells_built (source : String) (options : LexOptions) (cells : List CellEvents) :
    cellsOf (forestContributions source options ⟨0, false, .cells⟩ (cells.map CellEvents.tree)) =
      cells.map (builtCell source options) := by
  induction cells with
  | nil => rfl
  | cons cell rest ih =>
      have own : treeContributions source options ⟨0, false, .cells⟩ cell.tree =
          [.cell (builtCell source options cell)] := rfl
      rw [List.map_cons, forestContributions, own, List.singleton_append, cellsOf, ih,
        List.map_cons]

theorem head_built (source : String) (options : LexOptions) (head : RowEvents) :
    treeContributions source options ⟨0, false, .table⟩ (head.tree .tableHead) =
      [.head (head.cells.map (builtCell source options))] := by
  rw [← cells_built]
  rfl

theorem rows_built (source : String) (options : LexOptions) (rows : List RowEvents) :
    forestContributions source options ⟨0, false, .table⟩ (rows.map (RowEvents.tree .tableRow)) =
      (rows.map fun row => row.cells.map (builtCell source options)).map .row := by
  induction rows with
  | nil => rfl
  | cons row rest ih =>
      have own : treeContributions source options ⟨0, false, .table⟩ (row.tree .tableRow) =
          [.row (row.cells.map (builtCell source options))] := by
        rw [← cells_built]
        rfl
      rw [List.map_cons, forestContributions, own, ih]
      rfl

theorem table_built (source : String) (options : LexOptions) (table : TableEvents) :
    tokensOfEvents source options table.events =
      [.table (table.head.cells.map (builtCell source options))
        (table.rows.map fun row => row.cells.map (builtCell source options))
        (rawText source 0 table.closed)] := by
  obtain ⟨rows, noHead, -⟩ := LeafSequence.rows_of_map
    (table.rows.map fun row => row.cells.map (builtCell source options))
  have inside : topContext.inside .table = ⟨0, false, .table⟩ := rfl
  rw [← table_tree_events, tokens_of_tree_events, TableEvents.tree, treeContributions, inside,
    forestContributions, head_built, rows_built, List.singleton_append]
  simp only [containerContribution, headOf, rowsOf, rows, noHead, Option.getD_none, Option.getD_some]
  rfl

def cellLiteral (source : String) (content : InlineEvents) : String :=
  literalForest (insideCell source) content.forest

theorem literal_of_built (source : String) (options : LexOptions) (cell : CellEvents) :
    plainText (builtCell source options cell).tokens = cellLiteral source cell.content := by
  have inside : Inside (insideCell source) cellContext := ⟨rfl, rfl, rfl⟩
  obtain ⟨tokens, given, said⟩ :=
    literal_of_forest options cell.content.forest inside cell.content.inline_forest
  have built : (builtCell source options cell).tokens =
      placedTokens .inline (tokens.map .inline) := congrArg (placedTokens .inline) given
  rw [built, EscapedText.write_placed EscapedText.literal_text_writes, said, cellLiteral]

def shownText (text : String) : String :=
  if isBlank text then " " else trim text

theorem cell_text_eq_shown (tokens : List Token) : cellText tokens = shownText (plainText tokens) := by
  have blank := BlankText.trim_eq_empty_iff (plainText tokens)
  rw [← String.isEmpty_iff] at blank
  simp only [cellText, shownText, blank]

theorem table_row_shown (header : Bool) (cells : List TableCell) :
    tableRow header cells = cells.map fun cell => ⟨shownText (plainText cell.tokens), header⟩ := by
  simp only [tableRow, buildCell, cell_text_eq_shown]

/-- Punctuation behind an odd number of backslashes. -/
structure EscapedMark (source : String) where
  before : String
  mark : Char
  after : String
  split : source = before ++ "\\" ++ String.singleton mark ++ after
  punctuation : isAsciiPunctuation mark = true
  odd : ((before ++ "\\").toList.reverse.takeWhile (· == '\\')).length % 2 = 1

theorem literal_of_escaped_mark {source : String} (escape : EscapedMark source) (rest : String)
    (stop : Nat) :
    literalLeaf (insideCell source) (.text (String.singleton escape.mark ++ rest))
        ⟨escape.before.utf8ByteSize + 1, stop⟩ =
      (if escape.mark = '|' then "" else "\\") ++ (String.singleton escape.mark ++ rest) := by
  obtain ⟨before, mark, after, split, punctuation, odd⟩ := escape
  simp only
  by_cases pipe : mark = '|'
  · have unescaped : ∀ offset, (insideCell source).escapedAt? offset ≠ some '|' := by
      intro offset found
      obtain ⟨-, -, -, -, -, outside, -⟩ := (escaped_at_eq_some_iff _ _ _).mp found
      cases outside
    simp [literalLeaf, beginsEscaped, pipe, unescaped]
  · have escaped : (insideCell source).escapedAt? (before.utf8ByteSize + 1) = some mark := by
      rw [escaped_at_eq_some_iff]
      refine ⟨(before ++ "\\").toList.reverse, after.toList, ?_, ?_, punctuation, ?_, odd⟩
      · simp [insideCell, split]
      · rw [byte_length_reverse, ← utf8_byte_size, String.utf8ByteSize_append]
        rfl
      · simp [pipe]
    simp [literalLeaf, beginsEscaped, pipe, escaped]

/-- A table of the top level, with one header and any number of rows, each with
any number of cells of balanced inline events. It is read into one table token
and assembled into one table block, whose rows are the header and then the rows,
cell by cell. Exactly the cells of the header are bold. A cell shows the literal
text of its tokens, which is that of its events, trimmed or one space, and so is
never empty. Text at an escaped pipe says the pipe alone, and text at any other
escaped mark has the backslash in front. -/
theorem table_becomes_grid (source : String) (lexOptions : LexOptions) (options : RenderOptions)
    (table : TableEvents) :
    ∃ header body raw grid,
      tokensOfEvents source lexOptions table.events = [.table header body raw] ∧
      assemble options (tokensOfEvents source lexOptions table.events) = [.table grid] ∧
      grid = (header.map fun cell => ⟨shownText (plainText cell.tokens), true⟩) ::
        (body.map fun row => row.map fun cell => ⟨shownText (plainText cell.tokens), false⟩) ∧
      (header :: body).map (fun row => row.map fun cell => plainText cell.tokens) =
        (table.head :: table.rows).map
          (fun row => row.cells.map fun cell => cellLiteral source cell.content) ∧
      (∀ row ∈ grid, ∀ cell ∈ row, cell.text ≠ "") ∧
      ∀ (escape : EscapedMark source) (rest : String) (stop : Nat),
        literalLeaf (insideCell source) (.text (String.singleton escape.mark ++ rest))
            ⟨escape.before.utf8ByteSize + 1, stop⟩ =
          (if escape.mark = '|' then "" else "\\") ++ (String.singleton escape.mark ++ rest) := by
  have built := table_built source lexOptions table
  refine ⟨_, _, _, tableRows _ _, built, by rw [built]; rfl, ?_, ?_, ?_, literal_of_escaped_mark⟩
  · simp only [tableRows, table_row_shown, List.map_map, Function.comp_def]
  · simp only [List.map_cons, List.map_map, Function.comp_def, literal_of_built]
  · exact BlankBlocks.table_rows_nonempty _ _

def escapedTableSource : String := "|a\\|b|\n|-|\n|_\\*c_| |\n"

/-- A pipe and a star are escaped, the star inside emphasis, and the row has a
cell more than the header. -/
def escapedTable : TableEvents where
  entered := ⟨0, 21⟩
  head := ⟨⟨0, 7⟩, [⟨⟨0, 6⟩, ⟨[⟨.text "a", ⟨1, 2⟩⟩, ⟨.text "|b", ⟨3, 5⟩⟩], rfl, rfl⟩, ⟨0, 6⟩⟩], ⟨0, 7⟩⟩
  rows := [⟨⟨11, 21⟩,
    [⟨⟨11, 18⟩, ⟨[⟨.enter .emphasis, ⟨12, 17⟩⟩, ⟨.text "*c", ⟨14, 16⟩⟩, ⟨.leave, ⟨12, 17⟩⟩],
      rfl, rfl⟩, ⟨11, 18⟩⟩, ⟨⟨18, 20⟩, ⟨[], rfl, rfl⟩, ⟨18, 20⟩⟩], ⟨11, 21⟩⟩]
  closed := ⟨0, 21⟩

def escapedPipe : EscapedMark escapedTableSource where
  before := "|a"
  mark := '|'
  after := "b|\n|-|\n|_\\*c_| |\n"
  split := by decide
  punctuation := by decide
  odd := by decide

theorem escaped_table_becomes_grid :
    assemble {} (tokensOfEvents escapedTableSource {} escapedTable.events) =
        [.table [[⟨"a|b", true⟩], [⟨"\\*c", false⟩, ⟨" ", false⟩]]] ∧
      literalLeaf (insideCell escapedTableSource) (.text (String.singleton '|' ++ "b")) ⟨3, 5⟩ =
        "|b" := by
  obtain ⟨header, body, raw, grid, -, assembled, shape, shown, -, escapes⟩ :=
    table_becomes_grid escapedTableSource {} {} escapedTable
  have literal : (escapedTable.head :: escapedTable.rows).map (fun row =>
      row.cells.map fun cell => cellLiteral escapedTableSource cell.content) =
      [["a|b"], ["\\*c", ""]] := by
    decide
  rw [literal, List.map_cons, List.cons.injEq] at shown
  have heads : (header.map fun cell => (⟨shownText (plainText cell.tokens), true⟩ : Cell)) =
      (header.map fun cell => plainText cell.tokens).map fun text => ⟨shownText text, true⟩ := by
    rw [List.map_map]
    rfl
  have rows : (body.map fun row => row.map fun cell =>
        (⟨shownText (plainText cell.tokens), false⟩ : Cell)) =
      (body.map fun row => row.map fun cell => plainText cell.tokens).map fun row =>
        row.map fun text => ⟨shownText text, false⟩ := by
    simp only [List.map_map, Function.comp_def]
  constructor
  · rw [assembled, shape, heads, rows, shown.1, shown.2]
    decide
  · exact (escapes escapedPipe "b" 5).trans (by decide)

end ChatBlocks.TableGrid
