import ChatBlocks.Proofs.LiteralText
import ChatBlocks.Render.Cell

/-!
# Formatting never shows in literal text

What a table cell or an image shows is the same for any two ways to format the
same content: sequences of inline events that agree once the events of
formatting are deleted have the same literal text. On tokens the containers that
only format, and the blocks that hold nothing but tokens, may be replaced by
what they hold, at any depth.
-/

namespace ChatBlocks.FormattingErased

open Markdown (Event LocatedEvent Span Tag)
open EventForest ForestTokens BuilderForest LiteralText

/-- The containers that do nothing but format what lies inside them. -/
def isFormatting : Tag → Bool
  | .emphasis | .strong | .strikethrough | .link .. => true
  | .paragraph | .heading _ | .blockquote | .codeBlock _ | .htmlBlock | .list _ | .item
  | .footnoteDefinition | .definitionList | .definitionTitle | .definitionBody | .table
  | .tableHead | .tableRow | .tableCell | .superscript | .subscript | .image .. | .metadata => false

/-- A sequence without the events that enter and leave formatting. The flags say
of each container that is open in front of it, innermost first, whether it
formats. -/
def withoutFormatting : List Bool → List LocatedEvent → List LocatedEvent
  | _, [] => []
  | outer, located :: rest =>
      match roleOf located.event, outer with
      | .enter tag, _ =>
          if isFormatting tag then withoutFormatting (true :: outer) rest
          else located :: withoutFormatting (false :: outer) rest
      | .leave, true :: more => withoutFormatting more rest
      | .leave, _ => located :: withoutFormatting outer.tail rest
      | .leaf _, _ => located :: withoutFormatting outer rest

mutual

def unformattedTree : EventTree → List EventTree
  | .leaf leaf span => [.leaf leaf span]
  | .node tag entered children closed =>
      if isFormatting tag then unformatted children
      else [.node tag entered (unformatted children) closed]

def unformatted : List EventTree → List EventTree
  | [] => []
  | tree :: rest => unformattedTree tree ++ unformatted rest

end

mutual

/-- Deleting events is replacing containers. The induction follows the tree, with
any containers open around it and any events behind it. -/
theorem without_formatting_tree : ∀ (tree : EventTree) (outer : List Bool)
    (rest : List LocatedEvent),
    withoutFormatting outer (treeEvents tree ++ rest) =
      forestEvents (unformattedTree tree) ++ withoutFormatting outer rest
  | .leaf leaf span, outer, rest => by
      simp [treeEvents, withoutFormatting, unformattedTree, forestEvents]
  | .node tag entered children closed, outer, rest => by
      have inside := fun flag => without_formatting_forest children (flag :: outer)
        (⟨.leave, closed⟩ :: rest)
      cases formatting : isFormatting tag <;>
        simp [treeEvents, withoutFormatting, formatting, inside, unformattedTree, forestEvents]

theorem without_formatting_forest : ∀ (forest : List EventTree) (outer : List Bool)
    (rest : List LocatedEvent),
    withoutFormatting outer (forestEvents forest ++ rest) =
      forestEvents (unformatted forest) ++ withoutFormatting outer rest
  | [], _, _ => rfl
  | tree :: rest, outer, behind => by
      rw [forestEvents, List.append_assoc, without_formatting_tree tree,
        without_formatting_forest rest, unformatted, forest_events_append, List.append_assoc]

end

theorem without_formatting_events (content : InlineEvents) :
    withoutFormatting [] content.events = forestEvents (unformatted content.forest) := by
  have whole := without_formatting_forest content.forest [] []
  rwa [List.append_nil, content.forest_events, withoutFormatting, List.append_nil] at whole

mutual

theorem literal_unformatted_tree (builder : Builder) : ∀ tree : EventTree,
    literalForest builder (unformattedTree tree) = literalTree builder tree
  | .leaf leaf span => by
      rw [unformattedTree, literalForest, literalForest, String.append_empty]
  | .node tag entered children closed => by
      have inside := literal_unformatted_forest builder children
      cases formatting : isFormatting tag with
      | false =>
          simp only [unformattedTree, formatting, Bool.false_eq_true, if_false, literalForest,
            String.append_empty]
          cases tag <;> first | exact inside | rfl
      | true =>
          simp only [unformattedTree, formatting, if_true, inside]
          cases tag <;> first | rfl | cases formatting

theorem literal_unformatted_forest (builder : Builder) : ∀ forest : List EventTree,
    literalForest builder (unformatted forest) = literalForest builder forest
  | [] => rfl
  | tree :: rest => by
      rw [unformatted, literal_forest_append, literal_unformatted_tree builder tree,
        literal_unformatted_forest builder rest, literalForest]

end

theorem literal_text_agrees (builder : Builder) {content other : InlineEvents}
    (same : withoutFormatting [] content.events = withoutFormatting [] other.events) :
    literalForest builder content.forest = literalForest builder other.forest := by
  rw [without_formatting_events, without_formatting_events] at same
  have forests := congrArg (forestOf 0) same
  rw [forest_of_forest_events, forest_of_forest_events] at forests
  rw [← literal_unformatted_forest, forests, literal_unformatted_forest]

mutual

/-- A token with every container in it that only holds tokens replaced by what
it holds. Runs, lists and tables stay, and so do leaves. -/
def unwrapToken : Token → List Token
  | .link _ _ tokens _ => unwrapTokens tokens
  | .strong tokens _ => unwrapTokens tokens
  | .em tokens _ => unwrapTokens tokens
  | .del tokens _ => unwrapTokens tokens
  | .heading _ tokens _ => unwrapTokens tokens
  | .paragraph tokens _ => unwrapTokens tokens
  | .blockquote tokens _ => unwrapTokens tokens
  | .text text none raw => [.text text none raw]
  | .text text (some run) raw => [.text text (some (unwrapTokens run)) raw]
  | .list ordered start items raw => [.list ordered start (unwrapItems items) raw]
  | .table header rows raw => [.table (unwrapCells header) (unwrapRows rows) raw]
  | .image href title text raw => [.image href title text raw]
  | .codespan text raw => [.codespan text raw]
  | .br raw => [.br raw]
  | .code lang text raw => [.code lang text raw]
  | .hr raw => [.hr raw]
  | .space raw => [.space raw]
  | .html raw => [.html raw]
  | .other raw => [.other raw]

def unwrapTokens : List Token → List Token
  | [] => []
  | token :: rest => unwrapToken token ++ unwrapTokens rest

def unwrapItems : List ListItem → List ListItem
  | [] => []
  | ⟨task, tokens, raw⟩ :: rest => ⟨task, unwrapTokens tokens, raw⟩ :: unwrapItems rest

def unwrapCells : List TableCell → List TableCell
  | [] => []
  | ⟨tokens, raw⟩ :: rest => ⟨unwrapTokens tokens, raw⟩ :: unwrapCells rest

def unwrapRows : List (List TableCell) → List (List TableCell)
  | [] => []
  | cells :: rest => unwrapCells cells :: unwrapRows rest

end

mutual

theorem plain_unwrap_token : ∀ token : Token,
    plainText (unwrapToken token) = plainTextOfToken token
  | .link _ _ tokens _ | .strong tokens _ | .em tokens _ | .del tokens _ | .heading _ tokens _
  | .paragraph tokens _ | .blockquote tokens _ => plain_unwrap_tokens tokens
  | .list _ _ items _ => (plain_text_single _).trans (plain_unwrap_items items)
  | .table header rows _ =>
      (plain_text_single _).trans
        (congrArg₂ String.append (plain_unwrap_cells header) (plain_unwrap_rows rows))
  | .text _ none _ | .text _ (some _) _ | .image .. | .codespan .. | .br _ | .code .. | .hr _
  | .space _ | .html _ | .other _ => plain_text_single _

theorem plain_unwrap_tokens : ∀ tokens : List Token,
    plainText (unwrapTokens tokens) = plainText tokens
  | [] => rfl
  | token :: rest => by
      rw [unwrapTokens, EscapedText.literal_text_writes.append, plain_unwrap_token token,
        plain_unwrap_tokens rest, plainText]

theorem plain_unwrap_items : ∀ items : List ListItem,
    plainTextOfItems (unwrapItems items) = plainTextOfItems items
  | [] => rfl
  | ⟨task, tokens, raw⟩ :: rest => by
      rw [unwrapItems, plainTextOfItems, plainTextOfItems, plain_unwrap_tokens tokens,
        plain_unwrap_items rest]

theorem plain_unwrap_cells : ∀ cells : List TableCell,
    plainTextOfCells (unwrapCells cells) = plainTextOfCells cells
  | [] => rfl
  | ⟨tokens, raw⟩ :: rest => by
      rw [unwrapCells, plainTextOfCells, plainTextOfCells, plain_unwrap_tokens tokens,
        plain_unwrap_cells rest]

theorem plain_unwrap_rows : ∀ rows : List (List TableCell),
    plainTextOfRows (unwrapRows rows) = plainTextOfRows rows
  | [] => rfl
  | cells :: rest => by
      rw [unwrapRows, plainTextOfRows, plainTextOfRows, plain_unwrap_cells cells,
        plain_unwrap_rows rest]

end

/-- Two balanced sequences of inline events over one source that agree without
the events of formatting, in whatever state the builder is: a table cell around
either is the same cell of the message, and an image around either leaves the
builder in the same state, with the same description. On tokens, replacing every
container of tokens by its tokens leaves the literal text as it is. -/
theorem formatting_never_shows (builder : Builder) {content other : InlineEvents}
    (same : withoutFormatting [] content.events = withoutFormatting [] other.events) :
    (∀ entered closed, ∃ tokens otherTokens,
      builder.pushAll (enclosed .tableCell entered content closed) =
          builder.pushTableCell ⟨tokens, builder.raw closed⟩ closed ∧
        builder.pushAll (enclosed .tableCell entered other closed) =
          builder.pushTableCell ⟨otherTokens, builder.raw closed⟩ closed ∧
        ∀ header, buildCell header tokens = buildCell header otherTokens) ∧
      (∀ destination title entered closed, ∃ description,
        builder.pushAll (enclosed (.image destination title) entered content closed) =
            builder.pushInline
              (.image destination (Text.nonEmpty title) description (builder.raw closed)) ∧
          builder.pushAll (enclosed (.image destination title) entered other closed) =
            builder.pushInline
              (.image destination (Text.nonEmpty title) description (builder.raw closed))) ∧
      ∀ tokens, plainText (unwrapTokens tokens) = plainText tokens := by
  have agree : ∀ tag, parentKind tag = .inline →
      plainText (contentTokens builder tag content) =
        plainText (contentTokens builder tag other) := by
    intro tag inline
    rw [plain_text_of_content builder inline, plain_text_of_content builder inline,
      literal_text_agrees (builder.enter tag) same]
  refine ⟨?_, ?_, plain_unwrap_tokens⟩
  · intro entered closed
    refine ⟨_, _, push_cell_of_content builder entered content closed,
      push_cell_of_content builder entered other closed, ?_⟩
    intro header
    rw [buildCell, buildCell, cellText, cellText, agree .tableCell rfl]
  · intro destination title entered closed
    refine ⟨_, push_image_of_content builder destination title entered content closed, ?_⟩
    rw [push_image_of_content, agree (.image destination title) rfl]

/-- Emphasis around two letters and a link around the last one, against strong
text from the second letter on. The star between them is escaped. -/
theorem emphasis_and_strong_show_alike :
    let builder : Builder :=
      ⟨"|_ac_\\*[b](u)|", {}, [⟨.tableHead [], []⟩, ⟨.table [] [], []⟩], [], none⟩
    let content : InlineEvents :=
      ⟨[⟨.enter .emphasis, ⟨1, 5⟩⟩, ⟨.text "a", ⟨2, 3⟩⟩, ⟨.text "c", ⟨3, 4⟩⟩, ⟨.leave, ⟨1, 5⟩⟩,
          ⟨.text "*", ⟨6, 7⟩⟩, ⟨.enter (.link "u" ""), ⟨7, 13⟩⟩, ⟨.text "b", ⟨8, 9⟩⟩,
          ⟨.leave, ⟨7, 13⟩⟩], rfl, rfl⟩
    let other : InlineEvents :=
      ⟨[⟨.text "a", ⟨2, 3⟩⟩, ⟨.enter .strong, ⟨3, 9⟩⟩, ⟨.text "c", ⟨3, 4⟩⟩, ⟨.text "*", ⟨6, 7⟩⟩,
          ⟨.text "b", ⟨8, 9⟩⟩, ⟨.leave, ⟨3, 9⟩⟩], rfl, rfl⟩
    withoutFormatting [] content.events = withoutFormatting [] other.events ∧
      cellText (contentTokens builder .tableCell content) = "ac\\*b" ∧
      (∃ tokens otherTokens,
        builder.pushAll (enclosed .tableCell ⟨1, 13⟩ content ⟨1, 13⟩) =
            builder.pushTableCell ⟨tokens, builder.raw ⟨1, 13⟩⟩ ⟨1, 13⟩ ∧
          builder.pushAll (enclosed .tableCell ⟨1, 13⟩ other ⟨1, 13⟩) =
            builder.pushTableCell ⟨otherTokens, builder.raw ⟨1, 13⟩⟩ ⟨1, 13⟩ ∧
          ∀ header, buildCell header tokens = buildCell header otherTokens) ∧
      ∃ description,
        builder.pushAll (enclosed (.image "i" "") ⟨0, 14⟩ content ⟨0, 14⟩) =
            builder.pushInline (.image "i" none description (builder.raw ⟨0, 14⟩)) ∧
          builder.pushAll (enclosed (.image "i" "") ⟨0, 14⟩ other ⟨0, 14⟩) =
            builder.pushInline (.image "i" none description (builder.raw ⟨0, 14⟩)) := by
  intro builder content other
  have same : withoutFormatting [] content.events = withoutFormatting [] other.events := rfl
  obtain ⟨cells, images, -⟩ := formatting_never_shows builder same
  exact ⟨same, by decide, cells ⟨1, 13⟩ ⟨1, 13⟩, images "i" "" ⟨0, 14⟩ ⟨0, 14⟩⟩

end ChatBlocks.FormattingErased
