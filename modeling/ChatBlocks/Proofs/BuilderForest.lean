import ChatBlocks.Proofs.ForestTokens

/-!
# The builder computes the tokens of the forest

The builder keeps a stack of half-built containers; the tokens of a forest are
given by recursion. The two agree for every sequence of events. One step of the
argument is `absorb`: a complete tree changes the innermost open container by
its contributions and nothing else, whatever lies below that container.
-/

namespace ChatBlocks.BuilderForest

open Markdown (Event LocatedEvent Span Tag)
open EventForest ForestTokens

def frameParent : FrameKind → ParentKind
  | .paragraph | .heading _ | .tableCell | .emphasis | .strong | .strikethrough | .link ..
  | .image .. => .inline
  | .item _ => .item
  | .list .. => .list
  | .table .. => .table
  | .tableHead _ | .tableRow _ => .cells
  | .code .. => .code
  | .htmlBlock => .htmlBlock
  | .blockquote | .other => .block

def stackContext (stack : List Frame) : Context :=
  ⟨(stack.filter fun frame => frame.kind.isBlockquote).length,
    stack.any fun frame => frame.kind.isTableCell,
    match stack with
    | [] => .top
    | frame :: _ => frameParent frame.kind⟩

theorem stack_context_enter (tag : Tag) (tokens : List Token) (stack : List Frame) :
    stackContext (⟨.ofTag tag, tokens⟩ :: stack) = (stackContext stack).inside tag := by
  cases tag <;>
    simp [stackContext, Context.inside, FrameKind.ofTag, FrameKind.isBlockquote,
      FrameKind.isTableCell, frameParent, parentKind]

theorem builder_raw (builder : Builder) (span : Span) :
    builder.raw span = rawText builder.source (stackContext builder.stack).quoteDepth span :=
  rfl

theorem builder_escaped_at (builder : Builder) (offset : Nat) :
    builder.escapedAt? offset =
      escapeAt? builder.source (stackContext builder.stack).inCell offset :=
  rfl

/-- What a half-built container knows apart from its tokens, after a
contribution. One it has no place for changes nothing. -/
def absorbKind : FrameKind → Contribution → FrameKind
  | .code lang code, .codeText text => .code lang (code ++ text)
  | .list ordered start items, .item item => .list ordered start (items ++ [item])
  | .item _, .task checked => .item (some checked)
  | .table _ rows, .head cells => .table cells rows
  | .table header rows, .row cells => .table header (rows ++ [cells])
  | .tableHead cells, .cell cell => .tableHead (cells ++ [cell])
  | .tableRow cells, .cell cell => .tableRow (cells ++ [cell])
  | kind, _ => kind

def absorbFrame (frame : Frame) (contribution : Contribution) : Frame :=
  ⟨absorbKind frame.kind contribution,
    placeToken (frameParent frame.kind) frame.tokens contribution⟩

def absorb (builder : Builder) (contribution : Contribution) : Builder :=
  match builder.stack, contribution with
  | frame :: below, contribution =>
      { builder with stack := absorbFrame frame contribution :: below }
  | [], .inline token => { builder with out := builder.out ++ [token] }
  | [], .block token span =>
      { builder with
        out := builder.out ++ gapTokens builder.source builder.lastBlockEnd span.start ++ [token]
        lastBlockEnd := some span.stop }
  | [], _ => builder

def absorbAll (builder : Builder) (contributions : List Contribution) : Builder :=
  contributions.foldl absorb builder

theorem absorb_all_append (builder : Builder) (first second : List Contribution) :
    absorbAll builder (first ++ second) = absorbAll (absorbAll builder first) second := by
  simp only [absorbAll, List.foldl_append]

@[simp] theorem frame_parent_absorb (kind : FrameKind) (contribution : Contribution) :
    frameParent (absorbKind kind contribution) = frameParent kind := by
  cases kind <;> cases contribution <;> rfl

@[simp] theorem is_blockquote_absorb (kind : FrameKind) (contribution : Contribution) :
    (absorbKind kind contribution).isBlockquote = kind.isBlockquote := by
  cases kind <;> cases contribution <;> rfl

@[simp] theorem is_table_cell_absorb (kind : FrameKind) (contribution : Contribution) :
    (absorbKind kind contribution).isTableCell = kind.isTableCell := by
  cases kind <;> cases contribution <;> rfl

theorem stack_context_absorb (builder : Builder) (contribution : Contribution) :
    stackContext (absorb builder contribution).stack = stackContext builder.stack := by
  obtain ⟨source, options, stack, out, lastBlockEnd⟩ := builder
  cases stack with
  | nil => cases contribution <;> rfl
  | cons frame below =>
      by_cases quote : frame.kind.isBlockquote = true <;>
        simp [absorb, absorbFrame, stackContext, quote]

theorem source_absorb (builder : Builder) (contribution : Contribution) :
    (absorb builder contribution).source = builder.source := by
  unfold absorb
  split <;> rfl

theorem options_absorb (builder : Builder) (contribution : Contribution) :
    (absorb builder contribution).options = builder.options := by
  unfold absorb
  split <;> rfl

theorem absorb_all_keeps (contributions : List Contribution) (builder : Builder) :
    (absorbAll builder contributions).source = builder.source ∧
      (absorbAll builder contributions).options = builder.options ∧
      stackContext (absorbAll builder contributions).stack = stackContext builder.stack := by
  induction contributions generalizing builder with
  | nil => exact ⟨rfl, rfl, rfl⟩
  | cons contribution rest ih =>
      have later := ih (absorb builder contribution)
      rw [source_absorb, options_absorb, stack_context_absorb] at later
      exact later

theorem push_inline_eq_absorb (builder : Builder) (token : Token) :
    builder.pushInline token = absorb builder (.inline token) := by
  obtain ⟨source, options, stack, out, lastBlockEnd⟩ := builder
  cases stack with
  | nil => rfl
  | cons frame below =>
      obtain ⟨kind, tokens⟩ := frame
      cases kind <;> rfl

theorem gap_tokens_eq (builder : Builder) (offset : Nat) :
    gapTokens builder.source builder.lastBlockEnd offset =
      ((builder.gapBefore? offset).map Token.space).toList := by
  unfold Builder.gapBefore? gapTokens
  cases builder.lastBlockEnd with
  | none => rfl
  | some stop =>
      simp only [Option.bind_eq_bind, Option.bind_some]
      cases Text.slice? builder.source stop offset with
      | none => rfl
      | some gap =>
          simp only [Option.bind_some]
          split <;> rfl

theorem push_block_eq_absorb (builder : Builder) (token : Token) (span : Span) :
    builder.pushBlock token span = absorb builder (.block token span) := by
  have gap := gap_tokens_eq builder span.start
  obtain ⟨source, options, stack, out, lastBlockEnd⟩ := builder
  cases stack with
  | nil =>
      simp only at gap
      simp only [Builder.pushBlock, absorb, gap]
      cases Builder.gapBefore? ⟨source, options, [], out, lastBlockEnd⟩ span.start <;> rfl
  | cons frame below =>
      obtain ⟨kind, tokens⟩ := frame
      cases kind <;> rfl

theorem push_plain_text (builder : Builder) (text : String) (span : Span) :
    builder.pushPlainText text span =
      absorbAll builder
        ((textTokens builder.source (stackContext builder.stack) text span).map .inline) := by
  unfold Builder.pushPlainText textTokens
  simp only [builder_raw, builder_escaped_at, push_inline_eq_absorb, source_absorb,
    stack_context_absorb]
  cases escapeAt? builder.source (stackContext builder.stack).inCell span.start with
  | none => rfl
  | some escaped =>
      cases text.toList with
      | nil => rfl
      | cons first rest =>
          by_cases same : first = escaped
          · by_cases short : rest.isEmpty = true <;> simp [same, short, absorbAll]
          · simp [same, absorbAll]

theorem push_text (builder : Builder) (text : String) (span : Span) :
    builder.pushText text span =
      absorbAll builder
        (leafContributions builder.source (stackContext builder.stack) (.text text) span) := by
  by_cases code : (stackContext builder.stack).parent = .code
  · obtain ⟨source, options, stack, out, lastBlockEnd⟩ := builder
    rcases stack with _ | ⟨⟨kind, tokens⟩, below⟩
    · cases code
    · cases kind <;> cases code
      rfl
  · have plain := push_plain_text builder text span
    simp only [leafContributions, if_neg code, ← plain]
    obtain ⟨source, options, stack, out, lastBlockEnd⟩ := builder
    rcases stack with _ | ⟨⟨kind, tokens⟩, below⟩
    · rfl
    · cases kind <;> first | rfl | exact absurd rfl code

theorem push_task (builder : Builder) (checked : Bool) (span : Span) :
    builder.pushTask checked =
      absorbAll builder
        (leafContributions builder.source (stackContext builder.stack) (.taskMarker checked)
          span) := by
  obtain ⟨source, options, stack, out, lastBlockEnd⟩ := builder
  rcases stack with _ | ⟨⟨kind, tokens⟩, below⟩
  · rfl
  · cases kind <;> rfl

theorem push_html (builder : Builder) (html : String) :
    builder.pushHtml html =
      absorbAll builder
        (if (stackContext builder.stack).parent = .htmlBlock then [] else [.inline (.html html)]) := by
  obtain ⟨source, options, stack, out, lastBlockEnd⟩ := builder
  rcases stack with _ | ⟨⟨kind, tokens⟩, below⟩
  · rfl
  · cases kind <;> rfl

theorem push_leaf (builder : Builder) (leaf : LeafEvent) (span : Span) :
    builder.push ⟨leaf.event, span⟩ =
      absorbAll builder
        (leafContributions builder.source (stackContext builder.stack) leaf span) := by
  cases leaf with
  | text text => exact push_text builder text span
  | html html => exact push_html builder html
  | inlineHtml html => exact push_html builder html
  | taskMarker checked => exact push_task builder checked span
  | rule => exact push_block_eq_absorb builder _ span
  | code text => exact push_inline_eq_absorb builder _
  | inlineMath text => exact push_inline_eq_absorb builder _
  | displayMath text => exact push_inline_eq_absorb builder _
  | footnoteReference label => exact push_inline_eq_absorb builder _
  | softBreak => exact push_inline_eq_absorb builder _
  | hardBreak => exact push_inline_eq_absorb builder _

def filledKind (contributions : List Contribution) : FrameKind → FrameKind
  | .code lang code => .code lang (code ++ codeTextOf contributions)
  | .list ordered start items => .list ordered start (items ++ itemsOf contributions)
  | .item task => .item (((taskOf contributions).map some).getD task)
  | .table header rows =>
      .table ((headOf contributions).getD header) (rows ++ rowsOf contributions)
  | .tableHead cells => .tableHead (cells ++ cellsOf contributions)
  | .tableRow cells => .tableRow (cells ++ cellsOf contributions)
  | kind => kind

theorem filled_kind_cons (kind : FrameKind) (contribution : Contribution)
    (rest : List Contribution) :
    filledKind (contribution :: rest) kind = filledKind rest (absorbKind kind contribution) := by
  cases kind <;> cases contribution <;>
    simp [filledKind, absorbKind, codeTextOf, itemsOf, taskOf, headOf, rowsOf, cellsOf,
      String.append_assoc]

theorem foldl_absorb_frame (contributions : List Contribution) (frame : Frame) :
    contributions.foldl absorbFrame frame =
      ⟨filledKind contributions frame.kind,
        contributions.foldl (placeToken (frameParent frame.kind)) frame.tokens⟩ := by
  induction contributions generalizing frame with
  | nil =>
      obtain ⟨kind, tokens⟩ := frame
      cases kind <;> simp [filledKind, codeTextOf, itemsOf, taskOf, headOf, rowsOf, cellsOf]
  | cons contribution rest ih =>
      simp only [List.foldl_cons, ih, absorbFrame, frame_parent_absorb, filled_kind_cons]

theorem push_paragraph_eq_absorb (builder : Builder) (tokens : List Token) (raw : String)
    (span : Span) :
    builder.pushParagraph tokens raw span =
      absorb builder
        (.block (paragraphToken builder.options (stackContext builder.stack).parent tokens raw)
          span) := by
  have top : ((stackContext builder.stack).parent = .top) = (builder.stack.isEmpty = true) := by
    rcases builder.stack with _ | ⟨⟨kind, tokens⟩, below⟩
    · simp [stackContext]
    · cases kind <;> simp [stackContext, frameParent]
  rcases tokens with _ | ⟨head, _ | ⟨next, more⟩⟩
  · exact push_block_eq_absorb builder _ span
  · cases head with
    | image href title text imageRaw =>
        simp only [Builder.pushParagraph, paragraphToken, push_block_eq_absorb, top,
          Bool.decide_eq_true]
        split <;> rfl
    | _ => exact push_block_eq_absorb builder _ span
  · cases head <;> exact push_block_eq_absorb builder _ span

theorem push_item_eq_absorb (builder : Builder) (item : ListItem) (span : Span) :
    builder.pushItem item span =
      absorb builder
        (if (stackContext builder.stack).parent = .list then .item item
          else .block (.other item.raw) span) := by
  have block := push_block_eq_absorb builder (.other item.raw) span
  obtain ⟨source, options, stack, out, lastBlockEnd⟩ := builder
  rcases stack with _ | ⟨⟨kind, tokens⟩, below⟩
  · exact block
  · cases kind <;> first | exact block | rfl

theorem push_table_head_eq_absorb (builder : Builder) (cells : List TableCell) (raw : String)
    (span : Span) :
    builder.pushTableHead cells raw span =
      absorb builder
        (if (stackContext builder.stack).parent = .table then .head cells
          else .block (.other raw) span) := by
  have block := push_block_eq_absorb builder (.other raw) span
  obtain ⟨source, options, stack, out, lastBlockEnd⟩ := builder
  rcases stack with _ | ⟨⟨kind, tokens⟩, below⟩
  · exact block
  · cases kind <;> first | exact block | rfl

theorem push_table_row_eq_absorb (builder : Builder) (cells : List TableCell) (raw : String)
    (span : Span) :
    builder.pushTableRow cells raw span =
      absorb builder
        (if (stackContext builder.stack).parent = .table then .row cells
          else .block (.other raw) span) := by
  have block := push_block_eq_absorb builder (.other raw) span
  obtain ⟨source, options, stack, out, lastBlockEnd⟩ := builder
  rcases stack with _ | ⟨⟨kind, tokens⟩, below⟩
  · exact block
  · cases kind <;> first | exact block | rfl

theorem push_table_cell_eq_absorb (builder : Builder) (cell : TableCell) (span : Span) :
    builder.pushTableCell cell span =
      absorb builder
        (if (stackContext builder.stack).parent = .cells then .cell cell
          else .block (.other cell.raw) span) := by
  have block := push_block_eq_absorb builder (.other cell.raw) span
  obtain ⟨source, options, stack, out, lastBlockEnd⟩ := builder
  rcases stack with _ | ⟨⟨kind, tokens⟩, below⟩
  · exact block
  · cases kind <;> first | exact block | rfl

theorem push_other_eq_absorb (builder : Builder) (raw : String) (span : Span) :
    (if builder.topHoldsInline then builder.pushInline (.other raw)
      else builder.pushBlock (.other raw) span) =
      absorb builder
        (if (stackContext builder.stack).parent = .inline then .inline (.other raw)
          else .block (.other raw) span) := by
  have inline := push_inline_eq_absorb builder (.other raw)
  have block := push_block_eq_absorb builder (.other raw) span
  obtain ⟨source, options, stack, out, lastBlockEnd⟩ := builder
  rcases stack with _ | ⟨⟨kind, tokens⟩, below⟩
  · exact block
  · cases kind <;> first | exact block | exact inline

theorem deliver_filled (builder : Builder) (tag : Tag) (contributions : List Contribution)
    (closed : Span) :
    builder.deliver
        ⟨filledKind contributions (.ofTag tag), placedTokens (parentKind tag) contributions⟩
        closed =
      absorb builder
        (containerContribution builder.source builder.options (stackContext builder.stack) tag
          closed contributions) := by
  cases tag with
  | paragraph => exact push_paragraph_eq_absorb builder _ _ closed
  | item =>
      have task : ((taskOf contributions).map some).getD none = taskOf contributions := by
        cases taskOf contributions <;> rfl
      simp only [FrameKind.ofTag, filledKind, task]
      exact push_item_eq_absorb builder _ closed
  | tableHead => exact push_table_head_eq_absorb builder _ _ closed
  | tableRow => exact push_table_row_eq_absorb builder _ _ closed
  | tableCell => exact push_table_cell_eq_absorb builder _ closed
  | emphasis => exact push_inline_eq_absorb builder _
  | strong => exact push_inline_eq_absorb builder _
  | strikethrough => exact push_inline_eq_absorb builder _
  | link destination title => exact push_inline_eq_absorb builder _
  | image destination title => exact push_inline_eq_absorb builder _
  | heading level => exact push_block_eq_absorb builder _ closed
  | blockquote => exact push_block_eq_absorb builder _ closed
  | htmlBlock => exact push_block_eq_absorb builder _ closed
  | codeBlock kind =>
      simp only [FrameKind.ofTag, filledKind, String.empty_append]
      exact push_block_eq_absorb builder _ closed
  | list first => exact push_block_eq_absorb builder _ closed
  | table => exact push_block_eq_absorb builder _ closed
  | footnoteDefinition => exact push_other_eq_absorb builder _ closed
  | definitionList => exact push_other_eq_absorb builder _ closed
  | definitionTitle => exact push_other_eq_absorb builder _ closed
  | definitionBody => exact push_other_eq_absorb builder _ closed
  | superscript => exact push_other_eq_absorb builder _ closed
  | subscript => exact push_other_eq_absorb builder _ closed
  | metadata => exact push_other_eq_absorb builder _ closed

theorem absorb_all_open (contributions : List Contribution) (builder : Builder) (frame : Frame)
    (below : List Frame) (top : builder.stack = frame :: below) :
    absorbAll builder contributions =
      { builder with stack := contributions.foldl absorbFrame frame :: below } := by
  induction contributions generalizing builder frame with
  | nil => simp [absorbAll, ← top]
  | cons contribution rest ih =>
      have step : absorb builder contribution =
          { builder with stack := absorbFrame frame contribution :: below } := by
        simp only [absorb, top]
      have later := ih (absorb builder contribution) (absorbFrame frame contribution)
        (by rw [step])
      simpa only [absorbAll, List.foldl_cons, step] using later

theorem push_all_append (builder : Builder) (first second : List LocatedEvent) :
    builder.pushAll (first ++ second) = (builder.pushAll first).pushAll second := by
  simp only [Builder.pushAll, List.foldl_append]

mutual

/-- A tree changes the innermost container by its contributions. The induction
follows the tree; a container is entered on top of any stack, filled by the
induction hypothesis for its children, and delivered to that same stack. -/
theorem push_tree : ∀ (tree : EventTree) (builder : Builder),
    builder.pushAll (treeEvents tree) =
      absorbAll builder
        (treeContributions builder.source builder.options (stackContext builder.stack) tree)
  | .leaf leaf span, builder => push_leaf builder leaf span
  | .node tag entered children closed, builder => by
      let contributions := forestContributions builder.source builder.options
        ((stackContext builder.stack).inside tag) children
      have filled : (builder.enter tag).pushAll (forestEvents children) =
          { builder with
            stack := contributions.foldl absorbFrame ⟨.ofTag tag, []⟩ :: builder.stack } := by
        rw [push_forest children (builder.enter tag)]
        have context := stack_context_enter tag [] builder.stack
        rw [absorb_all_open _ _ ⟨.ofTag tag, []⟩ builder.stack rfl]
        simp only [Builder.enter, context, contributions]
      have parent : frameParent (.ofTag tag) = parentKind tag := by cases tag <;> rfl
      calc
        builder.pushAll (treeEvents (.node tag entered children closed)) =
            ((builder.enter tag).pushAll (forestEvents children)).leave closed := by
          simp only [treeEvents, Builder.pushAll, List.foldl_cons, List.foldl_append,
            List.foldl_nil]
          rfl
        _ = builder.deliver
              ⟨filledKind contributions (.ofTag tag),
                placedTokens (parentKind tag) contributions⟩ closed := by
          rw [filled, foldl_absorb_frame]
          simp only [Builder.leave, parent, placedTokens]
        _ = _ := deliver_filled builder tag contributions closed

theorem push_forest : ∀ (forest : List EventTree) (builder : Builder),
    builder.pushAll (forestEvents forest) =
      absorbAll builder
        (forestContributions builder.source builder.options (stackContext builder.stack) forest)
  | [], _ => rfl
  | tree :: rest, builder => by
      have kept := absorb_all_keeps
        (treeContributions builder.source builder.options (stackContext builder.stack) tree)
        builder
      rw [forestEvents, push_all_append, push_tree tree builder, push_forest rest, kept.1,
        kept.2.1, kept.2.2, forestContributions, absorb_all_append]

end

@[simp] theorem height_absorb (builder : Builder) (contribution : Contribution) :
    (absorb builder contribution).stack.length = builder.stack.length := by
  obtain ⟨source, options, stack, out, lastBlockEnd⟩ := builder
  cases stack with
  | nil => cases contribution <;> rfl
  | cons frame below => rfl

theorem height_absorb_all (contributions : List Contribution) (builder : Builder) :
    (absorbAll builder contributions).stack.length = builder.stack.length := by
  induction contributions generalizing builder with
  | nil => rfl
  | cons contribution rest ih => exact (ih _).trans (height_absorb builder contribution)

theorem deliver_absorbs (builder : Builder) (frame : Frame) (span : Span) :
    ∃ contribution, builder.deliver frame span = absorb builder contribution := by
  obtain ⟨kind, tokens⟩ := frame
  cases kind with
  | paragraph => exact ⟨_, push_paragraph_eq_absorb builder _ _ span⟩
  | item task => exact ⟨_, push_item_eq_absorb builder _ span⟩
  | tableHead cells => exact ⟨_, push_table_head_eq_absorb builder _ _ span⟩
  | tableRow cells => exact ⟨_, push_table_row_eq_absorb builder _ _ span⟩
  | tableCell => exact ⟨_, push_table_cell_eq_absorb builder _ span⟩
  | other => exact ⟨_, push_other_eq_absorb builder _ span⟩
  | heading depth => exact ⟨_, push_block_eq_absorb builder _ span⟩
  | blockquote => exact ⟨_, push_block_eq_absorb builder _ span⟩
  | code lang text => exact ⟨_, push_block_eq_absorb builder _ span⟩
  | htmlBlock => exact ⟨_, push_block_eq_absorb builder _ span⟩
  | list ordered start items => exact ⟨_, push_block_eq_absorb builder _ span⟩
  | table header rows => exact ⟨_, push_block_eq_absorb builder _ span⟩
  | emphasis => exact ⟨_, push_inline_eq_absorb builder _⟩
  | strong => exact ⟨_, push_inline_eq_absorb builder _⟩
  | strikethrough => exact ⟨_, push_inline_eq_absorb builder _⟩
  | link href title => exact ⟨_, push_inline_eq_absorb builder _⟩
  | image href title => exact ⟨_, push_inline_eq_absorb builder _⟩

theorem leave_keeps (builder : Builder) (span : Span) :
    (builder.leave span).stack.length = builder.stack.length - 1 ∧
      (builder.leave span).source = builder.source := by
  obtain ⟨source, options, stack, out, lastBlockEnd⟩ := builder
  cases stack with
  | nil => exact ⟨rfl, rfl⟩
  | cons frame below =>
      obtain ⟨contribution, delivered⟩ :=
        deliver_absorbs ⟨source, options, below, out, lastBlockEnd⟩ frame span
      simp only [Builder.leave, delivered, height_absorb, source_absorb, List.length_cons,
        Nat.add_sub_cancel, and_self]

theorem leave_of_empty (builder : Builder) (span : Span) (empty : builder.stack = []) :
    builder.leave span = builder := by
  simp only [Builder.leave, empty]

theorem push_leaf_keeps (builder : Builder) (leaf : LeafEvent) (span : Span) :
    (builder.push ⟨leaf.event, span⟩).stack.length = builder.stack.length ∧
      (builder.push ⟨leaf.event, span⟩).source = builder.source := by
  rw [push_leaf]
  exact ⟨height_absorb_all _ builder, (absorb_all_keeps _ builder).1⟩

theorem height_push_all (events : List LocatedEvent) (builder : Builder) :
    (builder.pushAll events).stack.length = depthAfter builder.stack.length events := by
  induction events generalizing builder with
  | nil => rfl
  | cons located rest ih =>
      obtain ⟨event, span⟩ := located
      have later : (builder.pushAll (⟨event, span⟩ :: rest)).stack.length =
          depthAfter (builder.push ⟨event, span⟩).stack.length rest := ih _
      cases role : roleOf event with
      | enter tag =>
          obtain rfl : event = Event.enter tag := event_of_role role
          exact later
      | leave =>
          obtain rfl : event = Event.leave := event_of_role role
          have left := leave_keeps builder span
          exact later.trans (congrArg (depthAfter · rest) left.1)
      | leaf leaf =>
          obtain rfl : event = leaf.event := event_of_role role
          rw [later, (push_leaf_keeps builder leaf span).1]
          simp only [depthAfter, role_of_leaf]

theorem finish_push_all (events : List LocatedEvent) (builder : Builder) :
    (builder.pushAll events).finish =
      (builder.pushAll
        (balancedFrom builder.source.utf8ByteSize builder.stack.length events)).out := by
  induction events generalizing builder with
  | nil =>
      have leaving : ∀ count (builder : Builder),
          Builder.leaveAll count builder =
            builder.pushAll (List.replicate count
              ⟨.leave, ⟨builder.source.utf8ByteSize, builder.source.utf8ByteSize⟩⟩) := by
        intro count
        induction count with
        | zero => intro builder; rfl
        | succ count next =>
            intro builder
            have left := leave_keeps builder
              ⟨builder.source.utf8ByteSize, builder.source.utf8ByteSize⟩
            rw [Builder.leaveAll, next, left.2]
            rfl
      exact congrArg Builder.out (leaving builder.stack.length builder)
  | cons located rest ih =>
      obtain ⟨event, span⟩ := located
      have later : (builder.pushAll (⟨event, span⟩ :: rest)).finish =
          ((builder.push ⟨event, span⟩).pushAll (balancedFrom
            (builder.push ⟨event, span⟩).source.utf8ByteSize
            (builder.push ⟨event, span⟩).stack.length rest)).out := ih _
      rw [later]
      cases role : roleOf event with
      | enter tag =>
          obtain rfl : event = Event.enter tag := event_of_role role
          rfl
      | leave =>
          obtain rfl : event = Event.leave := event_of_role role
          have left := leave_keeps builder span
          have push : builder.push ⟨.leave, span⟩ = builder.leave span := rfl
          rw [push, left.1, left.2]
          cases empty : builder.stack with
          | nil =>
              rw [leave_of_empty builder span empty]
              rfl
          | cons frame below =>
              rfl
      | leaf leaf =>
          obtain rfl : event = leaf.event := event_of_role role
          have kept := push_leaf_keeps builder leaf span
          rw [kept.1, kept.2]
          simp only [balancedFrom, role_of_leaf]
          rfl

theorem out_absorb_all (contributions : List Contribution) (builder : Builder)
    (empty : builder.stack = []) :
    (absorbAll builder contributions).out =
      builder.out ++ topTokens builder.source builder.lastBlockEnd contributions := by
  induction contributions generalizing builder with
  | nil => simp [absorbAll, topTokens]
  | cons contribution rest ih =>
      obtain ⟨source, options, stack, out, lastBlockEnd⟩ := builder
      obtain rfl : stack = [] := empty
      have later := ih (absorb ⟨source, options, [], out, lastBlockEnd⟩ contribution)
        (by cases contribution <;> rfl)
      cases contribution <;>
        simpa [absorbAll, absorb, topTokens, List.append_assoc] using later

theorem out_push_forest (forest : List EventTree) (source : String) (options : LexOptions) :
    ((Builder.start source options).pushAll (forestEvents forest)).out =
      forestTokens source options forest := by
  rw [push_forest, out_absorb_all _ _ rfl]
  rfl

theorem tokens_of_events (source : String) (options : LexOptions) (events : List LocatedEvent) :
    tokensOfEvents source options events =
      forestTokens source options (forestOf source.utf8ByteSize events) := by
  calc
    tokensOfEvents source options events =
        ((Builder.start source options).pushAll
          (balancedFrom source.utf8ByteSize 0 events)).out :=
      finish_push_all events (Builder.start source options)
    _ = ((Builder.start source options).pushAll
          (forestEvents (forestOf source.utf8ByteSize events))).out := by
      rw [forest_events_forest_of]
    _ = forestTokens source options (forestOf source.utf8ByteSize events) :=
      out_push_forest _ source options

/-- For every sequence of events, the builder's tokens are those of the forest
whose events are the balanced sequence. -/
theorem tokens_of_events_eq_forest_tokens (source : String) (options : LexOptions)
    (events : List LocatedEvent) :
    tokensOfEvents source options events =
        forestTokens source options (forestOf source.utf8ByteSize events) ∧
      forestEvents (forestOf source.utf8ByteSize events) =
        balancedFrom source.utf8ByteSize 0 events :=
  ⟨tokens_of_events source options events,
    forest_events_forest_of source.utf8ByteSize events⟩

end ChatBlocks.BuilderForest
