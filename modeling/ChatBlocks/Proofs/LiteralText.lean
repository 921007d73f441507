import ChatBlocks.Proofs.BlankGaps
import ChatBlocks.Proofs.EscapedText

/-!
# Literal text of inline events

Inline content is read into tokens of every shape, but its literal text follows
the events one by one: text is itself, with the backslash back in front of an
escape, formatting contributes what lies inside it, and everything else its
source. Table cells and images keep the literal text of their content alone, so
what they show can be said about the events without the tokens.
-/

namespace ChatBlocks.LiteralText

open Markdown (Event LocatedEvent Span Tag)
open EventForest ForestTokens BuilderForest BlankGaps WordOffsets EscapedText

/-- A rule is a block and a checkbox belongs to an item; every other leaf is
inline. -/
def isInlineLeaf : LeafEvent → Bool
  | .text _ | .code _ | .inlineMath _ | .displayMath _ | .html _ | .inlineHtml _
  | .footnoteReference _ | .softBreak | .hardBreak => true
  | .rule | .taskMarker _ => false

def isInlineEvent (event : Event) : Bool :=
  match roleOf event with
  | .enter tag => isInlineTag tag
  | .leave => true
  | .leaf leaf => isInlineLeaf leaf

/-- A balanced sequence of inline events. -/
structure InlineEvents where
  events : List LocatedEvent
  nested : wellNested 0 events = true
  inline : (events.all fun located => isInlineEvent located.event) = true

mutual

def inlineTree : EventTree → Bool
  | .leaf leaf _ => isInlineLeaf leaf
  | .node tag _ children _ => isInlineTag tag && inlineForest children

def inlineForest : List EventTree → Bool
  | [] => true
  | tree :: rest => inlineTree tree && inlineForest rest

end

mutual

theorem inline_tree_of_events : ∀ tree : EventTree,
    ((treeEvents tree).all fun located => isInlineEvent located.event) = true →
    inlineTree tree = true
  | .leaf leaf span, inline => by
      simpa [treeEvents, isInlineEvent, inlineTree] using inline
  | .node tag entered children closed, inline => by
      simp only [treeEvents, List.all_cons, List.all_append, Bool.and_eq_true] at inline
      obtain ⟨own, inside, -⟩ := inline
      simp only [isInlineEvent, role_of_enter] at own
      simp only [inlineTree, own, inline_forest_of_events children inside, Bool.and_self]

theorem inline_forest_of_events : ∀ forest : List EventTree,
    ((forestEvents forest).all fun located => isInlineEvent located.event) = true →
    inlineForest forest = true
  | [], _ => rfl
  | tree :: rest, inline => by
      simp only [forestEvents, List.all_append, Bool.and_eq_true] at inline
      simp only [inlineForest, inline_tree_of_events tree inline.1,
        inline_forest_of_events rest inline.2, Bool.and_self]

end

namespace InlineEvents

def forest (content : InlineEvents) : List EventTree := forestOf 0 content.events

theorem forest_events (content : InlineEvents) : forestEvents content.forest = content.events :=
  forest_events_of_well_nested 0 content.nested

theorem inline_forest (content : InlineEvents) : inlineForest content.forest = true := by
  apply inline_forest_of_events
  rw [content.forest_events]
  exact content.inline

end InlineEvents

def beginsEscaped (builder : Builder) (text : String) (offset : Nat) : Bool :=
  match text.toList with
  | [] => false
  | first :: _ => builder.escapedAt? offset == some first

/-- The literal text of a leaf. The backslash of an escape is kept. -/
def literalLeaf (builder : Builder) (leaf : LeafEvent) (span : Span) : String :=
  match leaf with
  | .text text => if beginsEscaped builder text span.start then "\\" ++ text else text
  | .html html | .inlineHtml html => html
  | .code _ | .inlineMath _ | .displayMath _ | .footnoteReference _ | .softBreak | .hardBreak =>
      builder.raw span
  | .rule | .taskMarker _ => ""

mutual

/-- The literal text of an inline tree, read by a builder at the state in which
its content begins. An image is its source. -/
def literalTree (builder : Builder) : EventTree → String
  | .leaf leaf span => literalLeaf builder leaf span
  | .node (.image _ _) _ _ closed => builder.raw closed
  | .node _ _ children _ => literalForest builder children

def literalForest (builder : Builder) : List EventTree → String
  | [] => ""
  | tree :: rest => literalTree builder tree ++ literalForest builder rest

end

theorem literal_forest_append (builder : Builder) (first second : List EventTree) :
    literalForest builder (first ++ second) =
      literalForest builder first ++ literalForest builder second := by
  induction first with
  | nil => rw [List.nil_append, literalForest, String.empty_append]
  | cons tree rest ih =>
      rw [List.cons_append, literalForest, literalForest, ih, String.append_assoc]

/-- A place inside inline content that a builder has begun: neither quotes nor
table cells are entered there. -/
structure Inside (builder : Builder) (context : Context) : Prop where
  inline : context.parent = .inline
  depth : context.quoteDepth = (stackContext builder.stack).quoteDepth
  cell : context.inCell = (stackContext builder.stack).inCell

variable {builder : Builder} {context : Context}

theorem Inside.raw (inside : Inside builder context) (span : Span) :
    rawText builder.source context.quoteDepth span = builder.raw span := by
  rw [inside.depth, builder_raw]

theorem Inside.enter (inside : Inside builder context) {tag : Tag}
    (inline : isInlineTag tag = true) : Inside builder (context.inside tag) where
  inline := by cases tag <;> first | rfl | cases inline
  depth := by
    rw [← inside.depth]
    cases tag <;> first | rfl | cases inline
  cell := by
    rw [← inside.cell]
    cases tag <;> first | exact Bool.or_false _ | cases inline

theorem text_tokens_inside (inside : Inside builder context) (text : String) (span : Span) :
    textTokens builder.source context text span =
      textTokens builder.source (stackContext builder.stack) text span := by
  simp only [textTokens, inside.depth, inside.cell]

theorem plain_text_single (token : Token) : plainText [token] = plainTextOfToken token :=
  String.append_empty

theorem plain_text_of_text (builder : Builder) (text : String) (span : Span) :
    plainText (textTokens builder.source (stackContext builder.stack) text span) =
      literalLeaf builder (.text text) span := by
  have leaf : ∀ raw, plainText [.text text none raw] = text := literal_text_writes.leaf text
  unfold literalLeaf beginsEscaped textTokens
  rw [← builder_escaped_at]
  cases split : text.toList with
  | nil => cases builder.escapedAt? span.start <;> simp [leaf, split]
  | cons first rest =>
      cases escape : builder.escapedAt? span.start with
      | none => simp [leaf, split]
      | some escaped =>
          by_cases same : first = escaped
          · have mark := raw_of_escape escape
            rw [builder_raw] at mark
            have parts : "\\" ++ text = String.ofList ['\\', escaped] ++ String.ofList rest := by
              rw [← String.toList_inj, String.toList_append, split, same]
              simp
            simp only [split, same, if_true, mark, beq_self_eq_true, parts]
            cases rest <;> simp [plainText, plainTextOfToken]
          · have other : ¬escaped = first := fun equal => same equal.symm
            simp [split, same, other, leaf]

mutual

/-- An inline tree gives inline tokens that say what the tree says. The induction
follows the tree; entering an inline container changes nothing that its content
is read by. -/
theorem literal_of_tree (options : LexOptions) : ∀ (tree : EventTree) {context : Context},
    Inside builder context → inlineTree tree = true →
    ∃ tokens, treeContributions builder.source options context tree = tokens.map .inline ∧
      plainText tokens = literalTree builder tree
  | .leaf leaf span, context, inside, inline => by
      have outside : context.parent ≠ .code ∧ context.parent ≠ .htmlBlock := by
        simp [inside.inline]
      cases leaf with
      | rule => cases inline
      | taskMarker checked => cases inline
      | text text =>
          refine ⟨textTokens builder.source context text span, ?_, ?_⟩
          · simp only [treeContributions, leafContributions, if_neg outside.1]
          · rw [text_tokens_inside inside, plain_text_of_text, literalTree]
      | html html =>
          refine ⟨[.html html], ?_, plain_text_single _⟩
          simp only [treeContributions, leafContributions, if_neg outside.2, List.map_cons,
            List.map_nil]
      | inlineHtml html =>
          refine ⟨[.html html], ?_, plain_text_single _⟩
          simp only [treeContributions, leafContributions, if_neg outside.2, List.map_cons,
            List.map_nil]
      | _ => exact ⟨[_], rfl, (plain_text_single _).trans (inside.raw span)⟩
  | .node tag entered children closed, context, inside, inline => by
      simp only [inlineTree, Bool.and_eq_true] at inline
      obtain ⟨tokens, contributions, said⟩ :=
        literal_of_forest options children (inside.enter inline.1) inline.2
      have placed : plainText (placedTokens .inline
          (forestContributions builder.source options (context.inside tag) children)) =
            literalForest builder children := by
        rw [contributions, write_placed literal_text_writes, said]
      cases tag with
      | emphasis | strong | strikethrough | link _ _ =>
          exact ⟨[_], rfl, (plain_text_single _).trans placed⟩
      | image destination title =>
          exact ⟨[_], rfl, (plain_text_single _).trans (inside.raw closed)⟩
      | _ => cases inline.1

theorem literal_of_forest (options : LexOptions) : ∀ (forest : List EventTree) {context : Context},
    Inside builder context → inlineForest forest = true →
    ∃ tokens, forestContributions builder.source options context forest = tokens.map .inline ∧
      plainText tokens = literalForest builder forest
  | [], _, _, _ => ⟨[], rfl, rfl⟩
  | tree :: rest, context, inside, inline => by
      simp only [inlineForest, Bool.and_eq_true] at inline
      obtain ⟨own, given, said⟩ := literal_of_tree options tree inside inline.1
      obtain ⟨later, laterGiven, laterSaid⟩ := literal_of_forest options rest inside inline.2
      refine ⟨own ++ later, ?_, ?_⟩
      · rw [forestContributions, given, laterGiven, List.map_append]
      · rw [literal_text_writes.append, said, laterSaid, literalForest]

end

def enclosed (tag : Tag) (entered : Span) (content : InlineEvents) (closed : Span) :
    List LocatedEvent :=
  ⟨.enter tag, entered⟩ :: (content.events ++ [⟨.leave, closed⟩])

theorem enclosed_eq_tree_events (tag : Tag) (entered : Span) (content : InlineEvents)
    (closed : Span) :
    enclosed tag entered content closed =
      treeEvents (.node tag entered content.forest closed) := by
  rw [enclosed, treeEvents, content.forest_events]

/-- The tokens that a container of inline events holds when it is left. -/
def contentTokens (builder : Builder) (tag : Tag) (content : InlineEvents) : List Token :=
  placedTokens (parentKind tag)
    (forestContributions builder.source builder.options ((stackContext builder.stack).inside tag)
      content.forest)

theorem plain_text_of_content (builder : Builder) {tag : Tag} (inline : parentKind tag = .inline)
    (content : InlineEvents) :
    plainText (contentTokens builder tag content) =
      literalForest (builder.enter tag) content.forest := by
  have entered := stack_context_enter tag [] builder.stack
  have inside : Inside (builder.enter tag) ((stackContext builder.stack).inside tag) :=
    ⟨inline, congrArg Context.quoteDepth entered.symm, congrArg Context.inCell entered.symm⟩
  obtain ⟨tokens, given, said⟩ :=
    literal_of_forest builder.options content.forest inside content.inline_forest
  have source : (builder.enter tag).source = builder.source := rfl
  rw [source] at given
  rw [contentTokens, inline, given, write_placed literal_text_writes, said]

theorem push_cell_of_content (builder : Builder) (entered : Span) (content : InlineEvents)
    (closed : Span) :
    builder.pushAll (enclosed .tableCell entered content closed) =
      builder.pushTableCell ⟨contentTokens builder .tableCell content, builder.raw closed⟩
        closed := by
  rw [enclosed_eq_tree_events, push_tree, push_table_cell_eq_absorb]
  rfl

theorem push_image_of_content (builder : Builder) (destination title : String) (entered : Span)
    (content : InlineEvents) (closed : Span) :
    builder.pushAll (enclosed (.image destination title) entered content closed) =
      builder.pushInline (.image destination (Text.nonEmpty title)
        (plainText (contentTokens builder (.image destination title) content))
        (builder.raw closed)) := by
  rw [enclosed_eq_tree_events, push_tree, push_inline_eq_absorb]
  rfl

end ChatBlocks.LiteralText
