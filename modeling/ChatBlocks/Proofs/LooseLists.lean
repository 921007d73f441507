import ChatBlocks.Proofs.ListLines
import ChatBlocks.Proofs.LiteralText
import ChatBlocks.Proofs.WrittenAlike

/-!
# Tight and loose lists

Inline content of a list item stands in the item itself in a tight list and in
a paragraph in a loose one. The builder takes it two ways: it gathers what stands
in the item into runs, next to the lists and other blocks of that item, and it
gives a paragraph its own sequence of tokens. Both are written as the same text,
so a paragraph around inline content of an item changes nothing that is rendered,
whatever item of whatever nested list it stands in.
-/

namespace ChatBlocks.LooseLists

open Markdown (Span Tag)
open EventForest ForestTokens BuilderForest BlankGaps EscapedText ListLines LiteralText NormalForm
  WrittenAlike

/-- A tree that is inline, whatever container it stands in. -/
def standsInline : EventTree → Bool
  | .leaf leaf _ => isInlineLeaf leaf
  | .node tag _ _ _ => isInlineTag tag

/-- A forest, and the same forest with paragraphs around any groups of neighbouring
inline trees that stand directly in items, at every depth. The flag says whether the
forest itself stands directly in an item. -/
inductive Loosened : Bool → List EventTree → List EventTree → Prop
  | nil {directly : Bool} : Loosened directly [] []
  | keep {directly : Bool} {rest loosened : List EventTree} (tree : EventTree)
      (later : Loosened directly rest loosened) :
      Loosened directly (tree :: rest) (tree :: loosened)
  | inside {directly : Bool} {tag : Tag} {children inner rest loosened : List EventTree}
      (entered closed : Span) (kept : keepsLiteralText tag = false)
      (below : Loosened (tag == .item) children inner) (later : Loosened directly rest loosened) :
      Loosened directly (.node tag entered children closed :: rest)
        (.node tag entered inner closed :: loosened)
  | wrap {group rest loosened : List EventTree} (entered closed : Span)
      (inline : group.all standsInline = true) (later : Loosened true rest loosened) :
      Loosened true (group ++ rest) (.node .paragraph entered group closed :: loosened)

/-- What a contribution adds to the line of the item it goes to. -/
def itemMarkup : Contribution → String
  | .inline token => renderInlineToken token
  | .block token _ => itemText [token]
  | .item _ | .head _ | .row _ | .cell _ | .codeText _ | .task _ => ""

def contributedList? : Contribution → Option ListBlock
  | .block token _ => asList? token
  | .inline _ | .item _ | .head _ | .row _ | .cell _ | .codeText _ | .task _ => none

theorem item_text_append (first second : List Token) :
    itemText (first ++ second) = itemText first ++ itemText second := by
  simp only [itemText, List.filter_append, List.map_append, concat_append]

theorem item_text_run (text raw : String) (run : List Token) :
    itemText [.text text (some run) raw] = renderInline run := by
  simp [itemText, Token.isList, itemPart, Token.children?]

theorem item_text_append_to_run (tokens : List Token) (token : Token) :
    itemText (appendToRun tokens token) = itemText tokens ++ renderInlineToken token := by
  have single : renderInline [token] = renderInlineToken token := String.append_empty
  rcases append_to_run_cases tokens token with ⟨front, text, run, raw, rfl, grown⟩ | ⟨added, -⟩
  · rw [grown, item_text_append, item_text_append, item_text_run, item_text_run,
      write_append_inline markup_writes, single, String.append_assoc]
  · rw [added, item_text_append, item_text_run, single]

theorem item_text_place (tokens : List Token) (contribution : Contribution) :
    itemText (placeToken .item tokens contribution) =
      itemText tokens ++ itemMarkup contribution := by
  cases contribution with
  | inline token => exact item_text_append_to_run tokens token
  | block token span => exact item_text_append tokens [token]
  | _ => exact String.append_empty.symm

theorem item_text_placed (contributions : List Contribution) :
    itemText (placedTokens .item contributions) =
      Text.concat (contributions.map itemMarkup) := by
  have general : ∀ tokens, itemText (contributions.foldl (placeToken .item) tokens) =
      itemText tokens ++ Text.concat (contributions.map itemMarkup) := by
    induction contributions with
    | nil => intro tokens; exact String.append_empty.symm
    | cons contribution rest ih =>
        intro tokens
        rw [List.foldl_cons, ih, item_text_place, List.map_cons, Text.concat, String.append_assoc]
  exact (general []).trans String.empty_append

theorem lists_place (tokens : List Token) (contribution : Contribution) :
    (placeToken .item tokens contribution).filterMap asList? =
      tokens.filterMap asList? ++ [contribution].filterMap contributedList? := by
  cases contribution with
  | inline token =>
      have none : [Contribution.inline token].filterMap contributedList? = [] := rfl
      rw [placeToken, if_pos rfl, none, List.append_nil]
      rcases append_to_run_cases tokens token with
        ⟨front, text, run, raw, rfl, grown⟩ | ⟨added, -⟩
      · rw [grown, List.filterMap_append, List.filterMap_append]
        rfl
      · rw [added, List.filterMap_append]
        exact List.append_nil _
  | block token span => exact List.filterMap_append
  | _ => exact (List.append_nil _).symm

/-- Runs are no lists, so the lists of an item are those that were contributed. -/
theorem lists_placed (contributions : List Contribution) :
    (placedTokens .item contributions).filterMap asList? =
      contributions.filterMap contributedList? := by
  have general : ∀ tokens, (contributions.foldl (placeToken .item) tokens).filterMap asList? =
      tokens.filterMap asList? ++ contributions.filterMap contributedList? := by
    induction contributions with
    | nil => intro tokens; exact (List.append_nil _).symm
    | cons contribution rest ih =>
        intro tokens
        rw [List.foldl_cons, ih, lists_place, List.append_assoc, ← List.filterMap_append]
        rfl
  exact general []

/-- Contributions of which an item shows the same line and the same lists. -/
structure ShownAlike (contributions given : List Contribution) : Prop where
  line : Text.concat (contributions.map itemMarkup) = Text.concat (given.map itemMarkup)
  lists : ∀ options depth,
    (contributions.filterMap contributedList?).map (renderList options depth) =
      (given.filterMap contributedList?).map (renderList options depth)

theorem ShownAlike.append {first second given added : List Contribution}
    (front : ShownAlike first given) (back : ShownAlike second added) :
    ShownAlike (first ++ second) (given ++ added) where
  line := by simp only [List.map_append, concat_append, front.line, back.line]
  lists options depth := by
    simp only [List.filterMap_append, List.map_append, front.lists, back.lists]

theorem written_list_of_block (options : RenderOptions) (depth : Nat) (token : Token)
    (span : Span) :
    ([Contribution.block token span].filterMap contributedList?).map (renderList options depth) =
      (renderIfList options depth token).toList := by
  rw [render_if_list]
  cases list : asList? token <;> simp [contributedList?, list]

theorem ShownAlike.single {contribution other : Contribution}
    (alike : ContributionAlike contribution other) : ShownAlike [contribution] [other] := by
  cases alike with
  | same => exact ⟨rfl, fun _ _ => rfl⟩
  | item => exact ⟨rfl, fun _ _ => rfl⟩
  | inline tokens => exact ⟨congrArg (· ++ "") tokens.markup, fun _ _ => rfl⟩
  | @block token other tokens span =>
      have isList : token.isList = other.isList := by
        have kind := tokens.kind
        cases token <;> cases other <;> first | rfl | cases kind
      refine ⟨?_, fun options depth => ?_⟩
      · simp only [List.map_cons, List.map_nil, itemMarkup, itemText, List.filter_cons, isList]
        split <;> simp [tokens.part]
      · rw [written_list_of_block, written_list_of_block, tokens.list]

theorem ShownAlike.of_alike {contributions given : List Contribution}
    (alike : List.Forall₂ ContributionAlike contributions given) :
    ShownAlike contributions given := by
  induction alike with
  | nil => exact ⟨rfl, fun _ _ => rfl⟩
  | cons own _ ih => exact (ShownAlike.single own).append ih

theorem ShownAlike.item {contributions given : List Contribution}
    (shown : ShownAlike contributions given) (task other : Option Bool) (raw otherRaw : String) :
    ItemAlike ⟨task, placedTokens .item contributions, raw⟩
      ⟨other, placedTokens .item given, otherRaw⟩ where
  text := by rw [item_text_placed, item_text_placed, shown.line]
  list options depth := by
    rw [render_last_list, render_last_list, lastList?, lastList?, lists_placed, lists_placed,
      ← List.getLast?_map, ← List.getLast?_map, shown.lists]

theorem inline_tree_contributions (source : String) (options : LexOptions) {context : Context}
    (item : context.parent = .item) {tree : EventTree} (inline : standsInline tree = true) :
    ∃ tokens : List Token, treeContributions source options context tree = tokens.map .inline ∧
      treeContributions source options (context.inside .paragraph) tree = tokens.map .inline := by
  obtain ⟨quoteDepth, inCell, parent⟩ := context
  obtain rfl : parent = .item := item
  have paragraph : Context.inside ⟨quoteDepth, inCell, .item⟩ .paragraph =
      ⟨quoteDepth, inCell, .inline⟩ := by
    simp [Context.inside, parentKind]
  rw [paragraph]
  cases tree with
  | leaf leaf span =>
      cases leaf with
      | rule => cases inline
      | taskMarker checked => cases inline
      | text text => exact ⟨_, rfl, rfl⟩
      | _ => exact ⟨[_], rfl, rfl⟩
  | node tag entered children closed =>
      cases tag <;> cases inline <;> exact ⟨[_], rfl, rfl⟩

theorem inline_group_contributions (source : String) (options : LexOptions) {context : Context}
    (item : context.parent = .item) (group : List EventTree)
    (inline : group.all standsInline = true) :
    ∃ tokens : List Token, forestContributions source options context group = tokens.map .inline ∧
      forestContributions source options (context.inside .paragraph) group =
        tokens.map .inline := by
  induction group with
  | nil => exact ⟨[], rfl, rfl⟩
  | cons tree rest ih =>
      rw [List.all_cons, Bool.and_eq_true] at inline
      obtain ⟨own, direct, wrapped⟩ := inline_tree_contributions source options item inline.1
      obtain ⟨later, laterDirect, laterWrapped⟩ := ih inline.2
      refine ⟨own ++ later, ?_, ?_⟩
      · rw [forestContributions, direct, laterDirect, List.map_append]
      · rw [forestContributions, wrapped, laterWrapped, List.map_append]

theorem paragraph_shown_alike (source : String) (options : LexOptions) {context : Context}
    (item : context.parent = .item) {group : List EventTree}
    (inline : group.all standsInline = true) (entered closed : Span) :
    ShownAlike (forestContributions source options context group)
      (treeContributions source options context (.node .paragraph entered group closed)) := by
  obtain ⟨tokens, direct, wrapped⟩ := inline_group_contributions source options item group inline
  have below : context.parent ≠ .top := by simp [item]
  have placed := write_placed markup_writes tokens
  rw [direct, treeContributions, wrapped, containerContribution, paragraph_below_top options below]
  constructor
  · calc
      Text.concat ((tokens.map Contribution.inline).map itemMarkup) =
          Text.concat (tokens.map renderInlineToken) := by
        rw [List.map_map]
        rfl
      _ = renderInline (placedTokens .inline (tokens.map .inline)) := by
        rw [placed, render_inline_eq_concat]
      _ = _ := by
        simp [itemMarkup, itemText, Token.isList, itemPart, Token.children?, parentKind]
  · intro renderOptions depth
    have none : (tokens.map Contribution.inline).filterMap contributedList? = [] := by
      simp [List.filterMap_map, List.filterMap_eq_nil_iff, contributedList?]
    rw [none]
    rfl

/-- Loosening keeps contributions alike, and keeps what an item shows of them when the
forest stands directly in one. The induction is on the paragraphs put in; entering a
container swaps the one for the other where that container is an item. -/
theorem loosened_contributions (source : String) (options : LexOptions) {directly : Bool}
    {forest loosened : List EventTree} (wrapped : Loosened directly forest loosened)
    (context : Context) :
    (directly = false → List.Forall₂ ContributionAlike
      (forestContributions source options context forest)
      (forestContributions source options context loosened)) ∧
    (context.parent = .item → ShownAlike
      (forestContributions source options context forest)
      (forestContributions source options context loosened)) := by
  induction wrapped generalizing context with
  | nil => exact ⟨fun _ => .nil, fun _ => ⟨rfl, fun _ _ => rfl⟩⟩
  | keep tree _ ih =>
      obtain ⟨elsewhere, inItem⟩ := ih context
      have own := contributions_alike_refl (treeContributions source options context tree)
      exact ⟨fun outside => List.rel_append own (elsewhere outside),
        fun item => (ShownAlike.of_alike own).append (inItem item)⟩
  | @inside _ tag children inner _ _ entered closed kept _ _ below later =>
      obtain ⟨elsewhere, inItem⟩ := later context
      obtain ⟨belowAlike, belowShown⟩ := below (context.inside tag)
      have own : ContributionAlike
          (containerContribution source options context tag closed
            (forestContributions source options (context.inside tag) children))
          (containerContribution source options context tag closed
            (forestContributions source options (context.inside tag) inner)) := by
        by_cases item : tag = .item
        · obtain rfl := item
          have shown := belowShown rfl
          simp only [containerContribution]
          -- An item that lies in no list is its source on both sides.
          split
          · exact .item (shown.item _ _ _ _)
          · exact .same _
        · exact container_alike source options context kept item closed
            (belowAlike (by simp [item]))
      exact ⟨fun outside => .cons own (elsewhere outside),
        fun item => (ShownAlike.single own).append (inItem item)⟩
  | wrap entered closed inline _ ih =>
      -- Paragraphs are put in below items alone, so there is nothing to say elsewhere.
      refine ⟨fun outside => Bool.noConfusion outside, fun item => ?_⟩
      rw [forest_contributions_append]
      exact (paragraph_shown_alike source options item inline entered closed).append
        ((ih context).2 item)

def builtList (builder : Builder) (first : Option UInt64) (forest : List EventTree)
    (closed : Span) : ListBlock :=
  ⟨first.isSome, first.getD 1,
    itemsOf (forestContributions builder.source builder.options
      ((stackContext builder.stack).inside (.list first)) forest), builder.raw closed⟩

theorem push_list (builder : Builder) (first : Option UInt64) (entered : Span)
    (forest : List EventTree) (closed : Span) :
    builder.pushAll (treeEvents (.node (.list first) entered forest closed)) =
      builder.pushBlock (.list first.isSome (first.getD 1)
        (builtList builder first forest closed).items (builder.raw closed)) closed := by
  rw [push_tree, push_block_eq_absorb]
  rfl

/-- A list is rendered the same with paragraphs around any inline content of its items
and of the items of the lists in it, at any depth and with any bullet. So are the
messages of whole documents that differ in such paragraphs. -/
theorem loose_lists_render_alike {forest loosened : List EventTree}
    (wrapped : Loosened false forest loosened) :
    (∀ (builder : Builder) (first : Option UInt64) (entered closed : Span),
      ∃ list other : ListBlock,
        builder.pushAll (treeEvents (.node (.list first) entered forest closed)) =
          builder.pushBlock (.list list.ordered list.start list.items list.raw) closed ∧
        builder.pushAll (treeEvents (.node (.list first) entered loosened closed)) =
          builder.pushBlock (.list other.ordered other.start other.items other.raw) closed ∧
        ∀ (options : RenderOptions) (depth : Nat),
          renderList options depth list = renderList options depth other) ∧
    ∀ (source : String) (lexOptions : LexOptions) (options : RenderOptions),
      assemble options (tokensOfEvents source lexOptions (forestEvents forest)) =
        assemble options (tokensOfEvents source lexOptions (forestEvents loosened)) := by
  constructor
  · intro builder first entered closed
    have alike := (loosened_contributions builder.source builder.options wrapped
      ((stackContext builder.stack).inside (.list first))).1 rfl
    refine ⟨builtList builder first forest closed, builtList builder first loosened closed,
      push_list builder first entered forest closed,
      push_list builder first entered loosened closed, fun options depth => ?_⟩
    exact congrArg Text.joinLines (render_items_alike (items_alike alike) options depth _ _ 0)
  · intro source lexOptions options
    rw [tokens_of_events, tokens_of_events, forest_of_forest_events, forest_of_forest_events]
    exact assemble_alike options source none
      ((loosened_contributions source lexOptions wrapped topContext).1 rfl)

/-- Text with emphasis before a nested list, text behind that list, and text in an
item of it: each stands in its item on one side and in a paragraph on the other. -/
theorem paragraphs_in_nested_items_render_alike :
    let source := "7. a *b*\n   - c\n\n   d"
    let before : List EventTree :=
      [.leaf (.text "a ") ⟨3, 5⟩, .node .emphasis ⟨5, 8⟩ [.leaf (.text "b") ⟨6, 7⟩] ⟨5, 8⟩]
    let nested : List EventTree := [.leaf (.text "c") ⟨14, 15⟩]
    let behind : List EventTree := [.leaf (.text "d") ⟨20, 21⟩]
    let paragraph (group : List EventTree) : EventTree :=
      .node .paragraph ⟨0, 0⟩ group ⟨0, 0⟩
    let sublist (content : List EventTree) : EventTree :=
      .node (.list none) ⟨12, 16⟩ [.node .item ⟨12, 16⟩ content ⟨12, 16⟩] ⟨12, 16⟩
    let list (content : List EventTree) : EventTree :=
      .node (.list (some 7)) ⟨0, 21⟩ [.node .item ⟨0, 21⟩ content ⟨0, 21⟩] ⟨0, 21⟩
    let tight := list (before ++ sublist nested :: behind)
    let loose := list [paragraph before, sublist [paragraph nested], paragraph behind]
    Loosened false [tight] [loose] ∧
      assemble {} (tokensOfEvents source {} (forestEvents [tight])) =
        [.markupSection "7. a _b_d\n  • c"] ∧
      assemble {} (tokensOfEvents source {} (forestEvents [loose])) =
        [.markupSection "7. a _b_d\n  • c"] := by
  intro source before nested behind paragraph sublist list tight loose
  have whole : ∀ group, group.all standsInline = true → Loosened true group [paragraph group] := by
    intro group inline
    have wrapped : Loosened true (group ++ []) [paragraph group] := .wrap _ _ inline .nil
    rwa [List.append_nil] at wrapped
  have below : Loosened false [.node .item ⟨12, 16⟩ nested ⟨12, 16⟩]
      [.node .item ⟨12, 16⟩ [paragraph nested] ⟨12, 16⟩] :=
    .inside _ _ rfl (whole nested rfl) .nil
  have content : Loosened true (before ++ sublist nested :: behind)
      [paragraph before, sublist [paragraph nested], paragraph behind] :=
    .wrap _ _ rfl (.inside _ _ rfl below (whole behind rfl))
  have wrapped : Loosened false [tight] [loose] :=
    .inside _ _ rfl (.inside _ _ rfl content .nil) .nil
  have written : assemble {} (tokensOfEvents source {} (forestEvents [tight])) =
      [.markupSection "7. a _b_d\n  • c"] := by decide
  exact ⟨wrapped, written,
    ((loose_lists_render_alike wrapped).2 source {} {}).symm.trans written⟩

end ChatBlocks.LooseLists
