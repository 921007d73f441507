import ChatBlocks.Proofs.NormalForm
import ChatBlocks.Proofs.Slices

/-!
# White space between blocks

The tokens of a document are those of its top-level trees, each built alone, and
between them the tokens of white space. One of these stands in front of a tree
exactly when the tree is a block, a block came before it, and the source from
the end of that block to the start of this one is white space and not empty.
Trees that are no blocks are passed over: neither their ranges nor their tokens
have any part in it.
-/

namespace ChatBlocks.BlankGaps

open Markdown (LocatedEvent Span Tag)
open EventForest ForestTokens BuilderForest NormalForm Slices

def isInlineTag : Tag → Bool
  | .emphasis | .strong | .strikethrough | .link .. | .image .. => true
  | .paragraph | .heading _ | .blockquote | .codeBlock _ | .htmlBlock | .list _ | .item
  | .footnoteDefinition | .definitionList | .definitionTitle | .definitionBody | .table
  | .tableHead | .tableRow | .tableCell | .superscript | .subscript | .metadata => false

/-- The range of a top-level tree that is a block: a rule, or a container that
is not inline, which has the range it is left with. -/
def blockSpan? : EventTree → Option Span
  | .leaf .rule span => some span
  | .leaf _ _ => none
  | .node tag _ _ closed => if isInlineTag tag then none else some closed

def blockSpans (trees : List EventTree) : List Span :=
  trees.filterMap blockSpan?

/-- The tree at an index is a block, and the source between it and the block
before it is white space and not empty. -/
def BlankGap (source : String) (trees : List EventTree) (index : Nat) (gap : String) : Prop :=
  ∃ tree span previous, trees[index]? = some tree ∧ blockSpan? tree = some span ∧
    (blockSpans (trees.take index)).getLast? = some previous ∧
    IsSlice source ⟨previous.stop, span.start⟩ gap ∧ gap ≠ "" ∧ Text.isBlank gap = true

theorem top_block_contribution (source : String) (options : LexOptions) {tree : EventTree}
    {span : Span} (block : blockSpan? tree = some span) :
    ∃ token, treeContributions source options topContext tree = [.block token span] := by
  cases tree with
  | leaf leaf own =>
      cases leaf <;> cases block
      exact ⟨_, rfl⟩
  | node tag entered children closed =>
      cases tag <;> cases block <;> exact ⟨_, rfl⟩

theorem top_inline_contributions (source : String) (options : LexOptions) {tree : EventTree}
    (inline : blockSpan? tree = none) :
    ∃ tokens : List Token,
      treeContributions source options topContext tree = tokens.map .inline := by
  cases tree with
  | leaf leaf span =>
      cases leaf with
      | rule => cases inline
      | text text => exact ⟨textTokens source topContext text span, rfl⟩
      | taskMarker checked => exact ⟨[], rfl⟩
      | _ => exact ⟨[_], rfl⟩
  | node tag entered children closed =>
      cases tag <;> cases inline <;> exact ⟨[_], rfl⟩

theorem top_tokens_inline (source : String) (lastBlockEnd : Option Nat) (tokens : List Token)
    (rest : List Contribution) :
    topTokens source lastBlockEnd (tokens.map .inline ++ rest) =
      tokens ++ topTokens source lastBlockEnd rest := by
  induction tokens with
  | nil => rfl
  | cons token more ih => simp only [List.map_cons, List.cons_append, topTokens, ih]

/-- A top-level tree by itself: nothing came before it, so there is no gap. -/
theorem tokens_of_tree_events (source : String) (options : LexOptions) (tree : EventTree) :
    tokensOfEvents source options (treeEvents tree) =
      topTokens source none (treeContributions source options topContext tree) := by
  have alone : forestEvents [tree] = treeEvents tree := List.append_nil _
  rw [← alone, tokens_of_events, forest_of_forest_events, forestTokens, forestContributions,
    forestContributions, List.append_nil]

theorem tokens_of_block (source : String) (options : LexOptions) {tree : EventTree} {span : Span}
    (block : blockSpan? tree = some span) :
    ∃ token, tokensOfEvents source options (treeEvents tree) = [token] := by
  obtain ⟨token, own⟩ := top_block_contribution source options block
  rw [tokens_of_tree_events, own]
  exact ⟨token, rfl⟩

theorem gap_before_eq_some_iff (builder : Builder) (offset : Nat) (gap : String) :
    builder.gapBefore? offset = some gap ↔
      ∃ stop, builder.lastBlockEnd = some stop ∧
        IsSlice builder.source ⟨stop, offset⟩ gap ∧ gap ≠ "" ∧ Text.isBlank gap = true := by
  unfold Builder.gapBefore?
  constructor
  · intro found
    obtain ⟨stop, ended, rest⟩ := Option.bind_eq_some_iff.mp found
    obtain ⟨text, slice, kept⟩ := Option.bind_eq_some_iff.mp rest
    split at kept
    · rename_i blank
      obtain rfl := Option.some.inj kept
      simp only [Bool.and_eq_true, Bool.not_eq_true', String.isEmpty_eq_false_iff] at blank
      exact ⟨stop, ended, (slice_eq_some_iff _ _ _ _).mp slice, blank⟩
    · cases kept
  · rintro ⟨stop, ended, slice, visible, blank⟩
    have found := (slice_eq_some_iff _ _ _ _).mpr slice
    simp [ended, found, visible, blank]

/-- For each top-level tree the white space in front of it. -/
def gapsFrom (source : String) : Option Nat → List EventTree → List (Option String)
  | _, [] => []
  | lastBlockEnd, tree :: rest =>
      match blockSpan? tree with
      | some span =>
          Builder.gapBefore? ⟨source, {}, [], [], lastBlockEnd⟩ span.start
            :: gapsFrom source (some span.stop) rest
      | none => none :: gapsFrom source lastBlockEnd rest

theorem length_gaps_from (source : String) (lastBlockEnd : Option Nat) (trees : List EventTree) :
    (gapsFrom source lastBlockEnd trees).length = trees.length := by
  induction trees generalizing lastBlockEnd with
  | nil => rfl
  | cons tree rest ih =>
      rw [gapsFrom]
      split <;> simp [ih]

def spacedTokens (source : String) (options : LexOptions) (gap : Option String)
    (tree : EventTree) : List Token :=
  (gap.map Token.space).toList ++ tokensOfEvents source options (treeEvents tree)

theorem top_tokens_spaced (source : String) (options : LexOptions) (trees : List EventTree)
    (lastBlockEnd : Option Nat) :
    topTokens source lastBlockEnd (forestContributions source options topContext trees) =
      (List.zipWith (spacedTokens source options) (gapsFrom source lastBlockEnd trees)
        trees).flatten := by
  induction trees generalizing lastBlockEnd with
  | nil => rfl
  | cons tree rest ih =>
      rw [forestContributions, gapsFrom]
      cases block : blockSpan? tree with
      | some span =>
          -- Alone the block has nothing before it, so its place adds the gap only.
          obtain ⟨token, own⟩ := top_block_contribution source options block
          have gap := gap_tokens_eq ⟨source, {}, [], [], lastBlockEnd⟩ span.start
          have first : gapTokens source none span.start = [] := rfl
          simp only at gap
          simp only [own, List.singleton_append, topTokens, gap, first, ih, List.zipWith_cons_cons,
            List.flatten_cons, spacedTokens, tokens_of_tree_events, List.nil_append,
            List.append_assoc]
      | none =>
          obtain ⟨tokens, own⟩ := top_inline_contributions source options block
          have alone := top_tokens_inline source none tokens []
          rw [List.append_nil] at alone
          simp only [own, top_tokens_inline, ih, List.zipWith_cons_cons, List.flatten_cons,
            spacedTokens, tokens_of_tree_events, alone, topTokens, List.append_nil,
            Option.map_none, Option.toList_none, List.nil_append]

theorem block_spans_cons_block {tree : EventTree} {span : Span} (block : blockSpan? tree = some span)
    (rest : List EventTree) : blockSpans (tree :: rest) = span :: blockSpans rest :=
  List.filterMap_cons_some block

theorem block_spans_cons_inline {tree : EventTree} (inline : blockSpan? tree = none)
    (rest : List EventTree) : blockSpans (tree :: rest) = blockSpans rest :=
  List.filterMap_cons_none inline

theorem last_stop_cons_block {tree : EventTree} {span : Span} (block : blockSpan? tree = some span)
    (earlier : List EventTree) (lastBlockEnd : Option Nat) :
    ((blockSpans (tree :: earlier)).getLast?.map Span.stop).or lastBlockEnd =
      ((blockSpans earlier).getLast?.map Span.stop).or (some span.stop) := by
  rw [block_spans_cons_block block, List.getLast?_cons]
  cases (blockSpans earlier).getLast? <;> rfl

theorem gaps_from_eq_some_iff (source : String) (trees : List EventTree)
    (lastBlockEnd : Option Nat) (index : Nat) (gap : String) :
    (gapsFrom source lastBlockEnd trees)[index]? = some (some gap) ↔
      ∃ tree span stop, trees[index]? = some tree ∧ blockSpan? tree = some span ∧
        ((blockSpans (trees.take index)).getLast?.map Span.stop).or lastBlockEnd = some stop ∧
        IsSlice source ⟨stop, span.start⟩ gap ∧ gap ≠ "" ∧ Text.isBlank gap = true := by
  induction trees generalizing lastBlockEnd index with
  | nil => simp [gapsFrom]
  | cons tree rest ih =>
      rw [gapsFrom]
      cases block : blockSpan? tree with
      | some span =>
          cases index with
          | zero => simp [gap_before_eq_some_iff, block, blockSpans]
          | succ index =>
              simp only [List.getElem?_cons_succ, ih, List.take_succ_cons,
                last_stop_cons_block block]
      | none =>
          cases index with
          | zero => simp [block]
          | succ index =>
              simp only [List.getElem?_cons_succ, ih, List.take_succ_cons,
                block_spans_cons_inline block]

/-- White space that is neither doubled nor last. -/
def SpacesInside (tokens : List Token) : Prop :=
  Apart isSpace tokens ∧ ∀ last ∈ tokens.getLast?, isSpace last = false

theorem SpacesInside.cons_visible {token : Token} {tokens : List Token}
    (visible : isSpace token = false) (behind : SpacesInside tokens) :
    SpacesInside (token :: tokens) := by
  obtain ⟨apart, ending⟩ := behind
  refine ⟨apart.cons (by simp [visible]), ?_⟩
  intro last found
  rw [List.getLast?_cons, Option.mem_some_iff] at found
  cases final : tokens.getLast? with
  | none =>
      rw [final] at found
      exact found ▸ visible
  | some other =>
      rw [final] at found
      exact found ▸ ending other final

theorem SpacesInside.cons_space {token : Token} {tokens : List Token} (gap : String)
    (visible : isSpace token = false) (behind : SpacesInside (token :: tokens)) :
    SpacesInside (.space gap :: token :: tokens) := by
  refine ⟨behind.1.cons (by simp [visible]), ?_⟩
  intro last found
  rw [List.getLast?_cons_cons] at found
  exact behind.2 last found

theorem spaces_inside (source : String) (contributions : List Contribution)
    (normal : ∀ contribution ∈ contributions, NormalContribution contribution)
    (lastBlockEnd : Option Nat) : SpacesInside (topTokens source lastBlockEnd contributions) := by
  induction contributions generalizing lastBlockEnd with
  | nil => exact ⟨List.isChain_nil, by simp [topTokens]⟩
  | cons contribution rest ih =>
      obtain ⟨own, later⟩ := List.forall_mem_cons.mp normal
      cases contribution with
      | inline token => exact (ih later lastBlockEnd).cons_visible own.1.no_space
      | block token span =>
          have behind := (ih later (some span.stop)).cons_visible own.1.no_space
          rw [topTokens]
          rcases gap_tokens_cases source lastBlockEnd span.start with none | ⟨gap, one⟩
          · simpa only [none, List.nil_append] using behind
          · rw [one, List.singleton_append]
            exact behind.cons_space gap own.1.no_space
      | _ => exact ih later lastBlockEnd

/-- As long as there was no block, there is no white space. -/
theorem no_leading_space (source : String) (contributions : List Contribution)
    (normal : ∀ contribution ∈ contributions, NormalContribution contribution) :
    ∀ first ∈ (topTokens source none contributions).head?, isSpace first = false := by
  induction contributions with
  | nil => simp [topTokens]
  | cons contribution rest ih =>
      obtain ⟨own, later⟩ := List.forall_mem_cons.mp normal
      cases contribution with
      | inline token => simpa [topTokens] using own.1.no_space
      | block token span => simpa [topTokens, gapTokens] using own.1.no_space
      | _ => exact ih later

theorem no_space_in_tree (source : String) (options : LexOptions) (tree : EventTree) :
    ∀ token ∈ tokensOfEvents source options (treeEvents tree), isSpace token = false := by
  have normal := normal_tree source options tree topContext
  rw [tokens_of_tree_events]
  cases block : blockSpan? tree with
  | some span =>
      obtain ⟨token, own⟩ := top_block_contribution source options block
      rw [own] at normal ⊢
      simpa [topTokens, gapTokens] using (normal _ List.mem_cons_self).1.no_space
  | none =>
      obtain ⟨tokens, own⟩ := top_inline_contributions source options block
      have alone := top_tokens_inline source none tokens []
      rw [List.append_nil] at alone
      rw [own, alone, topTokens, List.append_nil]
      rw [own, List.forall_mem_map] at normal
      exact fun token member => (normal token member).1.no_space

theorem no_space_below_top (source : String) (options : LexOptions) (forest : List EventTree) :
    ∀ sequence ∈ sequencesIn (forestTokens source options forest),
      ∀ token ∈ sequence.2, isSpace token = false := by
  intro sequence member
  have normal := forest_tokens_normal source options forest sequence (List.mem_cons_of_mem _ member)
  exact normal.spaces_at_top (place_ne_top _ sequence member)

/-- Between two top-level trees no container is open. -/
theorem stack_between_trees (source : String) (options : LexOptions) (trees : List EventTree) :
    ((Builder.start source options).pushAll (forestEvents trees)).stack = [] := by
  rw [push_forest]
  exact List.eq_nil_of_length_eq_zero (height_absorb_all _ (Builder.start source options))

/-- White space between blocks, for any source and any events. The tokens are
those of the top-level trees, each one begun and ended with no container open,
with the blank gaps between them: a tree has one in front of it exactly when
`BlankGap` holds. A block is one token. White space never stands inside a token,
at the beginning, at the end, or next to other white space. -/
theorem spaces_mark_blank_gaps (source : String) (options : LexOptions)
    (events : List LocatedEvent) :
    let trees := forestOf source.utf8ByteSize events
    let tokens := tokensOfEvents source options events
    (∃ gaps : List (Option String), gaps.length = trees.length ∧
        tokens = (List.zipWith (spacedTokens source options) gaps trees).flatten ∧
        ∀ index gap, gaps[index]? = some (some gap) ↔ BlankGap source trees index gap) ∧
      (∀ tree ∈ trees,
        (∀ token ∈ tokensOfEvents source options (treeEvents tree), isSpace token = false) ∧
          ∀ span, blockSpan? tree = some span →
            ∃ token, tokensOfEvents source options (treeEvents tree) = [token]) ∧
      (forestEvents trees = balancedFrom source.utf8ByteSize 0 events ∧
        ∀ count, ((Builder.start source options).pushAll
          (forestEvents (trees.take count))).stack = []) ∧
      (∀ sequence ∈ sequencesIn tokens, ∀ token ∈ sequence.2, isSpace token = false) ∧
      (∀ first ∈ tokens.head?, isSpace first = false) ∧
      (∀ last ∈ tokens.getLast?, isSpace last = false) ∧ Apart isSpace tokens := by
  intro trees tokens
  have normal := normal_forest source options trees topContext
  have built : tokens = forestTokens source options trees :=
    tokens_of_events source options events
  have inside := spaces_inside source _ normal none
  refine ⟨⟨gapsFrom source none trees, length_gaps_from source none trees, ?_, ?_⟩, ?_, ⟨?_, ?_⟩,
    ?_, ?_, ?_, ?_⟩
  · rw [built]
    exact top_tokens_spaced source options trees none
  · intro index gap
    rw [gaps_from_eq_some_iff, BlankGap]
    simp only [Option.or_none, Option.map_eq_some_iff]
    constructor
    · rintro ⟨tree, span, stop, found, block, ⟨previous, before, rfl⟩, rest⟩
      exact ⟨tree, span, previous, found, block, before, rest⟩
    · rintro ⟨tree, span, previous, found, block, before, rest⟩
      exact ⟨tree, span, previous.stop, found, block, ⟨previous, before, rfl⟩, rest⟩
  · intro tree _
    exact ⟨no_space_in_tree source options tree, fun span block => tokens_of_block source options block⟩
  · exact forest_events_forest_of source.utf8ByteSize events
  · exact fun count => stack_between_trees source options _
  · rw [built]
    exact no_space_below_top source options trees
  · rw [built]
    exact no_leading_space source _ normal
  · rw [built]
    exact inside.2
  · rw [built]
    exact inside.1

end ChatBlocks.BlankGaps
