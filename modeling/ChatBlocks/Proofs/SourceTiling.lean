import ChatBlocks.Proofs.BlankGaps

/-!
# Blocks tile the source

A block of the top level keeps the source of its range exactly, whatever lies
inside it, and a token of white space keeps the source between two blocks. So
when the blocks follow each other with nothing but white space between them,
their sources put together are the source from the first to the last.
-/

namespace ChatBlocks.SourceTiling

open Markdown (LocatedEvent Span Tag)
open EventForest ForestTokens BuilderForest NormalForm Slices BlankGaps

/-- At the top level no quote is open, so the source of a block is its range. -/
theorem raw_of_block (source : String) {options : LexOptions} (plain : options.imageBlocks = false)
    {tree : EventTree} {span : Span} {text : String} (block : blockSpan? tree = some span)
    (slice : IsSlice source span text) :
    ∃ token, treeContributions source options topContext tree = [.block token span] ∧
      token.raw = text := by
  have found : rawText source 0 span = text := by
    have valid := (slice_eq_some_iff source span.start span.stop text).mpr slice
    rw [rawText, valid]
    rfl
  have paragraph : ∀ tokens raw,
      paragraphToken options topContext.parent tokens raw = .paragraph tokens raw := by
    intro tokens raw
    unfold paragraphToken
    split
    · simp [plain]
    · rfl
  rw [← found]
  cases tree with
  | leaf leaf own =>
      cases leaf <;> cases block
      exact ⟨_, rfl, rfl⟩
  | node tag entered children closed =>
      cases tag <;> cases block
      case node.paragraph.refl =>
        refine ⟨_, rfl, ?_⟩
        rw [paragraph]
        rfl
      all_goals exact ⟨_, rfl, rfl⟩

theorem concat_gap {source gap : String} {stop offset : Nat}
    (slice : IsSlice source ⟨stop, offset⟩ gap) (blank : Text.isBlank gap = true) :
    Text.concat ((gapTokens source (some stop) offset).map Token.raw) = gap := by
  have found := (slice_eq_some_iff source stop offset gap).mpr slice
  by_cases empty : gap = ""
  · simp [gapTokens, found, empty, Text.concat]
  · simp [gapTokens, found, empty, blank, Token.raw]

def BlankBetween (source : String) (earlier later : Span) : Prop :=
  ∃ gap, IsSlice source ⟨earlier.stop, later.start⟩ gap ∧ Text.isBlank gap = true

theorem tiles_from_block (source : String) {options : LexOptions}
    (plain : options.imageBlocks = false) (rest : List EventTree) :
    ∀ (tree : EventTree) (span : Span) (lastBlockEnd : Option Nat), blockSpan? tree = some span →
      (∀ other ∈ rest, (blockSpan? other).isSome = true) →
      (∀ range ∈ span :: blockSpans rest, ∃ text, IsSlice source range text) →
      (span :: blockSpans rest).IsChain (BlankBetween source) →
      ∃ tokens,
        topTokens source lastBlockEnd
            (forestContributions source options topContext (tree :: rest)) =
          gapTokens source lastBlockEnd span.start ++ tokens ∧
        ∀ last ∈ (span :: blockSpans rest).getLast?,
          IsSlice source ⟨span.start, last.stop⟩ (Text.concat (tokens.map Token.raw)) := by
  induction rest with
  | nil =>
      intro tree span lastBlockEnd block _ valid _
      obtain ⟨text, slice⟩ := valid span List.mem_cons_self
      obtain ⟨token, own, raw⟩ := raw_of_block source plain block slice
      refine ⟨[token], ?_, ?_⟩
      · simp [forestContributions, own, topTokens]
      · intro last found
        obtain rfl : span = last := Option.some.inj found
        simpa [raw, Text.concat] using slice
  | cons next rest ih =>
      intro tree span lastBlockEnd block blocks valid ordered
      obtain ⟨nextBlock, laterBlocks⟩ := List.forall_mem_cons.mp blocks
      obtain ⟨nextSpan, nextFound⟩ := Option.isSome_iff_exists.mp nextBlock
      rw [block_spans_cons_block nextFound] at valid ordered ⊢
      obtain ⟨⟨text, slice⟩, laterValid⟩ := List.forall_mem_cons.mp valid
      obtain ⟨⟨gap, between, blank⟩, laterOrdered⟩ := List.isChain_cons_cons.mp ordered
      obtain ⟨token, own, raw⟩ := raw_of_block source plain block slice
      obtain ⟨later, built, tiled⟩ :=
        ih next nextSpan (some span.stop) nextFound laterBlocks laterValid laterOrdered
      refine ⟨token :: (gapTokens source (some span.stop) nextSpan.start ++ later), ?_, ?_⟩
      · rw [forestContributions, own, List.singleton_append, topTokens, built]
      · intro last found
        rw [List.getLast?_cons_cons] at found
        -- Block, gap and the rest meet at the end of this range and the start of the next.
        have behind := slice_append slice (slice_append between (tiled last found))
        rw [List.map_cons, List.map_append, Text.concat, concat_append, raw, concat_gap between blank]
        exact behind

/-- Trees that are blocks with valid ranges, one behind the other with nothing
but white space between them. -/
structure Consecutive (source : String) (trees : List EventTree) : Prop where
  blocks : ∀ tree ∈ trees, (blockSpan? tree).isSome = true
  valid : ∀ span ∈ blockSpans trees, ∃ text, IsSlice source span text
  ordered : (blockSpans trees).IsChain (BlankBetween source)

/-- When the top level of a document is consecutive blocks, the sources of its
tokens put together are the source from the start of the first block to the end
of the last. -/
theorem raws_tile_source (source : String) (options : LexOptions)
    (plain : options.imageBlocks = false) (events : List LocatedEvent)
    (consecutive : Consecutive source (forestOf source.utf8ByteSize events)) (first last : Span)
    (starts : (blockSpans (forestOf source.utf8ByteSize events)).head? = some first)
    (ends : (blockSpans (forestOf source.utf8ByteSize events)).getLast? = some last) :
    IsSlice source ⟨first.start, last.stop⟩
      (Text.concat ((tokensOfEvents source options events).map Token.raw)) := by
  rw [tokens_of_events, forestTokens]
  generalize forestOf source.utf8ByteSize events = trees at consecutive starts ends ⊢
  obtain ⟨blocks, valid, ordered⟩ := consecutive
  cases trees with
  | nil => cases starts
  | cons tree rest =>
      obtain ⟨own, later⟩ := List.forall_mem_cons.mp blocks
      obtain ⟨span, block⟩ := Option.isSome_iff_exists.mp own
      rw [block_spans_cons_block block] at valid ordered starts ends
      obtain rfl : span = first := Option.some.inj starts
      obtain ⟨tokens, built, tiled⟩ :=
        tiles_from_block source plain rest tree span none block later valid ordered
      rw [built]
      exact tiled last ends

/-- A quote with two lines and a blank line behind it, then a rule and a heading
that touch. -/
theorem quote_rule_heading_tile :
    let source := "> a\n> b\n \n---\n# c"
    let events : List LocatedEvent :=
      [⟨.enter .blockquote, ⟨0, 8⟩⟩, ⟨.enter .paragraph, ⟨2, 7⟩⟩, ⟨.text "a", ⟨2, 3⟩⟩,
        ⟨.softBreak, ⟨3, 4⟩⟩, ⟨.text "b", ⟨6, 7⟩⟩, ⟨.leave, ⟨2, 7⟩⟩, ⟨.leave, ⟨0, 8⟩⟩,
        ⟨.rule, ⟨10, 14⟩⟩, ⟨.enter (.heading .one), ⟨14, 17⟩⟩, ⟨.text "c", ⟨16, 17⟩⟩,
        ⟨.leave, ⟨14, 17⟩⟩]
    Consecutive source (forestOf source.utf8ByteSize events) ∧
      IsSlice source ⟨0, 17⟩
        (Text.concat ((tokensOfEvents source {} events).map Token.raw)) := by
  intro source events
  have slice : ∀ (span : Span) (text : String),
      Text.slice? source span.start span.stop = some text → IsSlice source span text :=
    fun span text => (slice_eq_some_iff source span.start span.stop text).mp
  have spans : blockSpans (forestOf source.utf8ByteSize events) = [⟨0, 8⟩, ⟨10, 14⟩, ⟨14, 17⟩] := by
    decide
  have consecutive : Consecutive source (forestOf source.utf8ByteSize events) := by
    refine ⟨by decide, ?_, ?_⟩
    · rw [spans]
      simp only [List.forall_mem_cons, List.not_mem_nil, false_imp_iff, implies_true, and_true]
      exact ⟨⟨"> a\n> b\n", slice _ _ (by decide)⟩, ⟨"---\n", slice _ _ (by decide)⟩,
        ⟨"# c", slice _ _ (by decide)⟩⟩
    · rw [spans]
      refine .cons_cons ⟨" \n", slice _ _ (by decide), by decide⟩ (.cons_cons ?_ (.singleton _))
      exact ⟨"", slice _ _ (by decide), by decide⟩
  exact ⟨consecutive, raws_tile_source source {} rfl events consecutive ⟨0, 8⟩ ⟨14, 17⟩
    (by rw [spans]; rfl) (by rw [spans]; rfl)⟩

end ChatBlocks.SourceTiling
