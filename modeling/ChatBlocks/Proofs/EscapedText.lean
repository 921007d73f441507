import ChatBlocks.Proofs.TextPieces
import ChatBlocks.Render.Inline
import Mathlib.Data.List.Chain

/-!
# Escapes come out as written

A reader takes the backslash of an escape away and hands over the character
behind it, cutting the text there. In a paragraph made of such pieces every
backslash comes back: its markup and its literal text are the source it was
made from, for runs of backslashes of any length and behind any number of quote
markers. The builder's test for an escape decides about each piece alone.
-/

namespace ChatBlocks.EscapedText

open Markdown (Event LocatedEvent Span)
open Text Slices EventForest ForestTokens BuilderForest WordOffsets TextPieces

/-- A piece of a line, not empty, with its place in the source. -/
structure TextPiece (source : String) where
  text : String
  span : Span
  slice : IsSlice source span text
  visible : text ≠ ""
  single : '\n' ∉ text.toList

def TextPiece.event {source : String} (piece : TextPiece source) : LocatedEvent :=
  ⟨.text piece.text, piece.span⟩

/-- Where a piece begins in the source: at its backslash when it is escaped. -/
def writtenFrom (builder : Builder) (span : Span) : Nat :=
  if (builder.escapedAt? span.start).isSome then span.start - 1 else span.start

/-- A piece stands right behind another one; if it is escaped, with one
character in between, which is its backslash. -/
def Follows (builder : Builder) (earlier later : Span) : Prop :=
  later.start =
    if (builder.escapedAt? later.start).isSome then earlier.stop + 1 else earlier.stop

instance (builder : Builder) (earlier later : Span) : Decidable (Follows builder earlier later) :=
  inferInstanceAs (Decidable (_ = _))

theorem written_from_of_follows {builder : Builder} {earlier later : Span}
    (follows : Follows builder earlier later) : writtenFrom builder later = earlier.stop := by
  unfold Follows at follows
  unfold writtenFrom
  split <;> simp_all

/-- A way to write tokens out one by one, text as itself and a token without a
kind as its source. -/
structure Writes (write : List Token → String) : Prop where
  empty : write [] = ""
  append : ∀ first second, write (first ++ second) = write first ++ write second
  leaf : ∀ text raw, write [.text text none raw] = text
  other : ∀ raw, write [.other raw] = raw

theorem markup_writes : Writes renderInline where
  empty := rfl
  append first second := by
    induction first with
    | nil => simp [renderInline]
    | cons token rest ih => simp [renderInline, ih, String.append_assoc]
  leaf text raw := by simp [renderInline, renderInlineToken]
  other raw := by simp [renderInline, renderInlineToken]

theorem literal_text_writes : Writes plainText where
  empty := rfl
  append first second := by
    induction first with
    | nil => simp [plainText]
    | cons token rest ih => simp [plainText, ih, String.append_assoc]
  leaf text raw := by simp [plainText, plainTextOfToken]
  other raw := by simp [plainText, plainTextOfToken]

theorem write_append_inline {write : List Token → String} (writes : Writes write)
    (tokens : List Token) (token : Token) :
    write (appendInline tokens token) = write tokens ++ write [token] := by
  rcases append_inline_cases tokens token with
    ⟨front, text, raw, nextText, nextRaw, rfl, rfl, joined⟩ | ⟨added, -⟩
  · rw [joined, writes.append, writes.append, writes.leaf, writes.leaf, writes.leaf,
      String.append_assoc]
  · rw [added, writes.append]

theorem write_placed {write : List Token → String} (writes : Writes write) (tokens : List Token) :
    write (placedTokens .inline (tokens.map .inline)) = write tokens := by
  have general : ∀ base : List Token,
      write ((tokens.map .inline).foldl (placeToken .inline) base) = write base ++ write tokens := by
    induction tokens with
    | nil => intro base; simp [writes.empty]
    | cons token rest ih =>
        intro base
        have split : write (token :: rest) = write [token] ++ write rest := writes.append [token] rest
        rw [List.map_cons, List.foldl_cons, ih, split, ← String.append_assoc,
          ← write_append_inline writes]
        rfl
  rw [placedTokens, general, writes.empty, String.empty_append]

def pieceTokens (builder : Builder) (pieces : List (TextPiece builder.source)) : List Token :=
  pieces.flatMap fun piece =>
    textTokens builder.source (stackContext builder.stack) piece.text piece.span

theorem backslash_before_escape {builder : Builder} {offset : Nat} {escaped : Char}
    (escape : builder.escapedAt? offset = some escaped) :
    IsSlice builder.source ⟨offset - 1, offset⟩ "\\" := by
  obtain ⟨before, after, split, length, -⟩ := escape_split escape
  refine ⟨before, String.singleton escaped ++ after, ?_, Nat.eq_sub_of_add_eq length, ?_⟩
  · simp only [split, String.append_assoc]
  · rw [String.utf8ByteSize_append]
    exact length

theorem written_piece {write : List Token → String} (writes : Writes write) (builder : Builder)
    (piece : TextPiece builder.source) :
    IsSlice builder.source ⟨writtenFrom builder piece.span, piece.span.stop⟩
      (write (textTokens builder.source (stackContext builder.stack) piece.text piece.span)) := by
  obtain ⟨text, span, slice, visible, single⟩ := piece
  simp only
  cases escape : builder.escapedAt? span.start with
  | none =>
      rw [text_tokens_of_unescaped slice single escape, lineLeaf, writes.leaf]
      simpa [writtenFrom, escape] using slice
  | some escaped =>
      obtain ⟨rest, rfl⟩ := escaped_text_split slice visible escape
      have restSingle : '\n' ∉ rest.toList := fun newline => single (by simp [newline])
      have written : write (.other (String.ofList ['\\', escaped]) ::
          if rest.isEmpty then [] else [lineLeaf rest]) =
            "\\" ++ (String.singleton escaped ++ rest) := by
        rw [← List.singleton_append, writes.append, writes.other, escape_text]
        split
        · rename_i empty
          simp [writes.empty, String.isEmpty_iff.mp empty]
        · rw [lineLeaf, writes.leaf, String.append_assoc]
      rw [text_tokens_of_escaped slice restSingle escape, written]
      simpa [writtenFrom, escape] using slice_append (backslash_before_escape escape) slice

theorem written_pieces {write : List Token → String} (writes : Writes write) (builder : Builder)
    (rest : List (TextPiece builder.source)) : ∀ first : TextPiece builder.source,
    ((first :: rest).map TextPiece.span).IsChain (Follows builder) →
    ∀ last ∈ ((first :: rest).map TextPiece.span).getLast?,
      IsSlice builder.source ⟨writtenFrom builder first.span, last.stop⟩
        (write (pieceTokens builder (first :: rest))) := by
  induction rest with
  | nil =>
      intro first _ last found
      obtain rfl : first.span = last := Option.some.inj found
      simpa [pieceTokens] using written_piece writes builder first
  | cons next more ih =>
      intro first chain last found
      obtain ⟨follows, later⟩ := List.isChain_cons_cons.mp chain
      rw [List.map_cons, List.map_cons, List.getLast?_cons_cons] at found
      have behind := ih next later last found
      rw [written_from_of_follows follows] at behind
      rw [pieceTokens, List.flatMap_cons, writes.append]
      exact slice_append (written_piece writes builder first) behind

def isImage : Token → Bool
  | .image .. => true
  | _ => false

theorem no_image_in_text_tokens (source : String) (context : Context) (text : String) (span : Span) :
    ∀ token ∈ textTokens source context text span, isImage token = false := by
  unfold textTokens
  split
  · split
    · split <;> simp [isImage]
    · simp [isImage]
  · simp [isImage]

theorem no_image_placed {tokens : List Token} (plain : ∀ token ∈ tokens, isImage token = false) :
    ∀ token ∈ placedTokens .inline (tokens.map .inline), isImage token = false := by
  have general : ∀ base : List Token, (∀ token ∈ base, isImage token = false) →
      ∀ token ∈ (tokens.map .inline).foldl (placeToken .inline) base, isImage token = false := by
    induction tokens with
    | nil => exact fun base none => none
    | cons token rest ih =>
        obtain ⟨own, later⟩ := List.forall_mem_cons.mp plain
        intro base none
        refine ih later (appendInline base token) ?_
        rcases append_inline_cases base token with
          ⟨front, text, raw, nextText, nextRaw, rfl, rfl, joined⟩ | ⟨added, -⟩
        · rw [joined]
          rw [List.forall_mem_append] at none ⊢
          exact ⟨none.1, by simp [isImage]⟩
        · rw [added, List.forall_mem_append]
          exact ⟨none, by simpa using own⟩
  exact general [] (by simp)

theorem paragraph_without_image (options : LexOptions) (parent : ParentKind) {tokens : List Token}
    (plain : ∀ token ∈ tokens, isImage token = false) (raw : String) :
    paragraphToken options parent tokens raw = .paragraph tokens raw := by
  unfold paragraphToken
  split
  · cases plain _ (List.mem_singleton_self _)
  · rfl

def pieceLeaf {source : String} (piece : TextPiece source) : EventTree :=
  .leaf (.text piece.text) piece.span

theorem forest_events_pieces {source : String} (pieces : List (TextPiece source)) :
    forestEvents (pieces.map pieceLeaf) = pieces.map TextPiece.event := by
  induction pieces with
  | nil => rfl
  | cons piece rest ih =>
      rw [List.map_cons, forestEvents, ih]
      rfl

theorem forest_contributions_pieces (builder : Builder) (options : LexOptions)
    (noCode : (stackContext builder.stack).parent ≠ .code)
    (pieces : List (TextPiece builder.source)) :
    forestContributions builder.source options (stackContext builder.stack)
        (pieces.map pieceLeaf) = (pieceTokens builder pieces).map .inline := by
  induction pieces with
  | nil => rfl
  | cons piece rest ih =>
      have own : treeContributions builder.source options (stackContext builder.stack)
          (pieceLeaf piece) = (textTokens builder.source (stackContext builder.stack) piece.text
            piece.span).map .inline := by
        simp only [pieceLeaf, treeContributions, leafContributions, if_neg noCode]
      rw [List.map_cons, forestContributions, own, ih, ← List.map_append]
      rfl

theorem push_paragraph_of_pieces (builder : Builder) (pieces : List (TextPiece builder.source))
    (entered closed : Span) :
    builder.pushAll (⟨.enter .paragraph, entered⟩ ::
        (pieces.map TextPiece.event ++ [⟨.leave, closed⟩])) =
      builder.pushBlock
        (.paragraph
          (placedTokens .inline ((pieceTokens (builder.enter .paragraph) pieces).map .inline))
          (builder.raw closed)) closed := by
  have context := stack_context_enter .paragraph [] builder.stack
  have contributions : forestContributions builder.source builder.options
      ((stackContext builder.stack).inside .paragraph) (pieces.map pieceLeaf) =
        (pieceTokens (builder.enter .paragraph) pieces).map .inline := by
    rw [← context]
    exact forest_contributions_pieces (builder.enter .paragraph) builder.options
      (by simp [Builder.enter, stackContext, FrameKind.ofTag, frameParent]) pieces
  have images : ∀ token ∈ placedTokens .inline
      ((pieceTokens (builder.enter .paragraph) pieces).map .inline), isImage token = false := by
    refine no_image_placed ?_
    intro token member
    obtain ⟨piece, -, own⟩ := List.mem_flatMap.mp member
    exact no_image_in_text_tokens _ _ _ _ token own
  have tree := push_tree (.node .paragraph entered (pieces.map pieceLeaf) closed) builder
  rw [treeEvents, forest_events_pieces] at tree
  rw [tree, push_block_eq_absorb, ← paragraph_without_image builder.options
    (stackContext builder.stack).parent images]
  simp only [treeContributions, containerContribution, contributions]
  rfl

/-- A paragraph of pieces that follow each other: its markup and its literal text
are the source from the first piece, or from its backslash when it is escaped,
to the end of the last. Any containers may be open around it. -/
theorem escapes_come_out_as_written (builder : Builder) (pieces : List (TextPiece builder.source))
    (following : (pieces.map TextPiece.span).IsChain (Follows builder))
    (first last : Span) (starts : (pieces.map TextPiece.span).head? = some first)
    (ends : (pieces.map TextPiece.span).getLast? = some last) (entered closed : Span) :
    ∃ tokens,
      builder.pushAll (⟨.enter .paragraph, entered⟩ ::
          (pieces.map TextPiece.event ++ [⟨.leave, closed⟩])) =
        builder.pushBlock (.paragraph tokens (builder.raw closed)) closed ∧
      IsSlice builder.source ⟨writtenFrom builder first, last.stop⟩ (renderInline tokens) ∧
      IsSlice builder.source ⟨writtenFrom builder first, last.stop⟩ (plainText tokens) := by
  have written : ∀ write, Writes write →
      IsSlice builder.source ⟨writtenFrom builder first, last.stop⟩
        (write (placedTokens .inline
          ((pieceTokens (builder.enter .paragraph) pieces).map .inline))) := by
    intro write writes
    rw [write_placed writes]
    cases pieces with
    | nil => cases starts
    | cons piece rest =>
        obtain rfl : piece.span = first := Option.some.inj starts
        exact written_pieces writes (builder.enter .paragraph) rest piece following last ends
  exact ⟨_, push_paragraph_of_pieces builder pieces entered closed,
    written _ markup_writes, written _ literal_text_writes⟩

/-- Three backslashes in a row inside a quote, of which the second and a star
are escaped, then an escaped stop and a letter that is a piece of its own. -/
theorem backslashes_in_quote_come_out :
    let source := "> \\\\\\*a\\.b"
    let builder : Builder := ⟨source, {}, [⟨.blockquote, []⟩], [], none⟩
    let pieces : List (TextPiece source) :=
      [⟨"\\", ⟨3, 4⟩, (slice_eq_some_iff _ _ _ _).mp (by decide), by decide, by decide⟩,
        ⟨"*a", ⟨5, 7⟩, (slice_eq_some_iff _ _ _ _).mp (by decide), by decide, by decide⟩,
        ⟨".", ⟨8, 9⟩, (slice_eq_some_iff _ _ _ _).mp (by decide), by decide, by decide⟩,
        ⟨"b", ⟨9, 10⟩, (slice_eq_some_iff _ _ _ _).mp (by decide), by decide, by decide⟩]
    (pieces.map TextPiece.span).IsChain (Follows builder) ∧
      ∃ tokens,
        builder.pushAll (⟨.enter .paragraph, ⟨2, 10⟩⟩ ::
            (pieces.map TextPiece.event ++ [⟨.leave, ⟨2, 10⟩⟩])) =
          builder.pushBlock (.paragraph tokens (builder.raw ⟨2, 10⟩)) ⟨2, 10⟩ ∧
        IsSlice source ⟨2, 10⟩ (renderInline tokens) ∧
        IsSlice source ⟨2, 10⟩ (plainText tokens) := by
  intro source builder pieces
  have following : (pieces.map TextPiece.span).IsChain (Follows builder) := by decide
  have start : writtenFrom builder ⟨3, 4⟩ = 2 := by decide
  have written := escapes_come_out_as_written builder pieces following ⟨3, 4⟩ ⟨9, 10⟩ rfl rfl
    ⟨2, 10⟩ ⟨2, 10⟩
  rw [start] at written
  exact ⟨following, written⟩

end ChatBlocks.EscapedText
