import ChatBlocks.Assembly
import ChatBlocks.Proofs.BuilderForest

/-!
# Conversion piece by piece

When a first piece of a document leaves no container open, converting the whole
gives the blocks of the first piece followed by those of the rest. The two
readings of the rest start from different places: only one knows where the last
block ended. That place decides about nothing but tokens of white space, and
those give neither a block nor a note.
-/

namespace ChatBlocks.Concatenation

open Markdown (LocatedEvent)
open EventForest ForestTokens BuilderForest

@[simp] theorem empty_append (later : Assembly) : Assembly.empty.append later = later := rfl

theorem assembly_append_assoc (first second third : Assembly) :
    (first.append second).append third = first.append (second.append third) := by
  simp only [Assembly.append, List.append_assoc]

theorem assembly_append (options : RenderOptions) (first second : List Token) :
    assembly options (first ++ second) =
      (assembly options first).append (assembly options second) := by
  induction first with
  | nil => rfl
  | cons token rest ih =>
      simp only [List.cons_append, assembly, ih, assembly_append_assoc]

theorem assembly_gap (options : RenderOptions) (source : String) (lastBlockEnd : Option Nat)
    (offset : Nat) : assembly options (gapTokens source lastBlockEnd offset) = .empty := by
  rcases gap_tokens_cases source lastBlockEnd offset with none | ⟨gap, one⟩
  · rw [none]
    rfl
  · rw [one]
    rfl

/-- The end of the last block before some contributions has no effect on what is
assembled from them: both readings agree from the first block on. -/
theorem assembly_top_tokens (options : RenderOptions) (source : String)
    (contributions : List Contribution) (left right : Option Nat) :
    assembly options (topTokens source left contributions) =
      assembly options (topTokens source right contributions) := by
  induction contributions generalizing left right with
  | nil => rfl
  | cons contribution rest ih =>
      cases contribution with
      | inline token => simp only [topTokens, assembly, ih left right]
      | block token span =>
          simp only [topTokens, assembly_append, assembly_gap]
      | item item => exact ih left right
      | head cells => exact ih left right
      | row cells => exact ih left right
      | cell cell => exact ih left right
      | codeText text => exact ih left right
      | task checked => exact ih left right

theorem assembly_top_tokens_append (options : RenderOptions) (source : String)
    (first second : List Contribution) (lastBlockEnd : Option Nat) :
    assembly options (topTokens source lastBlockEnd (first ++ second)) =
      (assembly options (topTokens source lastBlockEnd first)).append
        (assembly options (topTokens source none second)) := by
  induction first generalizing lastBlockEnd with
  | nil => exact assembly_top_tokens options source second lastBlockEnd none
  | cons contribution rest ih =>
      cases contribution with
      | inline token =>
          simp only [List.cons_append, topTokens, assembly, ih, assembly_append_assoc]
      | block token span =>
          simp only [List.cons_append, topTokens, assembly_append, assembly_gap, empty_append,
            assembly, ih, assembly_append_assoc]
      | item item => exact ih lastBlockEnd
      | head cells => exact ih lastBlockEnd
      | row cells => exact ih lastBlockEnd
      | cell cell => exact ih lastBlockEnd
      | codeText text => exact ih lastBlockEnd
      | task checked => exact ih lastBlockEnd

theorem assembly_forest_tokens_append (source : String) (lexOptions : LexOptions)
    (renderOptions : RenderOptions) (first second : List EventTree) :
    assembly renderOptions (forestTokens source lexOptions (first ++ second)) =
      (assembly renderOptions (forestTokens source lexOptions first)).append
        (assembly renderOptions (forestTokens source lexOptions second)) := by
  simp only [forestTokens, forest_contributions_append, assembly_top_tokens_append]

/-- Converting a document is converting a first piece that leaves nothing open,
and then the rest, whatever the ranges and however unbalanced the rest. -/
theorem assemble_append_of_closed (source : String) (lexOptions : LexOptions)
    (renderOptions : RenderOptions) (first second : List LocatedEvent)
    (closed : ((Builder.start source lexOptions).pushAll first).stack = []) :
    assemble renderOptions (tokensOfEvents source lexOptions (first ++ second)) =
      assemble renderOptions (tokensOfEvents source lexOptions first)
        ++ assemble renderOptions (tokensOfEvents source lexOptions second) := by
  have depth : depthAfter 0 first = 0 := by
    have height := height_push_all first (Builder.start source lexOptions)
    rw [closed] at height
    exact height.symm
  have pieces := assembly_forest_tokens_append source lexOptions renderOptions
    (forestOf source.utf8ByteSize first) (forestOf source.utf8ByteSize second)
  rw [← forest_of_append source.utf8ByteSize second depth] at pieces
  simp only [← tokens_of_events] at pieces
  exact congrArg Assembly.blocks pieces

/-- The first piece ends with a surplus `leave`; the second leaves a heading
open, and its ranges are reversed, past the end and inside the first piece. -/
theorem assemble_append_unbalanced_rest :
    let first : List LocatedEvent :=
      [⟨.enter .paragraph, ⟨0, 2⟩⟩, ⟨.text "a", ⟨0, 1⟩⟩, ⟨.leave, ⟨0, 2⟩⟩, ⟨.leave, ⟨9, 4⟩⟩]
    let second : List LocatedEvent :=
      [⟨.rule, ⟨3, 1⟩⟩, ⟨.leave, ⟨0, 0⟩⟩, ⟨.enter (.heading .two), ⟨70, 80⟩⟩,
        ⟨.text "b", ⟨1, 2⟩⟩]
    ((Builder.start "a\n\nb" {}).pushAll first).stack = [] ∧
      assemble {} (tokensOfEvents "a\n\nb" {} (first ++ second)) =
        assemble {} (tokensOfEvents "a\n\nb" {} first)
          ++ assemble {} (tokensOfEvents "a\n\nb" {} second) :=
  ⟨rfl, assemble_append_of_closed _ _ _ _ _ rfl⟩

end ChatBlocks.Concatenation
