import ChatBlocks.Assembly
import ChatBlocks.Proofs.BlankText
import ChatBlocks.Proofs.BuilderForest
import Mathlib.Data.List.Forall2

/-!
# Lone images

The option for image blocks replaces each paragraph of the top level that holds
one image and nothing else by that image, and does nothing besides. A tree looks
at the option only when no container lies around it, so everything inside a
container is the same with it and without it; the gaps between blocks depend on
ranges alone. A paragraph with an image in it is never blank, so the blocks of
the two readings stand side by side.
-/

namespace ChatBlocks.LoneImages

open Markdown (LocatedEvent Span Tag)
open EventForest ForestTokens BuilderForest

/-- A paragraph with one image and nothing else becomes that image. -/
def promoteLoneImage : Token → Token
  | .paragraph [.image href title text raw] _ => .image href title text raw
  | token => token

def promoteContribution : Contribution → Contribution
  | .inline token => .inline (promoteLoneImage token)
  | .block token span => .block (promoteLoneImage token) span
  | contribution => contribution

theorem parent_inside_ne_top (context : Context) (tag : Tag) :
    (context.inside tag).parent ≠ .top := by
  cases tag <;> simp [Context.inside, parentKind]

theorem container_below_top (source : String) (left right : LexOptions) (context : Context)
    (below : context.parent ≠ .top) (tag : Tag) (closed : Span)
    (contributions : List Contribution) :
    containerContribution source left context tag closed contributions =
      containerContribution source right context tag closed contributions := by
  cases tag <;> simp only [containerContribution, paragraph_below_top _ below]

mutual

theorem tree_below_top (source : String) (left right : LexOptions) : ∀ (tree : EventTree)
    (context : Context), context.parent ≠ .top →
    treeContributions source left context tree = treeContributions source right context tree
  | .leaf _ _, _, _ => rfl
  | .node tag _ children closed, context, below => by
      have inner := forest_below_top source left right children (context.inside tag)
        (parent_inside_ne_top context tag)
      rw [treeContributions, treeContributions, inner,
        container_below_top source left right context below]

theorem forest_below_top (source : String) (left right : LexOptions) :
    ∀ (forest : List EventTree) (context : Context), context.parent ≠ .top →
    forestContributions source left context forest =
      forestContributions source right context forest
  | [], _, _ => rfl
  | tree :: rest, context, below => by
      rw [forestContributions, forestContributions,
        tree_below_top source left right tree context below,
        forest_below_top source left right rest context below]

end

theorem promote_paragraph_token (tokens : List Token) (raw : String) :
    paragraphToken ⟨true⟩ .top tokens raw =
      promoteLoneImage (paragraphToken ⟨false⟩ .top tokens raw) := by
  rcases tokens with _ | ⟨head, _ | ⟨next, more⟩⟩
  · rfl
  · cases head <;> rfl
  · cases head <;> rfl

theorem promote_container (source : String) (tag : Tag) (closed : Span)
    (contributions : List Contribution) :
    containerContribution source ⟨true⟩ topContext tag closed contributions =
      promoteContribution
        (containerContribution source ⟨false⟩ topContext tag closed contributions) := by
  cases tag with
  | paragraph => exact congrArg (Contribution.block · closed) (promote_paragraph_token _ _)
  | _ => rfl

theorem promote_text_tokens (source : String) (context : Context) (text : String) (span : Span) :
    (textTokens source context text span).map promoteLoneImage =
      textTokens source context text span := by
  unfold textTokens
  split
  · split
    · split <;> rfl
    · rfl
  · rfl

theorem promote_leaf (source : String) (leaf : LeafEvent) (span : Span) :
    (leafContributions source topContext leaf span).map promoteContribution =
      leafContributions source topContext leaf span := by
  cases leaf with
  | text text =>
      have inline : promoteContribution ∘ Contribution.inline =
          Contribution.inline ∘ promoteLoneImage := rfl
      have outside : topContext.parent ≠ .code := by decide
      simp only [leafContributions, if_neg outside, List.map_map, inline]
      rw [← List.map_map, promote_text_tokens]
  | _ => rfl

theorem promote_tree (source : String) (tree : EventTree) :
    treeContributions source ⟨true⟩ topContext tree =
      (treeContributions source ⟨false⟩ topContext tree).map promoteContribution := by
  cases tree with
  | leaf leaf span => exact (promote_leaf source leaf span).symm
  | node tag entered children closed =>
      have inner := forest_below_top source ⟨true⟩ ⟨false⟩ children (topContext.inside tag)
        (parent_inside_ne_top topContext tag)
      rw [treeContributions, treeContributions, inner, promote_container]
      rfl

theorem promote_forest (source : String) (forest : List EventTree) :
    forestContributions source ⟨true⟩ topContext forest =
      (forestContributions source ⟨false⟩ topContext forest).map promoteContribution := by
  induction forest with
  | nil => rfl
  | cons tree rest ih =>
      rw [forestContributions, forestContributions, promote_tree, ih, List.map_append]

theorem promote_top_tokens (source : String) (contributions : List Contribution)
    (lastBlockEnd : Option Nat) :
    topTokens source lastBlockEnd (contributions.map promoteContribution) =
      (topTokens source lastBlockEnd contributions).map promoteLoneImage := by
  induction contributions generalizing lastBlockEnd with
  | nil => rfl
  | cons contribution rest ih =>
      cases contribution with
      | inline token =>
          simp only [List.map_cons, promoteContribution, topTokens, ih]
      | block token span =>
          have gap : (gapTokens source lastBlockEnd span.start).map promoteLoneImage =
              gapTokens source lastBlockEnd span.start := by
            rcases gap_tokens_cases source lastBlockEnd span.start with none | ⟨space, one⟩
            · rw [none]
              rfl
            · rw [one]
              rfl
          simp only [List.map_cons, promoteContribution, topTokens, ih, List.map_append, gap]
      | _ => exact ih lastBlockEnd

theorem promoted_tokens (source : String) (events : List LocatedEvent) :
    tokensOfEvents source ⟨true⟩ events =
      (tokensOfEvents source ⟨false⟩ events).map promoteLoneImage := by
  rw [tokens_of_events, tokens_of_events, forestTokens, forestTokens, promote_forest,
    promote_top_tokens]

/-- Two blocks that are equal, or a section that links to an image and the
block of that image. -/
def EqualOrPromoted (options : RenderOptions) (plain promoted : Block) : Prop :=
  promoted = plain ∨
    ∃ (href alt : String) (title : Option String), plain = .markupSection (Markup.link href alt) ∧
      promoted = .image href alt
        ((title.bind Text.nonEmpty).map fun title => .plain title options.headerEmoji)

theorem link_visible (href label : String) : Text.isBlank (Markup.link href label) = false := by
  have mark : Text.isBlank Markup.linkOpen = false := by decide
  simp only [Markup.link, BlankText.is_blank_append, mark, Bool.false_and]

theorem assemble_promoted_token (options : RenderOptions) (token : Token) :
    List.Forall₂ (EqualOrPromoted options) (assembleToken options token).blocks
      (assembleToken options (promoteLoneImage token)).blocks := by
  unfold promoteLoneImage
  split
  · rename_i href title alt imageRaw raw
    have text : renderInline [.image href title alt imageRaw] = Markup.link href alt := by
      simp [renderInline, renderInlineToken]
    have linked :
        (assembleToken options (.paragraph [.image href title alt imageRaw] raw)).blocks =
          [.markupSection (Markup.link href alt)] := by
      simp only [assembleToken, text, link_visible]
      rfl
    rw [linked]
    exact .cons (Or.inr ⟨href, alt, title, rfl, rfl⟩) .nil
  · exact List.forall₂_same.mpr fun block _ => Or.inl rfl

theorem assemble_promoted (options : RenderOptions) (tokens : List Token) :
    List.Forall₂ (EqualOrPromoted options) (assemble options tokens)
      (assemble options (tokens.map promoteLoneImage)) := by
  induction tokens with
  | nil => exact .nil
  | cons token rest ih => exact List.rel_append (assemble_promoted_token options token) ih

/-- With the option the tokens are those without it, lone images of the top
level in place of their paragraphs. Block for block the messages are equal,
except that an image stands where a section linked to it. -/
theorem image_blocks_promote_lone_images (source : String) (events : List LocatedEvent) :
    tokensOfEvents source ⟨true⟩ events =
        (tokensOfEvents source ⟨false⟩ events).map promoteLoneImage ∧
      ∀ options : RenderOptions,
        List.Forall₂ (EqualOrPromoted options)
          (assemble options (tokensOfEvents source ⟨false⟩ events))
          (assemble options (tokensOfEvents source ⟨true⟩ events)) := by
  have tokens := promoted_tokens source events
  refine ⟨tokens, ?_⟩
  intro options
  rw [tokens]
  exact assemble_promoted options _

end ChatBlocks.LoneImages
