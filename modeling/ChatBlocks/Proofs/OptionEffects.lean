import ChatBlocks.Proofs.AssemblyNotes
import Mathlib.Data.List.Forall2

/-!
# What the rendering options decide

The options never decide whether a token gives a block or which kind of block it
gives. The emoji flag goes into headers and image titles as it is. The bullet
goes into lists, those of the top level and those directly inside a quote of the
top level; it reaches the items of nested lists and nothing else.
-/

namespace ChatBlocks.OptionEffects

inductive BlockKind where
  | header | section | image | divider | table
  deriving DecidableEq, Repr

def blockKind : Block → BlockKind
  | .header _ => .header
  | .section _ => .section
  | .image .. => .image
  | .divider => .divider
  | .table _ => .table

/-- A block without the emoji flag of its header text or of its image title. -/
def withoutEmoji : Block → Block
  | .header text => .header { text with emoji := none }
  | .image imageUrl altText title =>
      .image imageUrl altText (title.map fun text => { text with emoji := none })
  | .section text => .section text
  | .divider => .divider
  | .table rows => .table rows

def carriesBullet : Token → Bool
  | .list .. | .blockquote .. => true
  | .text .. | .link .. | .image .. | .strong .. | .em .. | .del .. | .codespan .. | .br ..
  | .heading .. | .paragraph .. | .code .. | .hr .. | .table .. | .space .. | .html ..
  | .other .. => false

/-- The blocks of a token sequence, each with the token that it comes from. -/
def blocksWithOrigin (options : RenderOptions) (tokens : List Token) : List (Token × Block) :=
  tokens.flatMap fun token => (assembleToken options token).blocks.map (token, ·)

theorem blocks_of_origins (options : RenderOptions) (tokens : List Token) :
    (blocksWithOrigin options tokens).map Prod.snd = assemble options tokens := by
  have own : ∀ token : Token, ((assembleToken options token).blocks.map (token, ·)).map Prod.snd =
      (assembleToken options token).blocks := by
    intro token
    rw [List.map_map]
    exact List.map_id _
  have parts := AssemblyNotes.assembly_parts options tokens
  rw [blocksWithOrigin, List.map_flatMap, funext own]
  exact (congrArg Assembly.blocks parts).symm

variable {left right : RenderOptions}

mutual

/-- The induction follows the items and the last list behind each of them. -/
theorem items_of_bullet (same : left.bullet = right.bullet) (ordered : Bool) (start : UInt64) :
    ∀ (items : List ListItem) (depth position : Nat),
      renderItems left depth ordered start position items =
        renderItems right depth ordered start position items
  | [], _, _ => rfl
  | ⟨_, tokens, _⟩ :: rest, depth, position => by
      have marker : itemMarker left ordered start position =
          itemMarker right ordered start position := by
        simp only [itemMarker, same]
      rw [renderItems, renderItems, marker, last_list_of_bullet same tokens (depth + 1),
        items_of_bullet same ordered start rest depth (position + 1)]

theorem last_list_of_bullet (same : left.bullet = right.bullet) :
    ∀ (tokens : List Token) (depth : Nat),
      renderLastList left depth tokens = renderLastList right depth tokens
  | [], _ => rfl
  | token :: rest, depth => by
      rw [renderLastList, renderLastList, last_list_of_bullet same rest depth,
        if_list_of_bullet same token depth]

theorem if_list_of_bullet (same : left.bullet = right.bullet) :
    ∀ (token : Token) (depth : Nat), renderIfList left depth token = renderIfList right depth token
  | .list ordered start items _, depth =>
      congrArg (some ∘ Text.joinLines) (items_of_bullet same ordered start items depth 0)
  | .text .., _ | .link .., _ | .image .., _ | .strong .., _ | .em .., _ | .del .., _
  | .codespan .., _ | .br .., _ | .heading .., _ | .paragraph .., _ | .blockquote .., _
  | .code .., _ | .hr .., _ | .table .., _ | .space .., _ | .html .., _ | .other .., _ => rfl

end

theorem list_of_bullet (same : left.bullet = right.bullet) (depth : Nat) (list : ListBlock) :
    renderList left depth list = renderList right depth list :=
  congrArg Text.joinLines (items_of_bullet same list.ordered list.start list.items depth 0)

theorem quote_of_bullet (same : left.bullet = right.bullet) (tokens : List Token) :
    quoteText left tokens = quoteText right tokens := by
  have child : quotedText left = quotedText right := by
    funext token
    cases token with
    | list ordered start items raw => exact list_of_bullet same 0 ⟨ordered, start, items, raw⟩
    | _ => rfl
  rw [quoteText, quoteText, child]

/-- How two blocks that come from one token compare. -/
structure SaidAlike (left right : RenderOptions) (token : Token) (block other : Block) : Prop where
  kind : blockKind block = blockKind other
  fixed : carriesBullet token = false → withoutEmoji block = withoutEmoji other
  bullet : left.bullet = right.bullet → withoutEmoji block = withoutEmoji other

theorem kind_without_emoji (block : Block) : blockKind (withoutEmoji block) = blockKind block := by
  cases block <;> rfl

theorem SaidAlike.of_equal {token : Token} {block other : Block}
    (equal : withoutEmoji block = withoutEmoji other) : SaidAlike left right token block other where
  kind := by rw [← kind_without_emoji block, equal, kind_without_emoji]
  fixed _ := equal
  bullet _ := equal

theorem SaidAlike.of_bullet {token : Token} {text other : String}
    (carries : carriesBullet token = true) (equal : left.bullet = right.bullet → text = other) :
    SaidAlike left right token (.markupSection text) (.markupSection other) where
  kind := rfl
  fixed plain := by simp [carries] at plain
  bullet same := by rw [equal same]

theorem token_said_alike (left right : RenderOptions) (token : Token) :
    List.Forall₂ (SaidAlike left right token) (assembleToken left token).blocks
      (assembleToken right token).blocks := by
  cases token with
  | heading _ _ _ | paragraph _ _ =>
      simp only [assembleToken]
      split
      · exact .nil
      · exact .cons (.of_equal rfl) .nil
  | list ordered start items raw =>
      have equal (same : left.bullet = right.bullet) :=
        list_of_bullet same 0 ⟨ordered, start, items, raw⟩
      exact .cons (.of_bullet rfl equal) .nil
  | blockquote tokens raw =>
      exact .cons (.of_bullet rfl fun same => quote_of_bullet same tokens) .nil
  | image href title text raw =>
      refine .cons (.of_equal ?_) .nil
      cases title.bind Text.nonEmpty <;> rfl
  | code _ _ _ | hr _ | table _ _ _ => exact .cons (.of_equal rfl) .nil
  | _ => exact .nil

theorem origins_said_alike (left right : RenderOptions) (tokens : List Token) :
    List.Forall₂ (fun own other => own.1 = other.1 ∧ SaidAlike left right own.1 own.2 other.2)
      (blocksWithOrigin left tokens) (blocksWithOrigin right tokens) := by
  induction tokens with
  | nil => exact .nil
  | cons token rest ih =>
      apply List.rel_append _ ih
      rw [List.forall₂_map_left_iff, List.forall₂_map_right_iff]
      apply List.Forall₂.imp _ (token_said_alike left right token)
      intro block other alike
      exact ⟨rfl, alike⟩

theorem views_agree (left right : RenderOptions) {Seen : Type} {view : Block → Seen}
    (agree : ∀ {token block other}, SaidAlike left right token block other →
      view block = view other) (tokens : List Token) :
    (assemble left tokens).map view = (assemble right tokens).map view := by
  rw [← blocks_of_origins, ← blocks_of_origins, List.map_map, List.map_map,
    ← List.forall₂_eq_eq_eq, List.forall₂_map_left_iff, List.forall₂_map_right_iff]
  apply List.Forall₂.imp _ (origins_said_alike left right tokens)
  intro own other alike
  exact agree alike.2

/-- Two options give as many blocks, of the same kinds in the same order and from
the same tokens. Without the emoji flags a block is the same under both unless
it comes from a list or a quote, and with one bullet every block is. -/
theorem options_change_form_alone (left right : RenderOptions) (tokens : List Token) :
    (assemble left tokens).length = (assemble right tokens).length ∧
      (assemble left tokens).map blockKind = (assemble right tokens).map blockKind ∧
      ((blocksWithOrigin left tokens).map Prod.snd = assemble left tokens ∧
        (blocksWithOrigin right tokens).map Prod.snd = assemble right tokens ∧
        List.Forall₂
          (fun own other => own.1 = other.1 ∧
            (carriesBullet own.1 = false → withoutEmoji own.2 = withoutEmoji other.2))
          (blocksWithOrigin left tokens) (blocksWithOrigin right tokens)) ∧
      (left.bullet = right.bullet →
        (assemble left tokens).map withoutEmoji = (assemble right tokens).map withoutEmoji) := by
  have kinds := views_agree left right (fun alike => alike.kind) tokens
  refine ⟨?_, kinds, ⟨blocks_of_origins left tokens, blocks_of_origins right tokens, ?_⟩, ?_⟩
  · simpa using congrArg List.length kinds
  · apply List.Forall₂.imp _ (origins_said_alike left right tokens)
    intro own other alike
    exact ⟨alike.1, alike.2.fixed⟩
  · intro same
    exact views_agree left right (fun alike => alike.bullet same) tokens

/-- A header, an image title, and a list inside a quote under another emoji flag. -/
theorem emoji_flag_alone_differs :
    let tokens : List Token :=
      [.heading 1 [.text "a" none "a"] "# a", .space "\n",
        .blockquote [.list false 1 [⟨none, [.text "b" none "b"], "- b"⟩] "- b"] "> - b",
        .image "u" (some "t") "c" "![c](u \"t\")"]
    let left : RenderOptions := ⟨"- ", true⟩
    let right : RenderOptions := ⟨"- ", false⟩
    left.bullet = right.bullet ∧
      assemble left tokens = [.header (.plain "a" true), .markupSection "> - b",
        .image "u" "c" (some (.plain "t" true))] ∧
      assemble right tokens = [.header (.plain "a" false), .markupSection "> - b",
        .image "u" "c" (some (.plain "t" false))] ∧
      (assemble left tokens).map withoutEmoji = (assemble right tokens).map withoutEmoji := by
  intro tokens left right
  have same : left.bullet = right.bullet := rfl
  exact ⟨same, by decide, by decide, (options_change_form_alone left right tokens).2.2.2 same⟩

end ChatBlocks.OptionEffects
