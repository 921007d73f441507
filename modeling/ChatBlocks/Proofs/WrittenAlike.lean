import ChatBlocks.Proofs.Concatenation
import ChatBlocks.Proofs.EscapedText
import Mathlib.Data.List.Forall2

/-!
# Tokens that are written alike

Two tokens of one kind are written alike when every form that a message or a
line of a list gives to them is the same text. The builder keeps this relation:
containers of the same tag filled with contributions that are alike, one by one,
become contributions that are alike. Literal text is left out of the relation,
so it holds for every container but those that keep nothing else.
-/

namespace ChatBlocks.WrittenAlike

open Markdown (Span Tag)
open ForestTokens BuilderForest EscapedText Concatenation

/-- No form of a message or of a list tells the two tokens apart. -/
structure TokenAlike (token other : Token) : Prop where
  kind : token.kind = other.kind
  /-- The builder looks at text when it joins leaves, and at an image that may
  stand alone, so these are the same. -/
  fixed : token.kind = .text ∨ token.kind = .image → token = other
  markup : renderInlineToken token = renderInlineToken other
  part : itemPart token = itemPart other
  list : ∀ options depth, renderIfList options depth token = renderIfList options depth other
  quoted : ∀ options, quotedText options token = quotedText options other
  blocks : ∀ options, (assembleToken options token).blocks = (assembleToken options other).blocks

theorem TokenAlike.refl (token : Token) : TokenAlike token token :=
  ⟨rfl, fun _ => rfl, rfl, rfl, fun _ _ => rfl, fun _ => rfl, fun _ => rfl⟩

variable {tokens others : List Token}

theorem tokens_alike_refl (tokens : List Token) : List.Forall₂ TokenAlike tokens tokens :=
  List.forall₂_same.mpr fun token _ => .refl token

theorem render_inline_eq_concat (tokens : List Token) :
    renderInline tokens = Text.concat (tokens.map renderInlineToken) := by
  induction tokens with
  | nil => rfl
  | cons token rest ih => rw [renderInline, List.map_cons, Text.concat, ih]

/-- A form that is the same of tokens that are alike is so of sequences of them. -/
theorem map_alike {form : Token → String}
    (same : ∀ {token other : Token}, TokenAlike token other → form token = form other)
    (alike : List.Forall₂ TokenAlike tokens others) : tokens.map form = others.map form := by
  have forms : List.Forall₂ Eq (tokens.map form) (others.map form) :=
    List.rel_map (fun _ _ own => same own) alike
  rwa [List.forall₂_eq_eq_eq] at forms

theorem markup_alike (alike : List.Forall₂ TokenAlike tokens others) :
    renderInline tokens = renderInline others := by
  rw [render_inline_eq_concat, render_inline_eq_concat, map_alike TokenAlike.markup alike]

theorem quotes_alike (alike : List.Forall₂ TokenAlike tokens others) (options : RenderOptions) :
    quoteText options tokens = quoteText options others := by
  rw [quoteText, quoteText, map_alike (fun own => own.quoted options) alike]

theorem text_leaf_kind {token : Token} (leaf : isTextLeaf token = true) : token.kind = .text := by
  cases token <;> first | rfl | cases leaf

theorem append_inline_apart {head token : Token}
    (apart : ¬(isTextLeaf head = true ∧ isTextLeaf token = true)) :
    appendInline [head] token = [head, token] := by
  rcases append_inline_cases [head] token with
    ⟨front, text, raw, nextText, nextRaw, split, rfl, -⟩ | ⟨added, -⟩
  · have last := congrArg List.getLast? split
    rw [List.getLast?_concat, List.getLast?_singleton] at last
    obtain rfl := Option.some.inj last
    exact absurd ⟨rfl, rfl⟩ apart
  · exact added

theorem append_single_alike {head other token next : Token} (heads : TokenAlike head other)
    (alike : TokenAlike token next) :
    List.Forall₂ TokenAlike (appendInline [head] token) (appendInline [other] next) := by
  by_cases joined : isTextLeaf head = true ∧ isTextLeaf token = true
  · obtain rfl := heads.fixed (.inl (text_leaf_kind joined.1))
    obtain rfl := alike.fixed (.inl (text_leaf_kind joined.2))
    exact tokens_alike_refl _
  · have apart : ¬(isTextLeaf other = true ∧ isTextLeaf next = true) := by
      rintro ⟨left, right⟩
      have same := heads.fixed (.inl (heads.kind.trans (text_leaf_kind left)))
      have again := alike.fixed (.inl (alike.kind.trans (text_leaf_kind right)))
      exact joined ⟨same ▸ left, again ▸ right⟩
    rw [append_inline_apart joined, append_inline_apart apart]
    exact .cons heads (.cons alike .nil)

theorem append_inline_cons (head next : Token) (more : List Token) (token : Token) :
    appendInline (head :: next :: more) token = head :: appendInline (next :: more) token := by
  simp [appendInline]

theorem append_inline_alike (alike : List.Forall₂ TokenAlike tokens others) {token other : Token}
    (last : TokenAlike token other) :
    List.Forall₂ TokenAlike (appendInline tokens token) (appendInline others other) := by
  induction alike with
  | nil => exact .cons last .nil
  | cons own later ih =>
      cases later with
      | nil => exact append_single_alike own last
      | cons next more =>
          rw [append_inline_cons, append_inline_cons]
          exact .cons own ih

/-- A paragraph, or the image in place of it: whether a sequence is one image can
be seen on either side. -/
theorem paragraph_alike (alike : List.Forall₂ TokenAlike tokens others) (options : LexOptions)
    (parent : ParentKind) (raw : String) :
    TokenAlike (paragraphToken options parent tokens raw)
      (paragraphToken options parent others raw) := by
  by_cases lone : ∃ image, isImage image = true ∧ (tokens = [image] ∨ others = [image])
  · obtain ⟨image, found, one⟩ := lone
    have same : tokens = others := by
      rcases one with rfl | rfl
      · obtain ⟨other, own, rfl⟩ : ∃ other, TokenAlike image other ∧ others = [other] := by
          cases alike with
          | cons own later => cases later; exact ⟨_, own, rfl⟩
        rw [own.fixed (.inr (by cases image <;> first | rfl | cases found))]
      · obtain ⟨other, own, rfl⟩ : ∃ other, TokenAlike other image ∧ tokens = [other] := by
          cases alike with
          | cons own later => cases later; exact ⟨_, own, rfl⟩
        rw [own.fixed (.inr (own.kind.trans (by cases image <;> first | rfl | cases found)))]
    rw [same]
    exact .refl _
  · have plain : ∀ content : List Token, (content = tokens ∨ content = others) →
        paragraphToken options parent content raw = .paragraph content raw := by
      intro content which
      unfold paragraphToken
      split
      · rename_i href title text imageRaw
        exact absurd ⟨.image href title text imageRaw, rfl, which.imp Eq.symm Eq.symm⟩ lone
      · rfl
    have markup := markup_alike alike
    rw [plain tokens (.inl rfl), plain others (.inr rfl)]
    constructor <;>
      simp [Token.kind, renderInlineToken, itemPart, Token.children?, renderIfList, quotedText,
        assembleToken, markup]

structure ItemAlike (item other : ListItem) : Prop where
  text : itemText item.tokens = itemText other.tokens
  list : ∀ options depth,
    renderLastList options depth item.tokens = renderLastList options depth other.tokens

theorem ItemAlike.refl (item : ListItem) : ItemAlike item item := ⟨rfl, fun _ _ => rfl⟩

theorem render_items_alike {items others : List ListItem}
    (alike : List.Forall₂ ItemAlike items others) (options : RenderOptions) (depth : Nat)
    (ordered : Bool) (start : UInt64) (position : Nat) :
    renderItems options depth ordered start position items =
      renderItems options depth ordered start position others := by
  induction alike generalizing position with
  | nil => rfl
  | @cons item other rest later own _ ih =>
      obtain ⟨task, tokens, raw⟩ := item
      obtain ⟨otherTask, otherTokens, otherRaw⟩ := other
      simp only [renderItems, own.text, own.list, ih]

theorem list_alike {items others : List ListItem} (alike : List.Forall₂ ItemAlike items others)
    (ordered : Bool) (start : UInt64) (raw : String) :
    TokenAlike (.list ordered start items raw) (.list ordered start others raw) := by
  have written := render_items_alike alike
  constructor <;>
    simp [Token.kind, renderInlineToken, itemPart, Token.children?, renderIfList, quotedText,
      assembleToken, renderList, written]

inductive ContributionAlike : Contribution → Contribution → Prop
  | same (contribution : Contribution) : ContributionAlike contribution contribution
  | inline {token other : Token} (alike : TokenAlike token other) :
      ContributionAlike (.inline token) (.inline other)
  | block {token other : Token} (alike : TokenAlike token other) (span : Span) :
      ContributionAlike (.block token span) (.block other span)
  | item {item other : ListItem} (alike : ItemAlike item other) :
      ContributionAlike (.item item) (.item other)

variable {contributions given : List Contribution}

theorem contributions_alike_refl (contributions : List Contribution) :
    List.Forall₂ ContributionAlike contributions contributions :=
  List.forall₂_same.mpr fun contribution _ => .same contribution

theorem items_alike (alike : List.Forall₂ ContributionAlike contributions given) :
    List.Forall₂ ItemAlike (itemsOf contributions) (itemsOf given) := by
  induction alike with
  | nil => exact .nil
  | @cons contribution _ _ _ own _ ih =>
      cases own with
      | same =>
          cases contribution with
          | item item => exact .cons (.refl item) ih
          | _ => exact ih
      | item alike => exact .cons alike ih
      | _ => exact ih

theorem collected_alike (alike : List.Forall₂ ContributionAlike contributions given) :
    cellsOf contributions = cellsOf given ∧ rowsOf contributions = rowsOf given ∧
      headOf contributions = headOf given ∧ codeTextOf contributions = codeTextOf given := by
  induction alike with
  | nil => exact ⟨rfl, rfl, rfl, rfl⟩
  | @cons contribution _ _ _ own _ ih =>
      obtain ⟨cells, rows, head, code⟩ := ih
      cases own with
      | same =>
          cases contribution <;> simp [cellsOf, rowsOf, headOf, codeTextOf, cells, rows, head, code]
      | _ => exact ⟨cells, rows, head, code⟩

theorem placed_alike {parent : ParentKind} (outside : parent ≠ .item)
    (alike : List.Forall₂ ContributionAlike contributions given) :
    List.Forall₂ TokenAlike (placedTokens parent contributions) (placedTokens parent given) := by
  have general : ∀ {tokens others}, List.Forall₂ TokenAlike tokens others →
      List.Forall₂ TokenAlike (contributions.foldl (placeToken parent) tokens)
        (given.foldl (placeToken parent) others) := by
    induction alike with
    | nil => exact id
    | @cons contribution _ _ _ own _ ih =>
        intro tokens others before
        refine ih ?_
        cases own with
        | same =>
            cases contribution with
            | inline token =>
                simp only [placeToken, if_neg outside]
                exact append_inline_alike before (.refl token)
            | block token span => exact List.rel_append before (.cons (.refl token) .nil)
            | _ => exact before
        | inline alike =>
            simp only [placeToken, if_neg outside]
            exact append_inline_alike before alike
        | block alike span => exact List.rel_append before (.cons alike .nil)
        | item alike => exact before
  exact general .nil

/-- The containers that keep nothing but the literal text of what they hold. -/
def keepsLiteralText : Tag → Bool
  | .image .. | .tableCell => true
  | .paragraph | .heading _ | .blockquote | .codeBlock _ | .htmlBlock | .list _ | .item
  | .footnoteDefinition | .definitionList | .definitionTitle | .definitionBody | .table
  | .tableHead | .tableRow | .emphasis | .strong | .strikethrough | .superscript | .subscript
  | .link .. | .metadata => false

/-- A container filled with contributions that are alike. An item is not among
these: its lines do not come from its contributions one by one. -/
theorem container_alike (source : String) (options : LexOptions) (context : Context) {tag : Tag}
    (kept : keepsLiteralText tag = false) (outside : tag ≠ .item) (closed : Span)
    (alike : List.Forall₂ ContributionAlike contributions given) :
    ContributionAlike (containerContribution source options context tag closed contributions)
      (containerContribution source options context tag closed given) := by
  obtain ⟨cells, rows, head, code⟩ := collected_alike alike
  have elsewhere : parentKind tag ≠ .item := by
    cases tag <;> simp [parentKind] at outside ⊢
  have placed := placed_alike elsewhere alike
  have markup := markup_alike placed
  have quotes := quotes_alike placed
  cases tag with
  | item => exact absurd rfl outside
  | image _ _ | tableCell => cases kept
  | paragraph => exact .block (paragraph_alike placed options _ _) closed
  | list first => exact .block (list_alike (items_alike alike) _ _ _) closed
  | emphasis | strong | strikethrough | link _ _ =>
      refine .inline ?_
      constructor <;>
        simp [Token.kind, renderInlineToken, itemPart, Token.children?, renderIfList, quotedText,
          Token.raw, assembleToken, markup]
  | heading _ | blockquote =>
      refine .block ?_ closed
      constructor <;>
        simp [Token.kind, renderInlineToken, itemPart, Token.children?, renderIfList, quotedText,
          Token.raw, assembleToken, markup, quotes]
  | _ =>
      simp only [containerContribution, cells, rows, head, code]
      exact .same _

/-- Blocks of the top level: the gaps between them add nothing to a message. -/
theorem assemble_alike (options : RenderOptions) (source : String) (lastBlockEnd : Option Nat)
    (alike : List.Forall₂ ContributionAlike contributions given) :
    assemble options (topTokens source lastBlockEnd contributions) =
      assemble options (topTokens source lastBlockEnd given) := by
  unfold assemble
  induction alike generalizing lastBlockEnd with
  | nil => rfl
  | @cons contribution _ rest later own _ ih =>
      cases own with
      | same =>
          cases contribution with
          | inline token => simp only [topTokens, assembly, Assembly.append, ih]
          | block token span =>
              simp only [topTokens, assembly_append, assembly_gap, assembly, Assembly.append,
                ih]
          | _ => exact ih lastBlockEnd
      | inline tokens => simp only [topTokens, assembly, Assembly.append, tokens.blocks, ih]
      | block tokens span =>
          simp only [topTokens, assembly_append, assembly_gap, assembly, Assembly.append,
            tokens.blocks, ih]
      | item items => exact ih lastBlockEnd

end ChatBlocks.WrittenAlike
