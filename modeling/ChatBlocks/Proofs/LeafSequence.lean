import ChatBlocks.Proofs.BuilderForest

/-!
# Nothing is lost, doubled or reordered

The leaves of a token tree, read in order, are the leaves that the events of
the document stand for one by one. The two sequences are compared after joining
neighbouring text leaves, which is the one freedom the builder takes. Each kind
of container keeps its content in a place of its own, and drops what does not
belong there; so the sequences agree for the nestings a Markdown reader gives,
which `forestShaped` describes.
-/

namespace ChatBlocks.LeafSequence

open Markdown (LocatedEvent Span Tag)
open EventForest ForestTokens BuilderForest

mutual

/-- The leaves of a token. White space between blocks is not one. -/
def tokenLeaves : Token → List Token
  | .text text none raw => [.text text none raw]
  | .text _ (some run) _ => leafTokens run
  | .link _ _ tokens _ => leafTokens tokens
  | .strong tokens _ => leafTokens tokens
  | .em tokens _ => leafTokens tokens
  | .del tokens _ => leafTokens tokens
  | .heading _ tokens _ => leafTokens tokens
  | .paragraph tokens _ => leafTokens tokens
  | .blockquote tokens _ => leafTokens tokens
  | .list _ _ items _ => itemLeaves items
  | .table header rows _ => cellLeaves header ++ rowLeaves rows
  | .space _ => []
  | .image href title text raw => [.image href title text raw]
  | .codespan text raw => [.codespan text raw]
  | .br raw => [.br raw]
  | .code lang text raw => [.code lang text raw]
  | .hr raw => [.hr raw]
  | .html raw => [.html raw]
  | .other raw => [.other raw]

def leafTokens : List Token → List Token
  | [] => []
  | token :: rest => tokenLeaves token ++ leafTokens rest

def itemLeaves : List ListItem → List Token
  | [] => []
  | ⟨_, tokens, _⟩ :: rest => leafTokens tokens ++ itemLeaves rest

def cellLeaves : List TableCell → List Token
  | [] => []
  | ⟨tokens, _⟩ :: rest => leafTokens tokens ++ cellLeaves rest

def rowLeaves : List (List TableCell) → List Token
  | [] => []
  | cells :: rest => cellLeaves cells ++ rowLeaves rest

end

theorem leaf_tokens_append (first second : List Token) :
    leafTokens (first ++ second) = leafTokens first ++ leafTokens second := by
  induction first with
  | nil => rfl
  | cons token rest ih => simp only [List.cons_append, leafTokens, ih, List.append_assoc]

@[simp] theorem leaf_tokens_singleton (token : Token) : leafTokens [token] = tokenLeaves token := by
  simp [leafTokens]

theorem item_leaves_cons (item : ListItem) (rest : List ListItem) :
    itemLeaves (item :: rest) = leafTokens item.tokens ++ itemLeaves rest := by
  cases item
  rfl

theorem cell_leaves_cons (cell : TableCell) (rest : List TableCell) :
    cellLeaves (cell :: rest) = leafTokens cell.tokens ++ cellLeaves rest := by
  cases cell
  rfl

/-- Puts a leaf before a sequence. Text joins a text leaf it meets there. -/
def joinText : Token → List Token → List Token
  | .text text none raw, .text nextText none nextRaw :: rest =>
      .text (text ++ nextText) none (raw ++ nextRaw) :: rest
  | token, rest => token :: rest

def mergeTexts (leaves : List Token) : List Token :=
  leaves.foldr joinText []

theorem join_join_text (text raw nextText nextRaw : String) (rest : List Token) :
    joinText (.text text none raw) (joinText (.text nextText none nextRaw) rest) =
      joinText (.text (text ++ nextText) none (raw ++ nextRaw)) rest := by
  cases rest with
  | nil => rfl
  | cons head more =>
      cases head with
      | text lastText run lastRaw => cases run <;> simp [joinText, String.append_assoc]
      | _ => rfl

/-- A joined sequence may stand for the original before anything else. -/
theorem foldr_join_text (token : Token) (leaves base : List Token) :
    (joinText token leaves).foldr joinText base = joinText token (leaves.foldr joinText base) := by
  cases token with
  | text text run raw =>
      cases run with
      | some run => rfl
      | none =>
          rcases leaves with _ | ⟨head, more⟩
          · rfl
          · cases head with
            | text nextText nextRun nextRaw =>
                cases nextRun with
                | some run => rfl
                | none => exact (join_join_text text raw nextText nextRaw _).symm
            | _ => rfl
  | _ => rfl

theorem foldr_merge_texts (leaves base : List Token) :
    (mergeTexts leaves).foldr joinText base = leaves.foldr joinText base := by
  induction leaves with
  | nil => rfl
  | cons leaf rest ih =>
      have joined : mergeTexts (leaf :: rest) = joinText leaf (mergeTexts rest) := rfl
      rw [joined, foldr_join_text, ih, List.foldr_cons]

/-- Two sequences of leaves that differ only in how text is cut. -/
def SameLeaves (left right : List Token) : Prop :=
  mergeTexts left = mergeTexts right

theorem SameLeaves.refl (leaves : List Token) : SameLeaves leaves leaves := rfl

theorem SameLeaves.trans {left middle right : List Token} (first : SameLeaves left middle)
    (second : SameLeaves middle right) : SameLeaves left right :=
  Eq.trans first second

theorem SameLeaves.append {left right nextLeft nextRight : List Token}
    (first : SameLeaves left right) (second : SameLeaves nextLeft nextRight) :
    SameLeaves (left ++ nextLeft) (right ++ nextRight) := by
  have split : ∀ leaves next : List Token,
      mergeTexts (leaves ++ next) = (mergeTexts leaves).foldr joinText (mergeTexts next) := by
    intro leaves next
    rw [foldr_merge_texts, mergeTexts, List.foldr_append]
    rfl
  unfold SameLeaves at first second ⊢
  rw [split, split, first, second]

theorem append_inline_leaves (tokens : List Token) (token : Token) :
    SameLeaves (leafTokens (appendInline tokens token))
      (leafTokens tokens ++ tokenLeaves token) := by
  fun_induction appendInline tokens token with
  | case1 token => simp [leafTokens, SameLeaves]
  | case2 text raw nextText nextRaw => simp [leafTokens, tokenLeaves, SameLeaves, mergeTexts, joinText]
  | case3 head token => simp [leafTokens, SameLeaves]
  | case4 head token next more later ih =>
      have shifted := (SameLeaves.refl (tokenLeaves head)).append ih
      simpa only [leafTokens, List.append_assoc] using shifted

theorem append_to_run_leaves (tokens : List Token) (token : Token) :
    SameLeaves (leafTokens (appendToRun tokens token))
      (leafTokens tokens ++ tokenLeaves token) := by
  fun_induction appendToRun tokens token with
  | case1 token => simp [leafTokens, tokenLeaves, SameLeaves]
  | case2 text run raw token => simpa [tokenLeaves] using append_inline_leaves run token
  | case3 head token => simp [leafTokens, tokenLeaves, SameLeaves]
  | case4 head token next more later ih =>
      have shifted := (SameLeaves.refl (tokenLeaves head)).append ih
      simpa only [leafTokens, List.append_assoc] using shifted

/-- The leaves of one event. Text that begins with an escape is the escape and
the text behind it. -/
def eventLeaves (source : String) (context : Context) (leaf : LeafEvent) (span : Span) :
    List Token :=
  let raw := rawText source context.quoteDepth span
  match leaf with
  | .text text => textTokens source context text span
  | .code text => [.codespan text raw]
  | .softBreak | .hardBreak => [.br raw]
  | .html html | .inlineHtml html => [.html html]
  | .rule => [.hr raw]
  | .taskMarker _ => []
  | .inlineMath _ | .displayMath _ | .footnoteReference _ => [.other raw]

def forestText : List EventTree → String
  | [] => ""
  | .leaf (.text text) _ :: rest => text ++ forestText rest
  | _ :: rest => forestText rest

mutual

/-- The leaves a tree stands for. A code block is one leaf. -/
def treeLeaves (source : String) (context : Context) : EventTree → List Token
  | .leaf leaf span => eventLeaves source context leaf span
  | .node (.codeBlock kind) _ children closed =>
      [.code (FrameKind.language kind) (Builder.dropFinalNewline (forestText children))
        (rawText source context.quoteDepth closed)]
  | .node tag _ children _ => forestLeaves source (context.inside tag) children

def forestLeaves (source : String) (context : Context) : List EventTree → List Token
  | [] => []
  | tree :: rest => treeLeaves source context tree ++ forestLeaves source context rest

end

/-- The containers that a reader of Markdown puts directly into a parent. -/
def standsIn : ParentKind → Tag → Bool
  | .list, tag => tag = .item
  | .table, tag => tag = .tableHead || tag = .tableRow
  | .cells, tag => tag = .tableCell
  | .code, _ | .htmlBlock, _ => false
  | .top, tag | .inline, tag | .item, tag | .block, tag =>
      match tag with
      | .paragraph | .heading _ | .blockquote | .codeBlock _ | .list _ | .table | .emphasis
      | .strong | .strikethrough | .link .. => true
      | .item | .tableHead | .tableRow | .tableCell | .image .. | .htmlBlock
      | .footnoteDefinition | .definitionList | .definitionTitle | .definitionBody | .superscript
      | .subscript | .metadata => false

def leafStandsIn : ParentKind → LeafEvent → Bool
  | .list, _ | .table, _ | .cells, _ | .htmlBlock, _ => false
  | .code, leaf =>
      match leaf with
      | .text _ => true
      | _ => false
  | .top, _ | .inline, _ | .item, _ | .block, _ => true

def isRow : EventTree → Bool
  | .node .tableRow _ _ _ => true
  | _ => false

def headThenRows : List EventTree → Bool
  | .node .tableHead _ _ _ :: rest => rest.all isRow
  | _ => false

mutual

def treeShaped (parent : ParentKind) : EventTree → Bool
  | .leaf leaf _ => leafStandsIn parent leaf
  | .node tag _ children _ =>
      standsIn parent tag && (tag != .table || headThenRows children)
        && forestShaped (parentKind tag) children

/-- Lists hold only items, a table holds one header and then rows, these hold
only cells, and code blocks only text; the containers without a kind of token,
images and HTML blocks do not occur. -/
def forestShaped (parent : ParentKind) : List EventTree → Bool
  | [] => true
  | tree :: rest => treeShaped parent tree && forestShaped parent rest

end

def contributionLeaves : Contribution → List Token
  | .inline token => tokenLeaves token
  | .block token _ => tokenLeaves token
  | .item item => leafTokens item.tokens
  | .head cells => cellLeaves cells
  | .row cells => cellLeaves cells
  | .cell cell => leafTokens cell.tokens
  | .codeText _ => []
  | .task _ => []

def fits : ParentKind → Contribution → Bool
  | .list, .item _ | .table, .head _ | .table, .row _ | .cells, .cell _ | .code, .codeText _
  | .item, .task _ => true
  | .top, .inline _ | .inline, .inline _ | .item, .inline _ | .block, .inline _ => true
  | .top, .block .. | .inline, .block .. | .item, .block .. | .block, .block .. => true
  | _, _ => false

theorem tree_contributions_fit (source : String) (options : LexOptions) (context : Context)
    (tree : EventTree) (shaped : treeShaped context.parent tree = true) :
    ∀ contribution ∈ treeContributions source options context tree,
      fits context.parent contribution = true := by
  obtain ⟨quoteDepth, inCell, parent⟩ := context
  cases tree with
  | leaf leaf span =>
      simp only [treeShaped] at shaped
      cases parent <;> cases leaf <;>
        simp_all [leafStandsIn, treeContributions, leafContributions, fits]
  | node tag entered children closed =>
      simp only [treeShaped, Bool.and_eq_true] at shaped
      have stands := shaped.1.1
      cases parent <;> cases tag <;>
        simp_all [standsIn, treeContributions, containerContribution, fits]

theorem forest_contributions_fit (source : String) (options : LexOptions) (context : Context)
    (forest : List EventTree) (shaped : forestShaped context.parent forest = true) :
    ∀ contribution ∈ forestContributions source options context forest,
      fits context.parent contribution = true := by
  induction forest with
  | nil => simp [forestContributions]
  | cons tree rest ih =>
      simp only [forestShaped, Bool.and_eq_true] at shaped
      intro contribution member
      rcases List.mem_append.mp member with own | later
      · exact tree_contributions_fit source options context tree shaped.1 contribution own
      · exact ih shaped.2 contribution later

def holdsTokens : ParentKind → Bool
  | .top | .inline | .item | .block => true
  | .list | .table | .cells | .code | .htmlBlock => false

theorem placed_leaves (parent : ParentKind) (holds : holdsTokens parent = true)
    (contributions : List Contribution) (tokens : List Token)
    (fitting : ∀ contribution ∈ contributions, fits parent contribution = true) :
    SameLeaves (leafTokens (contributions.foldl (placeToken parent) tokens))
      (leafTokens tokens ++ contributions.flatMap contributionLeaves) := by
  induction contributions generalizing tokens with
  | nil => simp [SameLeaves]
  | cons contribution rest ih =>
      have own := fitting contribution List.mem_cons_self
      have later := ih (placeToken parent tokens contribution)
        fun other member => fitting other (List.mem_cons_of_mem _ member)
      have placed : SameLeaves (leafTokens (placeToken parent tokens contribution))
          (leafTokens tokens ++ contributionLeaves contribution) := by
        cases contribution with
        | inline token =>
            simp only [placeToken, contributionLeaves]
            split
            · exact append_to_run_leaves tokens token
            · exact append_inline_leaves tokens token
        | block token span => simp [placeToken, leaf_tokens_append, contributionLeaves, SameLeaves]
        | task checked => simp [placeToken, contributionLeaves, SameLeaves]
        | item item => cases parent <;> simp [holdsTokens, fits] at holds own
        | head cells => cases parent <;> simp [holdsTokens, fits] at holds own
        | row cells => cases parent <;> simp [holdsTokens, fits] at holds own
        | cell cell => cases parent <;> simp [holdsTokens, fits] at holds own
        | codeText text => cases parent <;> simp [holdsTokens, fits] at holds own
      have joined := later.trans (placed.append (SameLeaves.refl _))
      simpa only [List.foldl_cons, List.flatMap_cons, List.append_assoc] using joined

theorem placed_tokens_leaves (parent : ParentKind) (holds : holdsTokens parent = true)
    (contributions : List Contribution)
    (fitting : ∀ contribution ∈ contributions, fits parent contribution = true) :
    SameLeaves (leafTokens (placedTokens parent contributions))
      (contributions.flatMap contributionLeaves) := by
  exact placed_leaves parent holds contributions [] fitting

theorem items_of_leaves (contributions : List Contribution)
    (fitting : ∀ contribution ∈ contributions, fits .list contribution = true) :
    itemLeaves (itemsOf contributions) = contributions.flatMap contributionLeaves := by
  induction contributions with
  | nil => rfl
  | cons contribution rest ih =>
      have own := fitting contribution List.mem_cons_self
      have later := ih fun other member => fitting other (List.mem_cons_of_mem _ member)
      cases contribution with
      | item item => simp only [itemsOf, item_leaves_cons, later, List.flatMap_cons, contributionLeaves]
      | _ => simp [fits] at own

theorem cells_of_leaves (contributions : List Contribution)
    (fitting : ∀ contribution ∈ contributions, fits .cells contribution = true) :
    cellLeaves (cellsOf contributions) = contributions.flatMap contributionLeaves := by
  induction contributions with
  | nil => rfl
  | cons contribution rest ih =>
      have own := fitting contribution List.mem_cons_self
      have later := ih fun other member => fitting other (List.mem_cons_of_mem _ member)
      cases contribution with
      | cell cell => simp only [cellsOf, cell_leaves_cons, later, List.flatMap_cons, contributionLeaves]
      | _ => simp [fits] at own

theorem row_contributions (source : String) (options : LexOptions) (context : Context)
    (inTable : context.parent = .table) (trees : List EventTree)
    (shaped : trees.all isRow = true) :
    ∃ rows : List (List TableCell),
      forestContributions source options context trees = rows.map .row := by
  induction trees with
  | nil => exact ⟨[], rfl⟩
  | cons tree rest ih =>
      simp only [List.all_cons, Bool.and_eq_true] at shaped
      obtain ⟨later, found⟩ := ih shaped.2
      cases tree with
      | leaf leaf span => simp [isRow] at shaped
      | node tag entered children closed =>
          cases tag with
          | tableRow =>
              refine ⟨cellsOf (forestContributions source options (context.inside .tableRow)
                children) :: later, ?_⟩
              simp [forestContributions, treeContributions, containerContribution, inTable, found]
          | _ => simp [isRow] at shaped

theorem rows_of_map (rows : List (List TableCell)) :
    rowsOf (rows.map .row) = rows ∧ headOf (rows.map .row) = none ∧
      rowLeaves rows = (rows.map Contribution.row).flatMap contributionLeaves := by
  induction rows with
  | nil => exact ⟨rfl, rfl, rfl⟩
  | cons cells rest ih => simp [rowsOf, headOf, rowLeaves, contributionLeaves, ih]

theorem table_leaves (source : String) (options : LexOptions) (context : Context)
    (inTable : context.parent = .table) (children : List EventTree)
    (shaped : headThenRows children = true) :
    let contributions := forestContributions source options context children
    cellLeaves ((headOf contributions).getD []) ++ rowLeaves (rowsOf contributions) =
      contributions.flatMap contributionLeaves := by
  intro contributions
  unfold headThenRows at shaped
  split at shaped
  · rename_i entered cells closed rest
    obtain ⟨rows, found⟩ := row_contributions source options context inTable rest shaped
    obtain ⟨sameRows, noHead, leaves⟩ := rows_of_map rows
    simp [contributions, forestContributions, treeContributions, containerContribution, inTable,
      found, headOf, rowsOf, sameRows, noHead, leaves, contributionLeaves]
  · cases shaped

theorem code_text_of_forest (source : String) (options : LexOptions) (context : Context)
    (inCode : context.parent = .code) (children : List EventTree)
    (shaped : forestShaped .code children = true) :
    codeTextOf (forestContributions source options context children) = forestText children := by
  induction children with
  | nil => rfl
  | cons tree rest ih =>
      simp only [forestShaped, Bool.and_eq_true] at shaped
      have later := ih shaped.2
      cases tree with
      | node tag entered children closed => simp [treeShaped, standsIn] at shaped
      | leaf leaf span =>
          cases leaf with
          | text text =>
              simp [forestContributions, treeContributions, leafContributions, inCode, codeTextOf,
                forestText, later]
          | _ => simp [treeShaped, leafStandsIn] at shaped

theorem paragraph_token_leaves (options : LexOptions) (parent : ParentKind)
    (tokens : List Token) (raw : String) :
    tokenLeaves (paragraphToken options parent tokens raw) = leafTokens tokens := by
  unfold paragraphToken
  split
  · split
    · rw [leaf_tokens_singleton]
    · rfl
  · rfl

theorem container_leaves (source : String) (options : LexOptions) (context : Context) (tag : Tag)
    (entered closed : Span) (children : List EventTree)
    (shaped : treeShaped context.parent (.node tag entered children closed) = true)
    (plain : ∀ kind, tag ≠ .codeBlock kind) :
    let contributions := forestContributions source options (context.inside tag) children
    SameLeaves
      (contributionLeaves (containerContribution source options context tag closed contributions))
      (contributions.flatMap contributionLeaves) := by
  intro contributions
  simp only [treeShaped, Bool.and_eq_true] at shaped
  obtain ⟨⟨stands, inOrder⟩, below⟩ := shaped
  have fitting : ∀ contribution ∈ contributions, fits (parentKind tag) contribution = true :=
    forest_contributions_fit source options (context.inside tag) children below
  have placed : holdsTokens (parentKind tag) = true →
      SameLeaves (leafTokens (placedTokens (parentKind tag) contributions))
        (contributions.flatMap contributionLeaves) := fun holds =>
    placed_tokens_leaves (parentKind tag) holds contributions fitting
  cases tag with
  | paragraph =>
      have same := paragraph_token_leaves options context.parent
        (placedTokens .inline contributions) (rawText source context.quoteDepth closed)
      simp only [containerContribution, contributionLeaves]
      exact (congrArg mergeTexts same).trans (placed rfl)
  | heading level => exact placed rfl
  | blockquote => exact placed rfl
  | emphasis => exact placed rfl
  | strong => exact placed rfl
  | strikethrough => exact placed rfl
  | link destination title => exact placed rfl
  | codeBlock kind => exact absurd rfl (plain kind)
  | list first => exact congrArg mergeTexts (items_of_leaves contributions fitting)
  | table =>
      exact congrArg mergeTexts
        (table_leaves source options (context.inside .table) rfl children inOrder)
  | item =>
      have inList : context.parent = .list := by
        cases parent : context.parent <;> simp [standsIn, parent] at stands ⊢
      simp only [containerContribution, inList, if_true]
      exact placed rfl
  | tableHead =>
      have inTable : context.parent = .table := by
        cases parent : context.parent <;> simp [standsIn, parent] at stands ⊢
      simp only [containerContribution, inTable, if_true]
      exact congrArg mergeTexts (cells_of_leaves contributions fitting)
  | tableRow =>
      have inTable : context.parent = .table := by
        cases parent : context.parent <;> simp [standsIn, parent] at stands ⊢
      simp only [containerContribution, inTable, if_true]
      exact congrArg mergeTexts (cells_of_leaves contributions fitting)
  | tableCell =>
      have inRow : context.parent = .cells := by
        cases parent : context.parent <;> simp [standsIn, parent] at stands ⊢
      simp only [containerContribution, inRow, if_true]
      exact placed rfl
  | _ => cases parent : context.parent <;> simp [standsIn, parent] at stands

theorem text_tokens_leaves (source : String) (context : Context) (text : String) (span : Span) :
    (textTokens source context text span).flatMap tokenLeaves =
      textTokens source context text span := by
  unfold textTokens
  cases escapeAt? source context.inCell span.start with
  | none => rfl
  | some escaped =>
      cases text.toList with
      | nil => rfl
      | cons first rest =>
          by_cases same : first = escaped
          · by_cases short : rest.isEmpty = true <;> simp [same, short, tokenLeaves]
          · simp [same, tokenLeaves]

theorem leaf_contribution_leaves (source : String) (context : Context) (leaf : LeafEvent)
    (span : Span) (notCode : context.parent ≠ .code) (notHtml : context.parent ≠ .htmlBlock) :
    (leafContributions source context leaf span).flatMap contributionLeaves =
      eventLeaves source context leaf span := by
  cases leaf with
  | text text =>
      have leaves := text_tokens_leaves source context text span
      simpa [leafContributions, notCode, List.flatMap_map, contributionLeaves, eventLeaves]
        using leaves
  | html html => simp [leafContributions, notHtml, contributionLeaves, tokenLeaves, eventLeaves]
  | inlineHtml html =>
      simp [leafContributions, notHtml, contributionLeaves, tokenLeaves, eventLeaves]
  | taskMarker checked =>
      simp only [leafContributions]
      split <;> simp [contributionLeaves, eventLeaves]
  | _ => simp [leafContributions, contributionLeaves, tokenLeaves, eventLeaves]

theorem tree_leaves_node (source : String) (context : Context) (tag : Tag)
    (entered closed : Span) (children : List EventTree) (plain : ∀ kind, tag ≠ .codeBlock kind) :
    treeLeaves source context (.node tag entered children closed) =
      forestLeaves source (context.inside tag) children := by
  cases tag with
  | codeBlock kind => exact absurd rfl (plain kind)
  | _ => rfl

theorem code_block_leaves (source : String) (options : LexOptions) (context : Context)
    (kind : Markdown.CodeBlockKind) (entered closed : Span) (children : List EventTree)
    (shaped : forestShaped .code children = true) :
    (treeContributions source options context
        (.node (.codeBlock kind) entered children closed)).flatMap contributionLeaves =
      treeLeaves source context (.node (.codeBlock kind) entered children closed) := by
  have text := code_text_of_forest source options (context.inside (.codeBlock kind)) rfl
    children shaped
  simp [treeContributions, containerContribution, contributionLeaves, tokenLeaves, treeLeaves,
    text]

mutual

/-- What a tree contributes has the leaves it stands for. The induction follows
the tree; a code block is taken as a whole, since its text is no leaf alone. -/
theorem tree_leaves_agree (source : String) (options : LexOptions) :
    ∀ (tree : EventTree) (context : Context), treeShaped context.parent tree = true →
      context.parent ≠ .code →
      SameLeaves ((treeContributions source options context tree).flatMap contributionLeaves)
        (treeLeaves source context tree)
  | .leaf leaf span, context, shaped, notCode => by
      have notHtml : context.parent ≠ .htmlBlock := by
        intro html
        simp [treeShaped, leafStandsIn, html] at shaped
      exact congrArg mergeTexts
        (leaf_contribution_leaves source context leaf span notCode notHtml)
  | .node tag entered children closed, context, shaped, notCode => by
      have below : forestShaped (parentKind tag) children = true := by
        simp only [treeShaped, Bool.and_eq_true] at shaped
        exact shaped.2
      by_cases code : ∃ kind, tag = .codeBlock kind
      · obtain ⟨kind, rfl⟩ := code
        exact congrArg mergeTexts
          (code_block_leaves source options context kind entered closed children below)
      · have plain : ∀ kind, tag ≠ .codeBlock kind := fun kind same => code ⟨kind, same⟩
        have inside : parentKind tag ≠ .code := by
          cases tag with
          | codeBlock kind => exact absurd rfl (plain kind)
          | _ => simp [parentKind]
        have own := container_leaves source options context tag entered closed children shaped
          plain
        have children := forest_leaves_agree source options children (context.inside tag) below
          inside
        rw [tree_leaves_node source context tag entered closed _ plain]
        simpa only [treeContributions, List.flatMap_singleton] using own.trans children

theorem forest_leaves_agree (source : String) (options : LexOptions) :
    ∀ (forest : List EventTree) (context : Context), forestShaped context.parent forest = true →
      context.parent ≠ .code →
      SameLeaves ((forestContributions source options context forest).flatMap contributionLeaves)
        (forestLeaves source context forest)
  | [], _, _, _ => rfl
  | tree :: rest, context, shaped, notCode => by
      simp only [forestShaped, Bool.and_eq_true] at shaped
      have own := tree_leaves_agree source options tree context shaped.1 notCode
      have later := forest_leaves_agree source options rest context shaped.2 notCode
      simpa only [forestContributions, List.flatMap_append, forestLeaves] using own.append later

end

theorem gap_leaves (source : String) (lastBlockEnd : Option Nat) (offset : Nat) :
    leafTokens (gapTokens source lastBlockEnd offset) = [] := by
  rcases gap_tokens_cases source lastBlockEnd offset with none | ⟨gap, one⟩
  · rw [none]
    rfl
  · rw [one]
    rfl

theorem top_tokens_leaves (source : String) (contributions : List Contribution)
    (lastBlockEnd : Option Nat)
    (fitting : ∀ contribution ∈ contributions, fits .top contribution = true) :
    leafTokens (topTokens source lastBlockEnd contributions) =
      contributions.flatMap contributionLeaves := by
  induction contributions generalizing lastBlockEnd with
  | nil => rfl
  | cons contribution rest ih =>
      have own := fitting contribution List.mem_cons_self
      have later := fun last => ih last
        fun other member => fitting other (List.mem_cons_of_mem _ member)
      cases contribution with
      | inline token => simp [topTokens, leafTokens, contributionLeaves, later]
      | block token span =>
          simp [topTokens, leaf_tokens_append, gap_leaves, leafTokens, contributionLeaves, later]
      | _ => simp [fits] at own

/-- The leaves of the tokens are the leaves that the events stand for, in the
same order. A well-nested sequence is the sequence of its forest; of any other
sequence, this speaks about the balanced one. -/
theorem token_leaves_eq_event_leaves (source : String) (options : LexOptions)
    (events : List LocatedEvent)
    (shaped : forestShaped .top (forestOf source.utf8ByteSize events) = true) :
    mergeTexts (leafTokens (tokensOfEvents source options events)) =
      mergeTexts (forestLeaves source topContext (forestOf source.utf8ByteSize events)) := by
  have fitting := forest_contributions_fit source options topContext
    (forestOf source.utf8ByteSize events) shaped
  have leaves := forest_leaves_agree source options (forestOf source.utf8ByteSize events)
    topContext shaped (by decide)
  rw [tokens_of_events, forestTokens, top_tokens_leaves _ _ _ fitting]
  exact leaves

/-- A tight item that holds an escape, emphasis and a code block, and a table
with a header and a row. -/
theorem list_and_table_leaves :
    let source := "- a\\*b*c*\n\n      x\n\n|h|\n|-|\n|d|\n"
    let events : List LocatedEvent :=
      [⟨.enter (.list none), ⟨0, 19⟩⟩, ⟨.enter .item, ⟨0, 19⟩⟩, ⟨.text "a", ⟨2, 3⟩⟩,
        ⟨.text "*b", ⟨4, 6⟩⟩, ⟨.enter .emphasis, ⟨6, 9⟩⟩, ⟨.text "c", ⟨7, 8⟩⟩,
        ⟨.leave, ⟨6, 9⟩⟩, ⟨.enter (.codeBlock .indented), ⟨17, 19⟩⟩, ⟨.text "x\n", ⟨17, 19⟩⟩,
        ⟨.leave, ⟨17, 19⟩⟩, ⟨.leave, ⟨0, 19⟩⟩, ⟨.leave, ⟨0, 19⟩⟩,
        ⟨.enter .table, ⟨20, 32⟩⟩, ⟨.enter .tableHead, ⟨20, 24⟩⟩,
        ⟨.enter .tableCell, ⟨21, 22⟩⟩, ⟨.text "h", ⟨21, 22⟩⟩, ⟨.leave, ⟨21, 22⟩⟩,
        ⟨.leave, ⟨20, 24⟩⟩, ⟨.enter .tableRow, ⟨28, 32⟩⟩, ⟨.enter .tableCell, ⟨29, 30⟩⟩,
        ⟨.text "d", ⟨29, 30⟩⟩, ⟨.leave, ⟨29, 30⟩⟩, ⟨.leave, ⟨28, 32⟩⟩, ⟨.leave, ⟨20, 32⟩⟩]
    forestShaped .top (forestOf source.utf8ByteSize events) = true ∧
      mergeTexts (leafTokens (tokensOfEvents source {} events)) =
        mergeTexts (forestLeaves source topContext (forestOf source.utf8ByteSize events)) ∧
      forestLeaves source topContext (forestOf source.utf8ByteSize events) =
        [.text "a" none "a", .other "\\*", .text "b" none "b", .text "c" none "c",
          .code none "x" "x\n", .text "h" none "h", .text "d" none "d"] :=
  ⟨rfl, token_leaves_eq_event_leaves _ _ _ rfl, rfl⟩

end ChatBlocks.LeafSequence
