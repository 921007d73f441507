import ChatBlocks.Proofs.EventForest
import ChatBlocks.Token.Builder

/-!
# Tokens of an event forest

The token tree of a forest, by recursion on the forest and without a stack of
half-built containers. A tree contributes to the container around it and knows
only the `Context` it stands in: how many quotes are open, whether a table cell
is, and the kind of its direct parent. A container is computed from its tag,
the range it is left with and the contributions of its children in order. The
top level takes the contributions of a forest and remembers only where its last
block ended.
-/

namespace ChatBlocks.ForestTokens

open Markdown (Span Tag)
open EventForest

inductive ParentKind where
  /-- There is no container. -/
  | top
  /-- Paragraphs, headings, table cells and the inline containers. -/
  | inline
  | item
  | list
  | table
  | cells
  | code
  | htmlBlock
  | block
  deriving DecidableEq, Repr

def parentKind : Tag → ParentKind
  | .paragraph | .heading _ | .tableCell | .emphasis | .strong | .strikethrough | .link ..
  | .image .. => .inline
  | .item => .item
  | .list _ => .list
  | .table => .table
  | .tableHead | .tableRow => .cells
  | .codeBlock _ => .code
  | .htmlBlock => .htmlBlock
  | .blockquote | .footnoteDefinition | .definitionList | .definitionTitle | .definitionBody
  | .superscript | .subscript | .metadata => .block

/-- What a tree knows about the containers around it. -/
structure Context where
  quoteDepth : Nat
  inCell : Bool
  parent : ParentKind
  deriving DecidableEq, Repr

def topContext : Context := ⟨0, false, .top⟩

def Context.inside (context : Context) (tag : Tag) : Context :=
  ⟨if tag = .blockquote then context.quoteDepth + 1 else context.quoteDepth,
    context.inCell || tag = .tableCell, parentKind tag⟩

/-- What a tree hands to the container around it. -/
inductive Contribution where
  | inline (token : Token)
  /-- A block, with the range that decides about the gap before it. -/
  | block (token : Token) (span : Span)
  | item (item : ListItem)
  | head (cells : List TableCell)
  | row (cells : List TableCell)
  | cell (cell : TableCell)
  | codeText (text : String)
  | task (checked : Bool)

/-- The source of a range, without the markers of so many quotes. -/
def rawText (source : String) (quoteDepth : Nat) (span : Span) : String :=
  let text := (Text.slice? source span.start span.stop).getD ""
  if quoteDepth = 0 then text else stripContinuationLines quoteDepth text

/-- The escaped character at an offset: punctuation behind an odd number of
backslashes, except a pipe inside a table cell. -/
def escapeAt? (source : String) (inCell : Bool) (offset : Nat) : Option Char :=
  match Text.cursorAt? source offset with
  | some ⟨before, character :: _⟩ =>
      if isAsciiPunctuation character && !(character == '|' && inCell)
          && (before.takeWhile (· == '\\')).length % 2 == 1 then
        some character
      else
        none
  | _ => none

/-- The tokens of text outside of code: an escape is a leaf of its own. -/
def textTokens (source : String) (context : Context) (text : String) (span : Span) :
    List Token :=
  let leaf (text : String) (span : Span) : Token :=
    .text text none (rawText source context.quoteDepth span)
  match escapeAt? source context.inCell span.start, text.toList with
  | some escaped, first :: rest =>
      if first = escaped then
        let mark := rawText source context.quoteDepth ⟨span.start - 1, span.start + 1⟩
        if rest.isEmpty then [.other mark]
        else [.other mark, leaf (String.ofList rest) ⟨span.start + 1, span.stop⟩]
      else
        [leaf text span]
  | _, _ => [leaf text span]

/-- What a leaf hands to its container. A code block takes text as it is, an
HTML block takes no HTML, and only an item takes the state of a checkbox. -/
def leafContributions (source : String) (context : Context) (leaf : LeafEvent) (span : Span) :
    List Contribution :=
  let raw := rawText source context.quoteDepth span
  match leaf with
  | .text text =>
      if context.parent = .code then [.codeText text]
      else (textTokens source context text span).map .inline
  | .code text => [.inline (.codespan text raw)]
  | .softBreak | .hardBreak => [.inline (.br raw)]
  | .html html | .inlineHtml html =>
      if context.parent = .htmlBlock then [] else [.inline (.html html)]
  | .rule => [.block (.hr raw) span]
  | .taskMarker checked => if context.parent = .item then [.task checked] else []
  | .inlineMath _ | .displayMath _ | .footnoteReference _ => [.inline (.other raw)]

def isTextLeaf : Token → Bool
  | .text _ none _ => true
  | _ => false

def isRun : Token → Bool
  | .text _ (some _) _ => true
  | _ => false

/-- An inline token joins the text leaf at the end, or stands behind a token
that it does not join. -/
theorem append_inline_cases (tokens : List Token) (token : Token) :
    (∃ front text raw nextText nextRaw, tokens = front ++ [.text text none raw] ∧
        token = .text nextText none nextRaw ∧
        appendInline tokens token = front ++ [.text (text ++ nextText) none (raw ++ nextRaw)]) ∨
      (appendInline tokens token = tokens ++ [token] ∧
        ∀ last ∈ tokens.getLast?, ¬(isTextLeaf last = true ∧ isTextLeaf token = true)) := by
  fun_induction appendInline tokens token with
  | case1 token => simp
  | case2 text raw nextText nextRaw => exact .inl ⟨[], text, raw, nextText, nextRaw, rfl, rfl, rfl⟩
  | case3 head token other =>
      right
      refine ⟨rfl, ?_⟩
      rintro last found ⟨left, right⟩
      obtain rfl : head = last := by simpa using found
      unfold isTextLeaf at left right
      split at left
      · split at right
        · exact other _ _ _ _ rfl rfl rfl
        · cases right
      · cases left
  | case4 head token next more later ih =>
      rcases ih with ⟨front, text, raw, nextText, nextRaw, split, same, joined⟩ | ⟨added, apart⟩
      · left
        exact ⟨head :: front, text, raw, nextText, nextRaw, by rw [split]; rfl, same,
          by rw [joined]; rfl⟩
      · right
        exact ⟨by rw [added]; rfl, by simpa using apart⟩

theorem append_to_run_cases (tokens : List Token) (token : Token) :
    (∃ front text run raw, tokens = front ++ [.text text (some run) raw] ∧
        appendToRun tokens token = front ++
          [.text (text ++ token.raw) (some (appendInline run token)) (raw ++ token.raw)]) ∨
      (appendToRun tokens token = tokens ++ [.text token.raw (some [token]) token.raw] ∧
        ∀ last ∈ tokens.getLast?, isRun last = false) := by
  fun_induction appendToRun tokens token with
  | case1 token => simp
  | case2 text run raw token => exact .inl ⟨[], text, run, raw, rfl, rfl⟩
  | case3 head token other =>
      right
      refine ⟨rfl, ?_⟩
      intro last found
      obtain rfl : head = last := by simpa using found
      unfold isRun
      split
      · exact (other _ _ _ rfl rfl).elim
      · rfl
  | case4 head token next more later ih =>
      rcases ih with ⟨front, text, run, raw, split, joined⟩ | ⟨added, apart⟩
      · left
        exact ⟨head :: front, text, run, raw, by rw [split]; rfl, by rw [joined]; rfl⟩
      · right
        exact ⟨by rw [added]; rfl, by simpa using apart⟩

/-- Adds a contribution to the tokens of a container. In an item, neighbouring
inline tokens form one run; elsewhere only neighbouring text leaves join. -/
def placeToken (parent : ParentKind) (tokens : List Token) : Contribution → List Token
  | .inline token =>
      if parent = .item then appendToRun tokens token else appendInline tokens token
  | .block token _ => tokens ++ [token]
  | .item _ | .head _ | .row _ | .cell _ | .codeText _ | .task _ => tokens

def placedTokens (parent : ParentKind) (contributions : List Contribution) : List Token :=
  contributions.foldl (placeToken parent) []

def itemsOf : List Contribution → List ListItem
  | [] => []
  | .item item :: rest => item :: itemsOf rest
  | _ :: rest => itemsOf rest

def rowsOf : List Contribution → List (List TableCell)
  | [] => []
  | .row cells :: rest => cells :: rowsOf rest
  | _ :: rest => rowsOf rest

def cellsOf : List Contribution → List TableCell
  | [] => []
  | .cell cell :: rest => cell :: cellsOf rest
  | _ :: rest => cellsOf rest

def headOf : List Contribution → Option (List TableCell)
  | [] => none
  | .head cells :: rest => some ((headOf rest).getD cells)
  | _ :: rest => headOf rest

def taskOf : List Contribution → Option Bool
  | [] => none
  | .task checked :: rest => some ((taskOf rest).getD checked)
  | _ :: rest => taskOf rest

def codeTextOf : List Contribution → String
  | [] => ""
  | .codeText text :: rest => text ++ codeTextOf rest
  | _ :: rest => codeTextOf rest

theorem mem_items_of (item : ListItem) (contributions : List Contribution) :
    item ∈ itemsOf contributions ↔ .item item ∈ contributions := by
  induction contributions with
  | nil => simp [itemsOf]
  | cons contribution rest ih => cases contribution <;> simp [itemsOf, ih]

theorem mem_rows_of (cells : List TableCell) (contributions : List Contribution) :
    cells ∈ rowsOf contributions ↔ .row cells ∈ contributions := by
  induction contributions with
  | nil => simp [rowsOf]
  | cons contribution rest ih => cases contribution <;> simp [rowsOf, ih]

theorem mem_cells_of (cell : TableCell) (contributions : List Contribution) :
    cell ∈ cellsOf contributions ↔ .cell cell ∈ contributions := by
  induction contributions with
  | nil => simp [cellsOf]
  | cons contribution rest ih => cases contribution <;> simp [cellsOf, ih]

theorem mem_of_head_of {cells : List TableCell} {contributions : List Contribution}
    (found : headOf contributions = some cells) : .head cells ∈ contributions := by
  induction contributions generalizing cells with
  | nil => cases found
  | cons contribution rest ih =>
      cases contribution with
      | head own =>
          cases last : headOf rest with
          | none => simp_all [headOf]
          | some later =>
              rw [headOf, last] at found
              obtain rfl : later = cells := Option.some.inj found
              exact List.mem_cons_of_mem _ (ih last)
      | _ => exact List.mem_cons_of_mem _ (ih found)

/-- A paragraph, or the image that stands alone in one of the top level. -/
def paragraphToken (options : LexOptions) (parent : ParentKind) (tokens : List Token)
    (raw : String) : Token :=
  match tokens with
  | [.image href title text imageRaw] =>
      if options.imageBlocks && parent = .top then .image href title text imageRaw
      else .paragraph tokens raw
  | _ => .paragraph tokens raw

theorem paragraph_below_top (options : LexOptions) {parent : ParentKind} (below : parent ≠ .top)
    (tokens : List Token) (raw : String) :
    paragraphToken options parent tokens raw = .paragraph tokens raw := by
  unfold paragraphToken
  split
  · simp [below]
  · rfl

/-- What a container hands to the container around it. An item, a row or a cell
whose parent has no place for it becomes a block without a kind. -/
def containerContribution (source : String) (options : LexOptions) (context : Context) (tag : Tag)
    (closed : Span) (contributions : List Contribution) : Contribution :=
  let raw := rawText source context.quoteDepth closed
  let tokens := placedTokens (parentKind tag) contributions
  match tag with
  | .paragraph => .block (paragraphToken options context.parent tokens raw) closed
  | .heading level => .block (.heading level.rank tokens raw) closed
  | .blockquote => .block (.blockquote tokens raw) closed
  | .codeBlock kind =>
      .block (.code (FrameKind.language kind)
        (Builder.dropFinalNewline (codeTextOf contributions)) raw) closed
  | .htmlBlock => .block (.html raw) closed
  | .list first =>
      .block (.list first.isSome (first.getD 1) (itemsOf contributions) raw) closed
  | .item =>
      if context.parent = .list then .item ⟨taskOf contributions, tokens, raw⟩
      else .block (.other raw) closed
  | .table =>
      .block (.table ((headOf contributions).getD []) (rowsOf contributions) raw) closed
  | .tableHead =>
      if context.parent = .table then .head (cellsOf contributions)
      else .block (.other raw) closed
  | .tableRow =>
      if context.parent = .table then .row (cellsOf contributions)
      else .block (.other raw) closed
  | .tableCell =>
      if context.parent = .cells then .cell ⟨tokens, raw⟩
      else .block (.other raw) closed
  | .emphasis => .inline (.em tokens raw)
  | .strong => .inline (.strong tokens raw)
  | .strikethrough => .inline (.del tokens raw)
  | .link destination title => .inline (.link destination (Text.nonEmpty title) tokens raw)
  | .image destination title =>
      .inline (.image destination (Text.nonEmpty title) (plainText tokens) raw)
  | .footnoteDefinition | .definitionList | .definitionTitle | .definitionBody | .superscript
  | .subscript | .metadata =>
      if context.parent = .inline then .inline (.other raw) else .block (.other raw) closed

mutual

def treeContributions (source : String) (options : LexOptions) (context : Context) :
    EventTree → List Contribution
  | .leaf leaf span => leafContributions source context leaf span
  | .node tag _ children closed =>
      [containerContribution source options context tag closed
        (forestContributions source options (context.inside tag) children)]

def forestContributions (source : String) (options : LexOptions) (context : Context) :
    List EventTree → List Contribution
  | [] => []
  | tree :: rest =>
      treeContributions source options context tree
        ++ forestContributions source options context rest

end

def gapTokens (source : String) (lastBlockEnd : Option Nat) (offset : Nat) : List Token :=
  match lastBlockEnd with
  | none => []
  | some stop =>
      match Text.slice? source stop offset with
      | some gap => if !gap.isEmpty && Text.isBlank gap then [.space gap] else []
      | none => []

theorem gap_tokens_cases (source : String) (lastBlockEnd : Option Nat) (offset : Nat) :
    gapTokens source lastBlockEnd offset = [] ∨
      ∃ gap, gapTokens source lastBlockEnd offset = [.space gap] := by
  unfold gapTokens
  split
  · exact .inl rfl
  · split
    · split
      · exact .inr ⟨_, rfl⟩
      · exact .inl rfl
    · exact .inl rfl

/-- The tokens of the top level, from a place on where the last block ended. -/
def topTokens (source : String) : Option Nat → List Contribution → List Token
  | _, [] => []
  | lastBlockEnd, .inline token :: rest => token :: topTokens source lastBlockEnd rest
  | lastBlockEnd, .block token span :: rest =>
      gapTokens source lastBlockEnd span.start
        ++ token :: topTokens source (some span.stop) rest
  | lastBlockEnd, _ :: rest => topTokens source lastBlockEnd rest

def forestTokens (source : String) (options : LexOptions) (forest : List EventTree) :
    List Token :=
  topTokens source none (forestContributions source options topContext forest)

theorem forest_contributions_append (source : String) (options : LexOptions) (context : Context)
    (first second : List EventTree) :
    forestContributions source options context (first ++ second) =
      forestContributions source options context first
        ++ forestContributions source options context second := by
  induction first with
  | nil => rfl
  | cons tree rest ih =>
      simp only [List.cons_append, forestContributions, ih, List.append_assoc]

end ChatBlocks.ForestTokens
