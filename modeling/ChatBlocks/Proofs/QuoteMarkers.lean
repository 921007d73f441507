import ChatBlocks.Proofs.Concatenation
import ChatBlocks.Proofs.Slices
import ChatBlocks.Proofs.TextLines
import Mathlib.Data.List.Forall2

/-!
# Quote markers are neither doubled nor lost

Some blocks have no form of their own inside a quote and are written as their
source. That source was read with the marker of the quote taken off every line
but the first, and the quote puts a marker before every line of its text. The
two cancel: what is written is the source as it was, behind the one marker that
its first line lacks.
-/

namespace ChatBlocks.QuoteMarkers

open Markdown (LocatedEvent Span Tag)
open Text Slices EventForest ForestTokens BuilderForest TextLines Concatenation

theorem quote_lines_append (first second : String) :
    quoteLines (first ++ "\n" ++ second) = quoteLines first ++ "\n" ++ quoteLines second := by
  rw [quoteLines, lines_append_newline, List.map_append, join_lines_append]
  · rfl
  · simp [BlankText.lines_ne_nil]
  · simp [BlankText.lines_ne_nil]

theorem quote_lines_join {parts : List String} (some_part : parts ≠ []) :
    quoteLines (joinLines parts) = joinLines (parts.map quoteLines) := by
  induction parts with
  | nil => exact absurd rfl some_part
  | cons part rest ih =>
      cases rest with
      | nil => simp only [List.map_cons, List.map_nil, joinLines]
      | cons next more =>
          rw [joinLines, quote_lines_append, ih (List.cons_ne_nil next more)]
          simp only [List.map_cons, joinLines]

def startsMarked (line : List Char) : Bool :=
  quoteMarker.toList.isPrefixOf line

/-- Lines behind the first one that start with the quote marker. Only the last
of them may be empty instead. -/
def continuesMarked : List (List Char) → Bool
  | [] => true
  | [last] => last.isEmpty || startsMarked last
  | line :: next :: rest => startsMarked line && continuesMarked (next :: rest)

/-- One marker is taken off a line and one is put before it. -/
def remark (line : List Char) : String :=
  quoteMarker ++ String.ofList (stripQuoteMarkers 1 line)

theorem remark_marked {line : List Char} (marked : startsMarked line = true) :
    remark line = String.ofList line := by
  obtain ⟨rest, rfl⟩ := List.isPrefixOf_iff_prefix.mp marked
  rw [← String.toList_inj]
  simp [remark, quoteMarker, stripQuoteMarkers, stripQuoteMarker?]

theorem marked_ne_nil {line : List Char} (marked : startsMarked line = true) : line ≠ [] := by
  rintro rfl
  cases marked

/-- What the final line of a text gets: a marker when it is empty, and nothing
when it has one. -/
def closingMarker (rest : List (List Char)) : String :=
  if rest.getLast? = some [] then quoteMarker else ""

theorem remark_lines (front : String) (rest : List (List Char))
    (marked : continuesMarked rest = true) :
    joinLines (front :: rest.map remark) =
      joinLines (front :: rest.map String.ofList) ++ closingMarker rest := by
  induction rest generalizing front with
  | nil => simp [joinLines, closingMarker]
  | cons line more ih =>
      cases more with
      | nil =>
          rw [continuesMarked, Bool.or_eq_true, List.isEmpty_iff] at marked
          rcases marked with rfl | marked
          · simp [joinLines, closingMarker, remark, stripQuoteMarkers, stripQuoteMarker?]
          · simp [joinLines, closingMarker, remark_marked marked, marked_ne_nil marked]
      | cons next others =>
          rw [continuesMarked, Bool.and_eq_true] at marked
          have later := ih (String.ofList line) marked.2
          have closing :
              closingMarker (line :: next :: others) = closingMarker (next :: others) := by
            simp only [closingMarker, List.getLast?_cons_cons]
          calc
            joinLines (front :: (line :: next :: others).map remark) =
                front ++ "\n" ++ joinLines (String.ofList line :: (next :: others).map remark) := by
              rw [List.map_cons, remark_marked marked.1]
              rfl
            _ = front ++ "\n" ++ (joinLines (String.ofList line ::
                  (next :: others).map String.ofList) ++ closingMarker (next :: others)) := by
              rw [later]
            _ = _ := by
              rw [closing, ← String.append_assoc]
              rfl

/-- A source as a quote writes it: behind a marker, and with one more behind a
newline at its end. -/
def quotedSource (text : String) : String :=
  quoteMarker ++ text ++ if text.toList.getLast? = some '\n' then quoteMarker else ""

theorem strip_marker_sublist {line rest : List Char}
    (stripped : stripQuoteMarker? line = some rest) : rest.Sublist line := by
  have kept := List.dropWhile_sublist
    (fun character => character == ' ' || character == '\t') (l := line)
  unfold stripQuoteMarker? at stripped
  split at stripped
  · rename_i behind
    obtain rfl := Option.some.inj stripped
    rw [behind] at kept
    exact (((List.Sublist.refl _).cons _).cons _).trans kept
  · rename_i behind
    obtain rfl := Option.some.inj stripped
    rw [behind] at kept
    exact ((List.Sublist.refl _).cons _).trans kept
  · cases stripped

theorem strip_markers_sublist (depth : Nat) (line : List Char) :
    (stripQuoteMarkers depth line).Sublist line := by
  induction depth generalizing line with
  | zero => exact .refl line
  | succ depth ih =>
      rw [stripQuoteMarkers]
      split
      · rename_i rest stripped
        exact (ih rest).trans (strip_marker_sublist stripped)
      · exact .refl line

theorem quote_single_line {line : List Char} (single : '\n' ∉ line) :
    quoteLines (String.ofList line) = quoteMarker ++ String.ofList line := by
  have one : lines (String.ofList line) = [String.ofList line] :=
    lines_of_no_newline (by rwa [String.toList_ofList])
  rw [quoteLines, one]
  rfl

/-- The marker that is taken off a source and the marker that is put before it
cancel on every line but the first. -/
theorem quote_stripped_lines {text : String}
    (marked : continuesMarked (splitLines text.toList).tail = true) :
    quoteLines (stripContinuationLines 1 text) = quotedSource text := by
  have whole := join_split_lines text.toList
  have single := fun line => @newline_not_mem_line text.toList line
  obtain ⟨first, rest, split⟩ :=
    List.exists_cons_of_ne_nil (BlankText.split_lines_ne_nil text.toList)
  have closing : closingMarker rest =
      if text.toList.getLast? = some '\n' then quoteMarker else "" := by
    simp only [closingMarker, last_line_empty_iff split]
  rw [split] at marked whole single
  rw [List.map_cons, String.ofList_toList] at whole
  have own := quote_single_line (single first List.mem_cons_self)
  have later : ∀ line ∈ rest,
      quoteLines (String.ofList (stripQuoteMarkers 1 line)) = remark line := by
    intro line member
    have newline := single line (List.mem_cons_of_mem _ member)
    exact quote_single_line fun found => newline ((strip_markers_sublist 1 line).subset found)
  have remarked := List.map_congr_left later
  calc
    quoteLines (stripContinuationLines 1 text) =
        joinLines ((quoteMarker ++ String.ofList first) :: rest.map remark) := by
      rw [stripContinuationLines, split]
      simp only [quote_lines_join (List.cons_ne_nil _ _), List.map_cons, own, List.map_map,
        Function.comp_def, remarked]
    _ = quoteMarker ++ joinLines (String.ofList first :: rest.map String.ofList) ++
          closingMarker rest := by
      rw [remark_lines _ rest marked, join_lines_front]
    _ = quotedSource text := by
      rw [whole, closing, quotedSource]

def writtenAsSource : Tag → Bool
  | .blockquote | .table | .htmlBlock | .footnoteDefinition | .definitionList | .definitionTitle
  | .definitionBody | .superscript | .subscript | .metadata => true
  | .paragraph | .heading _ | .codeBlock _ | .list _ | .item | .tableHead | .tableRow | .tableCell
  | .emphasis | .strong | .strikethrough | .link .. | .image .. => false

/-- The range of a rule or of such a container, whatever lies inside it. -/
def sourceSpan? : EventTree → Option Span
  | .leaf .rule span => some span
  | .leaf _ _ => none
  | .node tag _ _ closed => if writtenAsSource tag then some closed else none

/-- A block that is written as its source, where every line of the source behind
the first has the quote's marker. -/
structure QuotedBlock (source : String) (tree : EventTree) (text : String) : Prop where
  slice : ∃ span, sourceSpan? tree = some span ∧ IsSlice source span text
  marked : continuesMarked (splitLines text.toList).tail = true

theorem block_of_source (source : String) (lexOptions : LexOptions) (renderOptions : RenderOptions)
    {context : Context} (parent : context.parent = .block) {tree : EventTree} {span : Span}
    (found : sourceSpan? tree = some span) :
    ∃ token, treeContributions source lexOptions context tree = [.block token span] ∧
      quotedText renderOptions token = rawText source context.quoteDepth span := by
  cases tree with
  | leaf leaf own =>
      cases leaf <;> cases found
      exact ⟨_, rfl, rfl⟩
  | node tag entered children closed =>
      cases tag <;> cases found <;>
        simp [treeContributions, containerContribution, parent, quotedText, Token.raw]

theorem quoted_texts (source : String) (lexOptions : LexOptions) (renderOptions : RenderOptions)
    {children : List EventTree} {texts : List String}
    (quoted : List.Forall₂ (QuotedBlock source) children texts) (tokens : List Token) :
    ((forestContributions source lexOptions (topContext.inside .blockquote) children).foldl
        (placeToken .block) tokens).map (quotedText renderOptions) =
      tokens.map (quotedText renderOptions) ++ texts.map (stripContinuationLines 1) := by
  induction quoted generalizing tokens with
  | nil => simp [forestContributions]
  | @cons tree text children texts block rest ih =>
      obtain ⟨⟨span, found, slice⟩, -⟩ := block
      have parent : (topContext.inside .blockquote).parent = .block := rfl
      obtain ⟨token, own, written⟩ :=
        block_of_source source lexOptions renderOptions parent found
      have raw : rawText source (topContext.inside .blockquote).quoteDepth span =
          stripContinuationLines 1 text := by
        have valid := (slice_eq_some_iff source span.start span.stop text).mpr slice
        rw [rawText, valid]
        rfl
      rw [forestContributions, own, List.singleton_append, List.foldl_cons, ih]
      simp [placeToken, written, raw]

theorem quoted_blocks_marked {source : String} {children : List EventTree} {texts : List String}
    (quoted : List.Forall₂ (QuotedBlock source) children texts) :
    ∀ text ∈ texts, continuesMarked (splitLines text.toList).tail = true := by
  induction quoted with
  | nil => simp
  | cons block rest ih => exact List.forall_mem_cons.mpr ⟨block.marked, ih⟩

theorem quote_text_of_blocks (source : String) (lexOptions : LexOptions)
    (renderOptions : RenderOptions) {children : List EventTree} {texts : List String}
    (some_child : children ≠ []) (quoted : List.Forall₂ (QuotedBlock source) children texts) :
    quoteText renderOptions (placedTokens .block
        (forestContributions source lexOptions (topContext.inside .blockquote) children)) =
      joinLines (texts.map quotedSource) := by
  have some_text : texts ≠ [] := by
    rintro rfl
    exact some_child (List.forall₂_nil_right_iff.mp quoted)
  have stripped : ∀ text ∈ texts,
      quoteLines (stripContinuationLines 1 text) = quotedSource text := by
    intro text member
    exact quote_stripped_lines (quoted_blocks_marked quoted text member)
  have requoted := List.map_congr_left stripped
  rw [quoteText, placedTokens, quoted_texts source lexOptions renderOptions quoted, List.map_nil,
    List.nil_append, quote_lines_join (by simpa using some_text), List.map_map]
  simp only [Function.comp_def, requoted]

theorem depth_of_forest (forest : List EventTree) : depthAfter 0 (forestEvents forest) = 0 := by
  have height := height_push_all (forestEvents forest) (Builder.start "" {})
  rw [push_forest, height_absorb_all] at height
  exact height.symm

/-- A quote of the top level, whatever stands before and behind it, whose
children are blocks that are written as their source: it gives one section, which
holds these sources as they are, each behind one marker, and with a marker more
behind a newline at its end. -/
theorem quoted_sources_keep_markers (source : String) (lexOptions : LexOptions)
    (renderOptions : RenderOptions) (before after : List LocatedEvent)
    (outside : ((Builder.start source lexOptions).pushAll before).stack = [])
    (entered closed : Span) {children : List EventTree} {texts : List String}
    (some_child : children ≠ []) (quoted : List.Forall₂ (QuotedBlock source) children texts) :
    assemble renderOptions (tokensOfEvents source lexOptions
        (before ++ (treeEvents (.node .blockquote entered children closed) ++ after))) =
      assemble renderOptions (tokensOfEvents source lexOptions before) ++
        .markupSection (joinLines (texts.map quotedSource)) ::
          assemble renderOptions (tokensOfEvents source lexOptions after) := by
  have depth : depthAfter 0 before = 0 := by
    have height := height_push_all before (Builder.start source lexOptions)
    rw [outside] at height
    exact height.symm
  let quote : EventTree := .node .blockquote entered children closed
  let tokens := placedTokens .block
    (forestContributions source lexOptions (topContext.inside .blockquote) children)
  have alone : treeEvents quote = forestEvents [quote] := (List.append_nil _).symm
  have forest : forestOf source.utf8ByteSize (before ++ (treeEvents quote ++ after)) =
      forestOf source.utf8ByteSize before ++ ([quote] ++ forestOf source.utf8ByteSize after) := by
    rw [forest_of_append _ _ depth, alone, forest_of_append _ _ (depth_of_forest [quote]),
      forest_of_forest_events]
  have middle : forestTokens source lexOptions [quote] =
      [.blockquote tokens (rawText source 0 closed)] := rfl
  have text : quoteText renderOptions tokens = joinLines (texts.map quotedSource) :=
    quote_text_of_blocks source lexOptions renderOptions some_child quoted
  simp only [assemble, tokens_of_events]
  rw [forest, assembly_forest_tokens_append, assembly_forest_tokens_append, middle, ← text]
  rfl

/-- A quote of two lines, whose source ends with a newline, and a rule inside a
quote. -/
theorem nested_quote_and_rule_keep_markers :
    let source := "> > a\n> > b\n> ---"
    let children : List EventTree :=
      [.node .blockquote ⟨2, 12⟩
          [.node .paragraph ⟨4, 12⟩ [.leaf (.text "a") ⟨4, 5⟩, .leaf .softBreak ⟨5, 6⟩,
            .leaf (.text "b") ⟨10, 11⟩] ⟨4, 12⟩] ⟨2, 12⟩,
        .leaf .rule ⟨14, 17⟩]
    let texts := ["> a\n> > b\n", "---"]
    let before : List LocatedEvent := [⟨.rule, ⟨0, 0⟩⟩]
    let after : List LocatedEvent := [⟨.leave, ⟨3, 1⟩⟩]
    ((Builder.start source {}).pushAll before).stack = [] ∧ children ≠ [] ∧
      List.Forall₂ (QuotedBlock source) children texts ∧
      assemble {} (tokensOfEvents source {}
          (before ++ (treeEvents (.node .blockquote ⟨0, 17⟩ children ⟨0, 17⟩) ++ after))) =
        assemble {} (tokensOfEvents source {} before) ++
          .markupSection "> > a\n> > b\n> \n> ---" ::
            assemble {} (tokensOfEvents source {} after) := by
  intro source children texts before after
  have quoted : List.Forall₂ (QuotedBlock source) children texts :=
    .cons ⟨⟨⟨2, 12⟩, rfl, (slice_eq_some_iff _ _ _ _).mp (by decide)⟩, by decide⟩
      (.cons ⟨⟨⟨14, 17⟩, rfl, (slice_eq_some_iff _ _ _ _).mp (by decide)⟩, by decide⟩ .nil)
  have text : joinLines (texts.map quotedSource) = "> > a\n> > b\n> \n> ---" := by decide
  have assembled := quoted_sources_keep_markers source {} {} before after rfl ⟨0, 17⟩ ⟨0, 17⟩
    (by simp [children]) quoted
  rw [text] at assembled
  exact ⟨rfl, by simp [children], quoted, assembled⟩

end ChatBlocks.QuoteMarkers
