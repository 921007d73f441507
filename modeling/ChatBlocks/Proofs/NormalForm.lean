import ChatBlocks.Proofs.BuilderForest
import Mathlib.Data.List.Chain

/-!
# The normal form of token trees

The builder returns trees of one form, whatever events it was given. The form is
a condition on each sequence of a tree by itself: text tokens with a run stand
only in list items and spell out their run, text leaves never touch below the
top level, white space stands only at the top level, and the fields of lists,
links, images and code blocks hold no value that stands for an absent one.
-/

namespace ChatBlocks.NormalForm

open Markdown (LocatedEvent Span Tag)
open EventForest ForestTokens BuilderForest

inductive Place where
  | top
  | item
  | run
  /-- In a token other than a run, or in a table cell. -/
  | inside
  deriving DecidableEq, Repr

mutual

def sequencesInToken : Token → List (Place × List Token)
  | .text _ none _ => []
  | .text _ (some run) _ => (.run, run) :: sequencesIn run
  | .link _ _ tokens _ => (.inside, tokens) :: sequencesIn tokens
  | .strong tokens _ => (.inside, tokens) :: sequencesIn tokens
  | .em tokens _ => (.inside, tokens) :: sequencesIn tokens
  | .del tokens _ => (.inside, tokens) :: sequencesIn tokens
  | .heading _ tokens _ => (.inside, tokens) :: sequencesIn tokens
  | .paragraph tokens _ => (.inside, tokens) :: sequencesIn tokens
  | .blockquote tokens _ => (.inside, tokens) :: sequencesIn tokens
  | .list _ _ items _ => sequencesInItems items
  | .table header rows _ => sequencesInCells header ++ sequencesInRows rows
  | .image .. | .codespan .. | .br .. | .code .. | .hr .. | .space .. | .html .. | .other .. => []

def sequencesIn : List Token → List (Place × List Token)
  | [] => []
  | token :: rest => sequencesInToken token ++ sequencesIn rest

def sequencesInItems : List ListItem → List (Place × List Token)
  | [] => []
  | ⟨_, tokens, _⟩ :: rest => (.item, tokens) :: (sequencesIn tokens ++ sequencesInItems rest)

def sequencesInCells : List TableCell → List (Place × List Token)
  | [] => []
  | ⟨tokens, _⟩ :: rest => (.inside, tokens) :: (sequencesIn tokens ++ sequencesInCells rest)

def sequencesInRows : List (List TableCell) → List (Place × List Token)
  | [] => []
  | cells :: rest => sequencesInCells cells ++ sequencesInRows rest

end

mutual

theorem place_in_token_ne_top : ∀ (token : Token), ∀ sequence ∈ sequencesInToken token,
    sequence.1 ≠ .top
  | .text _ none _ => by simp [sequencesInToken]
  | .text _ (some run) _ => by simpa [sequencesInToken] using place_ne_top run
  | .link _ _ tokens _ => by simpa [sequencesInToken] using place_ne_top tokens
  | .strong tokens _ => by simpa [sequencesInToken] using place_ne_top tokens
  | .em tokens _ => by simpa [sequencesInToken] using place_ne_top tokens
  | .del tokens _ => by simpa [sequencesInToken] using place_ne_top tokens
  | .heading _ tokens _ => by simpa [sequencesInToken] using place_ne_top tokens
  | .paragraph tokens _ => by simpa [sequencesInToken] using place_ne_top tokens
  | .blockquote tokens _ => by simpa [sequencesInToken] using place_ne_top tokens
  | .list _ _ items _ => place_in_items_ne_top items
  | .table header rows _ =>
      List.forall_mem_append.mpr ⟨place_in_cells_ne_top header, place_in_rows_ne_top rows⟩
  | .image .. | .codespan .. | .br .. | .code .. | .hr .. | .space .. | .html .. | .other .. => by
      simp [sequencesInToken]

theorem place_ne_top : ∀ (tokens : List Token), ∀ sequence ∈ sequencesIn tokens,
    sequence.1 ≠ .top
  | [] => by simp [sequencesIn]
  | token :: rest =>
      List.forall_mem_append.mpr ⟨place_in_token_ne_top token, place_ne_top rest⟩

theorem place_in_items_ne_top : ∀ (items : List ListItem), ∀ sequence ∈ sequencesInItems items,
    sequence.1 ≠ .top
  | [] => by simp [sequencesInItems]
  | ⟨_, tokens, _⟩ :: rest => List.forall_mem_cons.mpr ⟨by simp,
      List.forall_mem_append.mpr ⟨place_ne_top tokens, place_in_items_ne_top rest⟩⟩

theorem place_in_cells_ne_top : ∀ (cells : List TableCell), ∀ sequence ∈ sequencesInCells cells,
    sequence.1 ≠ .top
  | [] => by simp [sequencesInCells]
  | ⟨tokens, _⟩ :: rest => List.forall_mem_cons.mpr ⟨by simp,
      List.forall_mem_append.mpr ⟨place_ne_top tokens, place_in_cells_ne_top rest⟩⟩

theorem place_in_rows_ne_top : ∀ (rows : List (List TableCell)),
    ∀ sequence ∈ sequencesInRows rows, sequence.1 ≠ .top
  | [] => by simp [sequencesInRows]
  | cells :: rest =>
      List.forall_mem_append.mpr ⟨place_in_cells_ne_top cells, place_in_rows_ne_top rest⟩

end

def sequencesFrom (place : Place) (tokens : List Token) : List (Place × List Token) :=
  (place, tokens) :: sequencesIn tokens

def isText (token : Token) : Bool := isTextLeaf token || isRun token

def isSpace : Token → Bool
  | .space _ => true
  | _ => false

def Trimmed (text : String) : Prop :=
  text ≠ "" ∧ (∀ first ∈ text.toList.head?, Text.isWhiteSpace first = false) ∧
    ∀ last ∈ text.toList.getLast?, Text.isWhiteSpace last = false

/-- What the fields of a token say, apart from the sequences inside it. -/
def NormalFields : Token → Prop
  | .text text (some run) raw =>
      run ≠ [] ∧ text = Text.concat (run.map Token.raw) ∧ raw = Text.concat (run.map Token.raw)
  | .list ordered start _ _ => ordered = false → start = 1
  | .link _ title _ _ => title ≠ some ""
  | .image _ title _ _ => title ≠ some ""
  | .code lang _ _ => ∀ name ∈ lang, Trimmed name
  | _ => True

/-- No two neighbours both pass a test. -/
def Apart (test : Token → Bool) (tokens : List Token) : Prop :=
  tokens.IsChain fun first second => ¬(test first = true ∧ test second = true)

structure NormalSequence (place : Place) (tokens : List Token) : Prop where
  fields : ∀ token ∈ tokens, NormalFields token
  runs_in_items : place ≠ .item → ∀ token ∈ tokens, isRun token = false
  texts_apart : place = .item → Apart isText tokens
  no_leaf_in_items : place = .item → ∀ token ∈ tokens, isTextLeaf token = false
  leaves_apart : place ≠ .top → Apart isTextLeaf tokens
  spaces_at_top : place ≠ .top → ∀ token ∈ tokens, isSpace token = false

def NormalSequences (sequences : List (Place × List Token)) : Prop :=
  ∀ sequence ∈ sequences, NormalSequence sequence.1 sequence.2

def IsNormal (tokens : List Token) : Prop :=
  NormalSequences (sequencesFrom .top tokens)

@[simp] theorem normal_sequences_nil : NormalSequences [] := by
  simp [NormalSequences]

@[simp] theorem normal_sequences_cons (sequence : Place × List Token)
    (rest : List (Place × List Token)) :
    NormalSequences (sequence :: rest) ↔
      NormalSequence sequence.1 sequence.2 ∧ NormalSequences rest := by
  simp [NormalSequences]

@[simp] theorem normal_sequences_append (first second : List (Place × List Token)) :
    NormalSequences (first ++ second) ↔ NormalSequences first ∧ NormalSequences second := by
  simp [NormalSequences, or_imp, forall_and]

theorem normal_sequences_in_iff (tokens : List Token) :
    NormalSequences (sequencesIn tokens) ↔
      ∀ token ∈ tokens, NormalSequences (sequencesInToken token) := by
  induction tokens with
  | nil => simp [sequencesIn]
  | cons token rest ih => simp [sequencesIn, ih]

theorem normal_items_iff (items : List ListItem) :
    NormalSequences (sequencesInItems items) ↔
      ∀ item ∈ items, NormalSequences (sequencesFrom .item item.tokens) := by
  induction items with
  | nil => simp [sequencesInItems]
  | cons item rest ih =>
      cases item
      simp [sequencesInItems, sequencesFrom, ih, and_assoc]

theorem normal_cells_iff (cells : List TableCell) :
    NormalSequences (sequencesInCells cells) ↔
      ∀ cell ∈ cells, NormalSequences (sequencesFrom .inside cell.tokens) := by
  induction cells with
  | nil => simp [sequencesInCells]
  | cons cell rest ih =>
      cases cell
      simp [sequencesInCells, sequencesFrom, ih, and_assoc]

theorem normal_rows_iff (rows : List (List TableCell)) :
    NormalSequences (sequencesInRows rows) ↔
      ∀ cells ∈ rows, NormalSequences (sequencesInCells cells) := by
  induction rows with
  | nil => simp [sequencesInRows]
  | cons cells rest ih => simp [sequencesInRows, ih]

theorem apart_append_singleton {test : Token → Bool} {tokens : List Token} {token : Token}
    (apart : Apart test tokens)
    (neighbour : ∀ last ∈ tokens.getLast?, ¬(test last = true ∧ test token = true)) :
    Apart test (tokens ++ [token]) := by
  refine List.isChain_append.mpr ⟨apart, List.isChain_singleton token, ?_⟩
  intro last found next head
  obtain rfl : token = next := by simpa using head
  exact neighbour last found

/-- The last token may be replaced by one that the test does not tell from it. -/
theorem apart_replace_last {test : Token → Bool} {front : List Token} {last other : Token}
    (same : test last = test other) (apart : Apart test (front ++ [last])) :
    Apart test (front ++ [other]) := by
  obtain ⟨before, -, neighbours⟩ := List.isChain_append.mp apart
  refine apart_append_singleton before ?_
  intro previous found
  rw [← same]
  exact neighbours previous found last rfl

/-- A token that stands somewhere in a tree and is no space between blocks. -/
structure NormalToken (token : Token) : Prop where
  fields : NormalFields token
  no_space : isSpace token = false
  inner : NormalSequences (sequencesInToken token)

structure InlineNormal (tokens : List Token) : Prop where
  normal : ∀ token ∈ tokens, NormalToken token
  no_run : ∀ token ∈ tokens, isRun token = false
  apart : Apart isTextLeaf tokens

structure ItemNormal (tokens : List Token) : Prop where
  normal : ∀ token ∈ tokens, NormalToken token
  no_leaf : ∀ token ∈ tokens, isTextLeaf token = false
  apart : Apart isText tokens

theorem normal_tokens_iff (tokens : List Token) :
    (∀ token ∈ tokens, NormalToken token) ↔
      (∀ token ∈ tokens, NormalFields token) ∧ (∀ token ∈ tokens, isSpace token = false) ∧
        NormalSequences (sequencesIn tokens) := by
  rw [normal_sequences_in_iff]
  constructor
  · intro normal
    exact ⟨fun token member => (normal token member).fields,
      fun token member => (normal token member).no_space,
      fun token member => (normal token member).inner⟩
  · rintro ⟨fields, noSpace, inner⟩ token member
    exact ⟨fields token member, noSpace token member, inner token member⟩

theorem normal_sequences_from_iff (place : Place) (inline : place = .run ∨ place = .inside)
    (tokens : List Token) :
    NormalSequences (sequencesFrom place tokens) ↔ InlineNormal tokens := by
  have notItem : place ≠ .item := by rcases inline with rfl | rfl <;> decide
  have below : place ≠ .top := by rcases inline with rfl | rfl <;> decide
  rw [sequencesFrom, normal_sequences_cons]
  constructor
  · rintro ⟨own, inner⟩
    exact ⟨(normal_tokens_iff tokens).mpr ⟨own.fields, own.spaces_at_top below, inner⟩,
      own.runs_in_items notItem, own.leaves_apart below⟩
  · rintro ⟨normal, noRun, apart⟩
    obtain ⟨fields, noSpace, inner⟩ := (normal_tokens_iff tokens).mp normal
    refine ⟨⟨fields, fun _ => noRun, ?_, ?_, fun _ => apart, fun _ => noSpace⟩, inner⟩ <;>
      exact fun item => absurd item notItem

theorem normal_sequences_item_iff (tokens : List Token) :
    NormalSequences (sequencesFrom .item tokens) ↔ ItemNormal tokens := by
  rw [sequencesFrom, normal_sequences_cons]
  constructor
  · rintro ⟨own, inner⟩
    have noSpace := own.spaces_at_top (by simp)
    exact ⟨(normal_tokens_iff tokens).mpr ⟨own.fields, noSpace, inner⟩, own.no_leaf_in_items rfl,
      own.texts_apart rfl⟩
  · rintro ⟨normal, noLeaf, apart⟩
    obtain ⟨fields, noSpace, inner⟩ := (normal_tokens_iff tokens).mp normal
    have leaves : Apart isTextLeaf tokens := by
      refine apart.imp fun first second texts both => texts ?_
      simp [isText, both.1, both.2]
    exact ⟨⟨fields, fun other => absurd rfl other, fun _ => apart, fun _ => noLeaf,
      fun _ => leaves, fun _ => noSpace⟩, inner⟩

theorem normal_text_leaf (text raw : String) : NormalToken (.text text none raw) :=
  ⟨trivial, rfl, normal_sequences_nil⟩

theorem normal_run {run : List Token} {text raw : String} (inline : InlineNormal run)
    (nonempty : run ≠ []) (textSpelled : text = Text.concat (run.map Token.raw))
    (rawSpelled : raw = Text.concat (run.map Token.raw)) :
    NormalToken (.text text (some run) raw) :=
  ⟨⟨nonempty, textSpelled, rawSpelled⟩, rfl,
    (normal_sequences_from_iff .run (.inl rfl) run).mpr inline⟩

theorem InlineNormal.nil : InlineNormal [] :=
  ⟨by simp, by simp, List.isChain_nil⟩

theorem InlineNormal.singleton {token : Token} (normal : NormalToken token)
    (noRun : isRun token = false) : InlineNormal [token] :=
  ⟨by simpa using normal, by simpa using noRun, List.isChain_singleton token⟩

theorem InlineNormal.add_inline {tokens : List Token} {token : Token}
    (before : InlineNormal tokens) (normal : NormalToken token) (noRun : isRun token = false) :
    InlineNormal (appendInline tokens token) := by
  obtain ⟨allNormal, noRuns, apart⟩ := before
  rcases append_inline_cases tokens token with
    ⟨front, text, raw, nextText, nextRaw, rfl, rfl, joined⟩ | ⟨added, neighbour⟩
  -- Two leaves are joined into one, which takes the place of the first.
  · simp only [List.forall_mem_append, List.forall_mem_singleton] at allNormal noRuns
    rw [joined]
    refine ⟨?_, ?_, apart_replace_last (by rfl) apart⟩ <;>
      simp only [List.forall_mem_append, List.forall_mem_singleton]
    · exact ⟨allNormal.1, normal_text_leaf _ _⟩
    · exact ⟨noRuns.1, rfl⟩
  · rw [added]
    refine ⟨?_, ?_, apart_append_singleton apart neighbour⟩ <;>
      simp only [List.forall_mem_append, List.forall_mem_singleton]
    · exact ⟨allNormal, normal⟩
    · exact ⟨noRuns, noRun⟩

theorem InlineNormal.add_block {tokens : List Token} {token : Token}
    (before : InlineNormal tokens) (normal : NormalToken token) (noText : isText token = false) :
    InlineNormal (tokens ++ [token]) := by
  simp only [isText, Bool.or_eq_false_iff] at noText
  refine ⟨?_, ?_, apart_append_singleton before.apart (by simp [noText.1])⟩ <;>
    simp only [List.forall_mem_append, List.forall_mem_singleton]
  · exact ⟨before.normal, normal⟩
  · exact ⟨before.no_run, noText.2⟩

theorem ItemNormal.nil : ItemNormal [] :=
  ⟨by simp, by simp, List.isChain_nil⟩

theorem concat_append (first second : List String) :
    Text.concat (first ++ second) = Text.concat first ++ Text.concat second := by
  induction first with
  | nil => simp [Text.concat]
  | cons text rest ih => simp only [List.cons_append, Text.concat, ih, String.append_assoc]

@[simp] theorem concat_singleton (text : String) : Text.concat [text] = text := by
  simp [Text.concat]

/-- Joined or not, an inline token adds its source at the end. -/
theorem concat_raws_append_inline (tokens : List Token) (token : Token) :
    Text.concat ((appendInline tokens token).map Token.raw) =
      Text.concat (tokens.map Token.raw) ++ token.raw := by
  rcases append_inline_cases tokens token with
    ⟨front, text, raw, nextText, nextRaw, rfl, rfl, joined⟩ | ⟨added, -⟩
  · rw [joined]
    simp [concat_append, Token.raw, String.append_assoc]
  · rw [added]
    simp [concat_append]

theorem append_inline_ne_nil (tokens : List Token) (token : Token) :
    appendInline tokens token ≠ [] := by
  rcases append_inline_cases tokens token with
    ⟨front, text, raw, nextText, nextRaw, -, -, joined⟩ | ⟨added, -⟩
  · simp [joined]
  · simp [added]

theorem ItemNormal.add_inline {tokens : List Token} {token : Token} (before : ItemNormal tokens)
    (normal : NormalToken token) (noRun : isRun token = false) :
    ItemNormal (appendToRun tokens token) := by
  obtain ⟨allNormal, noLeaves, apart⟩ := before
  rcases append_to_run_cases tokens token with ⟨front, text, run, raw, rfl, grown⟩ | ⟨added, last⟩
  -- The run grows: its text and its source are spelled out as far as it went.
  · simp only [List.forall_mem_append, List.forall_mem_singleton] at allNormal noLeaves
    obtain ⟨⟨nonempty, textSpelled, rawSpelled⟩, -, inner⟩ := allNormal.2
    have inline := (normal_sequences_from_iff .run (.inl rfl) run).mp inner
    have spelled := concat_raws_append_inline run token
    rw [grown]
    refine ⟨?_, ?_, apart_replace_last (by rfl) apart⟩ <;>
      simp only [List.forall_mem_append, List.forall_mem_singleton]
    · exact ⟨allNormal.1, normal_run (inline.add_inline normal noRun) (append_inline_ne_nil _ _)
        (by rw [spelled, textSpelled]) (by rw [spelled, rawSpelled])⟩
    · exact ⟨noLeaves.1, rfl⟩
  -- A run begins, since no run is at the end and leaves do not stand in items.
  · have neighbour : ∀ other ∈ tokens.getLast?, ¬(isText other = true ∧
        isText (.text token.raw (some [token]) token.raw) = true) := by
      intro other found
      simp [isText, last other found, noLeaves other (List.mem_of_getLast? found)]
    rw [added]
    refine ⟨?_, ?_, apart_append_singleton apart neighbour⟩ <;>
      simp only [List.forall_mem_append, List.forall_mem_singleton]
    · exact ⟨allNormal, normal_run (.singleton normal noRun) (by simp) (by simp) (by simp)⟩
    · exact ⟨noLeaves, rfl⟩

theorem ItemNormal.add_block {tokens : List Token} {token : Token} (before : ItemNormal tokens)
    (normal : NormalToken token) (noText : isText token = false) : ItemNormal (tokens ++ [token]) := by
  refine ⟨?_, ?_, apart_append_singleton before.apart (by simp [noText])⟩ <;>
    simp only [List.forall_mem_append, List.forall_mem_singleton]
  · exact ⟨before.normal, normal⟩
  · exact ⟨before.no_leaf, (Bool.or_eq_false_iff.mp noText).1⟩

def NormalContribution : Contribution → Prop
  | .inline token => NormalToken token ∧ isRun token = false
  | .block token _ => NormalToken token ∧ isText token = false
  | .item item => ItemNormal item.tokens
  | .head cells | .row cells => ∀ cell ∈ cells, InlineNormal cell.tokens
  | .cell cell => InlineNormal cell.tokens
  | .codeText _ | .task _ => True

theorem placed_inline_normal {parent : ParentKind} (noItem : parent ≠ .item)
    (contributions : List Contribution) (tokens : List Token) (before : InlineNormal tokens)
    (normal : ∀ contribution ∈ contributions, NormalContribution contribution) :
    InlineNormal (contributions.foldl (placeToken parent) tokens) := by
  induction contributions generalizing tokens with
  | nil => exact before
  | cons contribution rest ih =>
      obtain ⟨own, later⟩ := List.forall_mem_cons.mp normal
      refine ih _ ?_ later
      cases contribution with
      | inline token =>
          rw [placeToken, if_neg noItem]
          exact before.add_inline own.1 own.2
      | block token span => exact before.add_block own.1 own.2
      | _ => exact before

theorem placed_item_normal (contributions : List Contribution) (tokens : List Token)
    (before : ItemNormal tokens)
    (normal : ∀ contribution ∈ contributions, NormalContribution contribution) :
    ItemNormal (contributions.foldl (placeToken .item) tokens) := by
  induction contributions generalizing tokens with
  | nil => exact before
  | cons contribution rest ih =>
      obtain ⟨own, later⟩ := List.forall_mem_cons.mp normal
      refine ih _ ?_ later
      cases contribution with
      | inline token => exact before.add_inline own.1 own.2
      | block token span => exact before.add_block own.1 own.2
      | _ => exact before

theorem normal_of_leaf_token {token : Token} (fields : NormalFields token)
    (noSpace : isSpace token = false) (leaf : sequencesInToken token = []) : NormalToken token :=
  ⟨fields, noSpace, by rw [leaf]; exact normal_sequences_nil⟩

theorem normal_of_inline_tokens {token : Token} {tokens : List Token} (fields : NormalFields token)
    (noSpace : isSpace token = false)
    (holds : sequencesInToken token = sequencesFrom .inside tokens) (inline : InlineNormal tokens) :
    NormalToken token :=
  ⟨fields, noSpace, by rw [holds]; exact (normal_sequences_from_iff .inside (.inr rfl) tokens).mpr inline⟩

theorem normal_list {ordered : Bool} {start : UInt64} {items : List ListItem} {raw : String}
    (fields : ordered = false → start = 1) (normal : ∀ item ∈ items, ItemNormal item.tokens) :
    NormalToken (.list ordered start items raw) :=
  ⟨fields, rfl, (normal_items_iff items).mpr fun item member =>
    (normal_sequences_item_iff item.tokens).mpr (normal item member)⟩

theorem normal_cells {cells : List TableCell} (normal : ∀ cell ∈ cells, InlineNormal cell.tokens) :
    NormalSequences (sequencesInCells cells) :=
  (normal_cells_iff cells).mpr fun cell member =>
    (normal_sequences_from_iff .inside (.inr rfl) cell.tokens).mpr (normal cell member)

theorem normal_table {header : List TableCell} {rows : List (List TableCell)} {raw : String}
    (headerNormal : ∀ cell ∈ header, InlineNormal cell.tokens)
    (rowsNormal : ∀ cells ∈ rows, ∀ cell ∈ cells, InlineNormal cell.tokens) :
    NormalToken (.table header rows raw) :=
  ⟨trivial, rfl, (normal_sequences_append _ _).mpr ⟨normal_cells headerNormal,
    (normal_rows_iff rows).mpr fun cells member => normal_cells (rowsNormal cells member)⟩⟩

theorem non_empty_ne (text : String) : Text.nonEmpty text ≠ some "" := by
  unfold Text.nonEmpty
  split
  · simp
  · rename_i visible
    intro empty
    obtain rfl := Option.some.inj empty
    exact visible rfl

theorem head_drop_while (test : Char → Bool) (characters : List Char) :
    ∀ first ∈ (characters.dropWhile test).head?, test first = false := by
  intro first found
  have rejected := List.head?_dropWhile_not test characters
  rw [found] at rejected
  simpa using rejected

theorem trimmed_of_trim {text : String} (visible : Text.trim text ≠ "") :
    Trimmed (Text.trim text) := by
  have characters : (Text.trim text).toList =
      Text.dropEndWhile Text.isWhiteSpace (text.toList.dropWhile Text.isWhiteSpace) := by
    rw [Text.trim, String.toList_ofList]
  refine ⟨visible, ?_, ?_⟩
  · intro first found
    rw [characters] at found
    -- Dropping at the end leaves a front part, and so the first character.
    obtain ⟨dropped, split⟩ : (Text.dropEndWhile Text.isWhiteSpace
        (text.toList.dropWhile Text.isWhiteSpace)) <+: text.toList.dropWhile Text.isWhiteSpace := by
      have suffix := List.dropWhile_suffix Text.isWhiteSpace
        (l := (text.toList.dropWhile Text.isWhiteSpace).reverse)
      have front := List.reverse_prefix.mpr suffix
      rwa [List.reverse_reverse] at front
    refine head_drop_while Text.isWhiteSpace text.toList first ?_
    rw [← split, List.head?_append, found]
    rfl
  · intro last found
    rw [characters, Text.dropEndWhile, List.getLast?_reverse] at found
    exact head_drop_while _ _ last found

theorem language_trimmed (kind : Markdown.CodeBlockKind) :
    ∀ name ∈ FrameKind.language kind, Trimmed name := by
  intro name found
  cases kind with
  | indented => cases found
  | fenced info =>
      simp only [FrameKind.language, Text.nonEmpty] at found
      split at found
      · cases found
      · rename_i visible
        obtain rfl := Option.some.inj found
        exact trimmed_of_trim fun empty => visible (by rw [empty]; rfl)

theorem normal_paragraph (options : LexOptions) (parent : ParentKind) {tokens : List Token}
    {raw : String} (inline : InlineNormal tokens) :
    NormalToken (paragraphToken options parent tokens raw) ∧
      isText (paragraphToken options parent tokens raw) = false := by
  have paragraph : NormalToken (.paragraph tokens raw) :=
    normal_of_inline_tokens trivial rfl rfl inline
  unfold paragraphToken
  split
  · split
    · exact ⟨inline.normal _ List.mem_cons_self, rfl⟩
    · exact ⟨paragraph, rfl⟩
  · exact ⟨paragraph, rfl⟩

theorem normal_other (raw : String) (span : Span) : NormalContribution (.block (.other raw) span) :=
  ⟨normal_of_leaf_token trivial rfl rfl, rfl⟩

theorem normal_container (source : String) (options : LexOptions) (context : Context) (tag : Tag)
    (closed : Span) (contributions : List Contribution)
    (normal : ∀ contribution ∈ contributions, NormalContribution contribution) :
    NormalContribution (containerContribution source options context tag closed contributions) := by
  have inline : parentKind tag ≠ .item → InlineNormal (placedTokens (parentKind tag) contributions) :=
    fun noItem => placed_inline_normal noItem contributions [] .nil normal
  have holds : ∀ token : Token, NormalFields token → parentKind tag ≠ .item →
      isSpace token = false → sequencesInToken token =
        sequencesFrom .inside (placedTokens (parentKind tag) contributions) → NormalToken token :=
    fun token fields noItem noSpace inside =>
      normal_of_inline_tokens fields noSpace inside (inline noItem)
  have cells : ∀ cell ∈ cellsOf contributions, InlineNormal cell.tokens :=
    fun cell member => normal _ ((mem_cells_of cell contributions).mp member)
  cases tag with
  | paragraph => exact normal_paragraph options context.parent (inline (by simp [parentKind]))
  | heading level => exact ⟨holds _ trivial (by simp [parentKind]) rfl rfl, rfl⟩
  | blockquote => exact ⟨holds _ trivial (by simp [parentKind]) rfl rfl, rfl⟩
  | codeBlock kind => exact ⟨normal_of_leaf_token (language_trimmed kind) rfl rfl, rfl⟩
  | htmlBlock => exact ⟨normal_of_leaf_token trivial rfl rfl, rfl⟩
  | list first =>
      refine ⟨normal_list ?_ fun item member =>
        normal _ ((mem_items_of item contributions).mp member), rfl⟩
      intro unordered
      cases first with
      | none => rfl
      | some number => cases unordered
  | item =>
      rw [containerContribution]
      split
      · exact placed_item_normal contributions [] .nil normal
      · exact normal_other _ closed
  | table =>
      refine ⟨normal_table ?_ fun cells member =>
        normal _ ((mem_rows_of cells contributions).mp member), rfl⟩
      cases header : headOf contributions with
      | none => simp
      | some cells => exact normal _ (mem_of_head_of header)
  | tableHead =>
      rw [containerContribution]
      split
      · exact cells
      · exact normal_other _ closed
  | tableRow =>
      rw [containerContribution]
      split
      · exact cells
      · exact normal_other _ closed
  | tableCell =>
      rw [containerContribution]
      split
      · exact inline (by simp [parentKind])
      · exact normal_other _ closed
  | emphasis => exact ⟨holds _ trivial (by simp [parentKind]) rfl rfl, rfl⟩
  | strong => exact ⟨holds _ trivial (by simp [parentKind]) rfl rfl, rfl⟩
  | strikethrough => exact ⟨holds _ trivial (by simp [parentKind]) rfl rfl, rfl⟩
  | link destination title =>
      exact ⟨holds _ (non_empty_ne title) (by simp [parentKind]) rfl rfl, rfl⟩
  | image destination title => exact ⟨normal_of_leaf_token (non_empty_ne title) rfl rfl, rfl⟩
  | footnoteDefinition | definitionList | definitionTitle | definitionBody | superscript
  | subscript | metadata =>
      rw [containerContribution]
      split
      · exact ⟨normal_of_leaf_token trivial rfl rfl, rfl⟩
      · exact normal_other _ closed

theorem normal_text_tokens (source : String) (context : Context) (text : String) (span : Span) :
    ∀ token ∈ textTokens source context text span, NormalToken token ∧ isRun token = false := by
  have escape : ∀ raw, NormalToken (.other raw) ∧ isRun (.other raw) = false :=
    fun raw => ⟨normal_of_leaf_token trivial rfl rfl, rfl⟩
  have leaf : ∀ text raw, NormalToken (.text text none raw) ∧ isRun (.text text none raw) = false :=
    fun text raw => ⟨normal_text_leaf text raw, rfl⟩
  unfold textTokens
  split
  · split
    · split
      · exact List.forall_mem_singleton.mpr (escape _)
      · exact List.forall_mem_cons.mpr ⟨escape _, List.forall_mem_singleton.mpr (leaf _ _)⟩
    · exact List.forall_mem_singleton.mpr (leaf _ _)
  · exact List.forall_mem_singleton.mpr (leaf _ _)

theorem normal_leaf (source : String) (context : Context) (leaf : LeafEvent) (span : Span) :
    ∀ contribution ∈ leafContributions source context leaf span,
      NormalContribution contribution := by
  have inline : ∀ token, NormalFields token → isSpace token = false →
      sequencesInToken token = [] → isRun token = false →
      ∀ contribution ∈ [Contribution.inline token], NormalContribution contribution :=
    fun token fields noSpace holds noRun =>
      List.forall_mem_singleton.mpr ⟨normal_of_leaf_token fields noSpace holds, noRun⟩
  cases leaf with
  | text text =>
      rw [leafContributions]
      split
      · exact List.forall_mem_singleton.mpr trivial
      · exact List.forall_mem_map.mpr (normal_text_tokens source context text span)
  | html html | inlineHtml html =>
      rw [leafContributions]
      split
      · simp
      · exact inline _ trivial rfl rfl rfl
  | taskMarker checked =>
      rw [leafContributions]
      split
      · exact List.forall_mem_singleton.mpr trivial
      · simp
  | rule => exact List.forall_mem_singleton.mpr ⟨normal_of_leaf_token trivial rfl rfl, rfl⟩
  | code text => exact inline _ trivial rfl rfl rfl
  | inlineMath text => exact inline _ trivial rfl rfl rfl
  | displayMath text => exact inline _ trivial rfl rfl rfl
  | footnoteReference label => exact inline _ trivial rfl rfl rfl
  | softBreak => exact inline _ trivial rfl rfl rfl
  | hardBreak => exact inline _ trivial rfl rfl rfl

mutual

theorem normal_tree (source : String) (options : LexOptions) : ∀ (tree : EventTree)
    (context : Context), ∀ contribution ∈ treeContributions source options context tree,
      NormalContribution contribution
  | .leaf leaf span, context => normal_leaf source context leaf span
  | .node tag _ children closed, context =>
      List.forall_mem_singleton.mpr (normal_container source options context tag closed _
        (normal_forest source options children (context.inside tag)))

theorem normal_forest (source : String) (options : LexOptions) : ∀ (forest : List EventTree)
    (context : Context), ∀ contribution ∈ forestContributions source options context forest,
      NormalContribution contribution
  | [], _ => by simp [forestContributions]
  | tree :: rest, context =>
      List.forall_mem_append.mpr ⟨normal_tree source options tree context,
        normal_forest source options rest context⟩

end

theorem normal_top_tokens (source : String) (contributions : List Contribution)
    (lastBlockEnd : Option Nat)
    (normal : ∀ contribution ∈ contributions, NormalContribution contribution) :
    ∀ token ∈ topTokens source lastBlockEnd contributions,
      (∃ gap, token = .space gap) ∨ (NormalToken token ∧ isRun token = false) := by
  induction contributions generalizing lastBlockEnd with
  | nil => simp [topTokens]
  | cons contribution rest ih =>
      obtain ⟨own, later⟩ := List.forall_mem_cons.mp normal
      cases contribution with
      | inline token => exact List.forall_mem_cons.mpr ⟨.inr own, ih lastBlockEnd later⟩
      | block token span =>
          have noRun := (Bool.or_eq_false_iff.mp own.2).2
          refine List.forall_mem_append.mpr ⟨?_,
            List.forall_mem_cons.mpr ⟨.inr ⟨own.1, noRun⟩, ih (some span.stop) later⟩⟩
          rcases gap_tokens_cases source lastBlockEnd span.start with none | ⟨gap, one⟩
          · simp [none]
          · rw [one]
            exact List.forall_mem_singleton.mpr (.inl ⟨gap, rfl⟩)
      | _ => exact ih lastBlockEnd later

theorem forest_tokens_normal (source : String) (options : LexOptions) (forest : List EventTree) :
    IsNormal (forestTokens source options forest) := by
  have normal := normal_top_tokens source _ none (normal_forest source options forest topContext)
  rw [forestTokens, IsNormal, sequencesFrom, normal_sequences_cons, normal_sequences_in_iff]
  refine ⟨⟨?_, ?_, ?_, ?_, ?_, ?_⟩, ?_⟩
  · intro token member
    rcases normal token member with ⟨gap, rfl⟩ | ⟨own, -⟩
    · trivial
    · exact own.fields
  · intro _ token member
    rcases normal token member with ⟨gap, rfl⟩ | ⟨-, noRun⟩
    · rfl
    · exact noRun
  · intro item
    cases item
  · intro item
    cases item
  · intro below
    exact absurd rfl below
  · intro below
    exact absurd rfl below
  · intro token member
    rcases normal token member with ⟨gap, rfl⟩ | ⟨own, -⟩
    · exact normal_sequences_nil
    · exact own.inner

/-- Every token tree is in normal form, for any source and any events. -/
theorem tokens_of_events_normal (source : String) (options : LexOptions)
    (events : List LocatedEvent) : IsNormal (tokensOfEvents source options events) := by
  rw [tokens_of_events]
  exact forest_tokens_normal source options _

end ChatBlocks.NormalForm
