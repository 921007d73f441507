import ChatBlocks.Proofs.QuotedSections
import Mathlib.Logic.Function.Iterate

/-!
# Markers of nested quotes

Inside a number of quotes every line of the source stands behind as many
markers. The source of a range is read without them: each line behind the first
loses exactly its markers, in whatever form they are written, and keeps
everything behind them, further signs included. Reading a range therefore
inverts quoting a text once for every quote that is open.
-/

namespace ChatBlocks.NestedMarkers

open Markdown (Span)
open Text Slices TextLines QuoteMarkers QuotedSections

/-- A line with one marker before its rest: any spaces and tabs, the sign, and
one space, which may be missing where the rest does not start with one. -/
inductive BehindMarker (rest : List Char) : List Char → Prop
  | spaced (blanks : List Char) (blank : ∀ character ∈ blanks, character = ' ' ∨ character = '\t') :
      BehindMarker rest (blanks ++ '>' :: ' ' :: rest)
  | tight (blanks : List Char) (blank : ∀ character ∈ blanks, character = ' ' ∨ character = '\t')
      (apart : rest.head? ≠ some ' ') : BehindMarker rest (blanks ++ '>' :: rest)

/-- A line with a number of markers before its content. -/
inductive BehindMarkers : Nat → List Char → List Char → Prop
  | none (content : List Char) : BehindMarkers 0 content content
  | outer {depth : Nat} {content rest line : List Char} (inner : BehindMarkers depth content rest)
      (marker : BehindMarker rest line) : BehindMarkers (depth + 1) content line

theorem strip_behind_blanks {blanks : List Char}
    (blank : ∀ character ∈ blanks, character = ' ' ∨ character = '\t') (rest : List Char) :
    stripQuoteMarker? (blanks ++ rest) = stripQuoteMarker? rest := by
  rw [stripQuoteMarker?, List.dropWhile_append_of_pos (by simpa using blank)]
  rfl

theorem strip_marker_eq_some_iff (line rest : List Char) :
    stripQuoteMarker? line = some rest ↔ BehindMarker rest line := by
  constructor
  · intro stripped
    let isGap := fun character : Char => character == ' ' || character == '\t'
    have cut : line.takeWhile isGap ++ line.dropWhile isGap = line :=
      List.takeWhile_append_dropWhile
    have blank : ∀ character ∈ line.takeWhile isGap, character = ' ' ∨ character = '\t' := by
      intro character member
      simpa [isGap] using List.mem_takeWhile_imp member
    unfold stripQuoteMarker? at stripped
    split at stripped
    · rename_i behind
      obtain rfl := Option.some.inj stripped
      rw [← cut, behind]
      exact .spaced _ blank
    · rename_i unspaced behind
      obtain rfl := Option.some.inj stripped
      rw [← cut, behind]
      apply BehindMarker.tight _ blank
      intro space
      obtain ⟨more, same⟩ := List.head?_eq_some_iff.mp space
      exact unspaced more same
    · cases stripped
  · intro marked
    cases marked with
    | spaced blanks blank =>
        rw [strip_behind_blanks blank]
        rfl
    | tight blanks blank apart =>
        rw [strip_behind_blanks blank]
        cases rest with
        | nil => rfl
        | cons first more =>
            have other : first ≠ ' ' := by simpa using apart
            simp [stripQuoteMarker?, other]

theorem strip_markers_behind {content : List Char} {depth : Nat} {line : List Char}
    (behind : BehindMarkers depth content line) : stripQuoteMarkers depth line = content := by
  induction behind with
  | none content => rfl
  | outer inner marker ih =>
      rw [stripQuoteMarkers, (strip_marker_eq_some_iff _ _).mpr marker]
      exact ih

theorem newline_mem_behind_marker {rest line : List Char} (marked : BehindMarker rest line) :
    '\n' ∈ line ↔ '\n' ∈ rest := by
  have outside : ∀ blanks : List Char,
      (∀ character ∈ blanks, character = ' ' ∨ character = '\t') → '\n' ∉ blanks := by
    intro blanks blank newline
    simpa using blank '\n' newline
  cases marked with
  | spaced blanks blank => simp [outside blanks blank]
  | tight blanks blank apart => simp [outside blanks blank]

theorem newline_mem_behind {content line : List Char} {depth : Nat}
    (behind : BehindMarkers depth content line) : '\n' ∈ line ↔ '\n' ∈ content := by
  induction behind with
  | none content => rfl
  | outer inner marker ih => rw [newline_mem_behind_marker marker, ih]

variable {depth : Nat} {contents marked : List (List Char)}

theorem strip_all_behind (behind : List.Forall₂ (BehindMarkers depth) contents marked) :
    marked.map (stripQuoteMarkers depth) = contents := by
  induction behind with
  | nil => rfl
  | cons own later ih => rw [List.map_cons, strip_markers_behind own, ih]

theorem newline_not_mem_marked (single : ∀ content ∈ contents, '\n' ∉ content)
    (behind : List.Forall₂ (BehindMarkers depth) contents marked) :
    ∀ line ∈ marked, '\n' ∉ line := by
  induction behind with
  | nil => exact List.forall_mem_nil _
  | cons own later ih =>
      obtain ⟨first, rest⟩ := List.forall_mem_cons.mp single
      rw [← newline_mem_behind own] at first
      exact List.forall_mem_cons.mpr ⟨first, ih rest⟩

theorem strip_marked_lines {first : List Char} (single : ∀ line ∈ first :: contents, '\n' ∉ line)
    (behind : List.Forall₂ (BehindMarkers depth) contents marked) :
    stripContinuationLines depth (joinLines ((first :: marked).map String.ofList)) =
      joinLines ((first :: contents).map String.ofList) := by
  obtain ⟨front, later⟩ := List.forall_mem_cons.mp single
  have whole : ∀ line ∈ first :: marked, '\n' ∉ line :=
    List.forall_mem_cons.mpr ⟨front, newline_not_mem_marked later behind⟩
  rw [stripContinuationLines, split_lines_join (List.cons_ne_nil first marked) whole]
  simp only [strip_all_behind behind]

theorem strip_no_markers (text : String) : stripContinuationLines 0 text = text := by
  have whole := join_split_lines text.toList
  obtain ⟨first, rest, split⟩ :=
    List.exists_cons_of_ne_nil (BlankText.split_lines_ne_nil text.toList)
  rw [split, String.ofList_toList] at whole
  rw [stripContinuationLines, split]
  simpa only [stripQuoteMarkers, List.map_id'] using whole

theorem raw_of_slice {builder : Builder} {span : Span} {text : String}
    (slice : IsSlice builder.source span text) :
    builder.raw span = stripContinuationLines builder.quoteDepth text := by
  have found := (slice_eq_some_iff builder.source span.start span.stop text).mpr slice
  rw [Builder.raw, found, Option.getD_some]
  by_cases outside : builder.quoteDepth = 0
  · rw [if_pos outside, outside, strip_no_markers]
  · rw [if_neg outside]

def quotedLine : Nat → String → String
  | 0, line => line
  | depth + 1, line => quoteMarker ++ quotedLine depth line

/-- A text of which every line but the first is quoted so many times. -/
def quotedBelowFirst (depth : Nat) (text : String) : String :=
  match lines text with
  | [] => ""
  | first :: rest => joinLines (first :: rest.map (quotedLine depth))

theorem quoted_line_behind (depth : Nat) (content : List Char) :
    BehindMarkers depth content (quotedLine depth (String.ofList content)).toList := by
  induction depth with
  | zero =>
      rw [quotedLine, String.toList_ofList]
      exact .none content
  | succ depth ih =>
      rw [quotedLine, String.toList_append]
      exact .outer ih (.spaced [] (List.forall_mem_nil _))

theorem lines_quoted_times (depth : Nat) (text : String) :
    lines (quoteLines^[depth] text) = (lines text).map (quotedLine depth) := by
  induction depth with
  | zero =>
      have unmarked : quotedLine 0 = id := rfl
      rw [unmarked, List.map_id]
      rfl
  | succ depth ih =>
      rw [Function.iterate_succ_apply', lines_quote_lines, ih, List.map_map]
      rfl

theorem join_quoted_line (depth : Nat) (line : String) (rest : List String) :
    joinLines (quotedLine depth line :: rest) = quotedLine depth (joinLines (line :: rest)) := by
  induction depth with
  | zero => rfl
  | succ depth ih => rw [quotedLine, join_lines_front, ih, quotedLine]

/-- A text quoted so many times has as many markers before its first line. -/
theorem quoted_times (depth : Nat) (text : String) :
    quoteLines^[depth] text = quotedLine depth (quotedBelowFirst depth text) := by
  obtain ⟨first, rest, split⟩ := List.exists_cons_of_ne_nil (BlankText.lines_ne_nil text)
  calc
    quoteLines^[depth] text = joinLines (lines (quoteLines^[depth] text)) :=
      (join_lines_of_text _).symm
    _ = joinLines (quotedLine depth first :: rest.map (quotedLine depth)) := by
      rw [lines_quoted_times, split, List.map_cons]
    _ = quotedLine depth (quotedBelowFirst depth text) := by
      rw [join_quoted_line, quotedBelowFirst, split]

theorem strip_quoted_below_first (depth : Nat) (text : String) :
    stripContinuationLines depth (quotedBelowFirst depth text) = text := by
  obtain ⟨first, rest, split⟩ :=
    List.exists_cons_of_ne_nil (BlankText.split_lines_ne_nil text.toList)
  have single : ∀ line ∈ first :: rest, '\n' ∉ line := by
    rw [← split]
    exact fun line => newline_not_mem_line
  have quoted : quotedBelowFirst depth text =
      joinLines ((first :: rest.map fun line =>
        (quotedLine depth (String.ofList line)).toList).map String.ofList) := by
    rw [quotedBelowFirst, lines, split]
    simp [Function.comp_def]
  have behind : List.Forall₂ (BehindMarkers depth) rest
      (rest.map fun line => (quotedLine depth (String.ofList line)).toList) := by
    rw [List.forall₂_map_right_iff, List.forall₂_same]
    exact fun content _ => quoted_line_behind depth content
  rw [quoted, strip_marked_lines single behind, ← split, join_split_lines, String.ofList_toList]

/-- The source of a range inside any number of quotes. First, lines behind as
many markers, in whatever form, are read as their contents. In particular, a
text that was quoted once for every open quote is read back: quoting it puts the
markers before its first line, and the range behind them has the text as its
source. -/
theorem raw_of_marked_lines (builder : Builder) (span : Span) :
    (∀ (first : List Char) (contents marked : List (List Char)),
      (∀ line ∈ first :: contents, '\n' ∉ line) →
      List.Forall₂ (BehindMarkers builder.quoteDepth) contents marked →
      IsSlice builder.source span (joinLines ((first :: marked).map String.ofList)) →
      builder.raw span = joinLines ((first :: contents).map String.ofList)) ∧
    ∀ text : String,
      quoteLines^[builder.quoteDepth] text =
          quotedLine builder.quoteDepth (quotedBelowFirst builder.quoteDepth text) ∧
        (IsSlice builder.source span (quotedBelowFirst builder.quoteDepth text) →
          builder.raw span = text) := by
  constructor
  · intro first contents marked single behind slice
    rw [raw_of_slice slice, strip_marked_lines single behind]
  · intro text
    refine ⟨quoted_times builder.quoteDepth text, ?_⟩
    intro slice
    rw [raw_of_slice slice, strip_quoted_below_first]

/-- A paragraph in a quoted item of a quote. Its lines have markers of every
form, and the last one holds a sign of its own; the second text is quoted as the
assembly writes it. -/
theorem paragraph_in_two_quotes :
    let opened : List Frame :=
      [⟨.paragraph, []⟩, ⟨.blockquote, []⟩, ⟨.item none, []⟩, ⟨.blockquote, []⟩]
    let builder : Builder := ⟨"> > a\n>>b\n\t> >  c\n > > > d", {}, opened, [], none⟩
    let contents := [['b'], [' ', 'c'], ['>', ' ', 'd']]
    let marked := [">>b".toList, "\t> >  c".toList, " > > > d".toList]
    let quoted : Builder := ⟨"> > a\n> > \n> > > b", {}, opened, [], none⟩
    let text := "a\n\n> b"
    (∀ line ∈ ['a'] :: contents, '\n' ∉ line) ∧
      List.Forall₂ (BehindMarkers builder.quoteDepth) contents marked ∧
      IsSlice builder.source ⟨4, 26⟩ (joinLines ((['a'] :: marked).map String.ofList)) ∧
      builder.raw ⟨4, 26⟩ = "a\nb\n c\n> d" ∧
      quoteLines^[2] text = quoted.source ∧
      IsSlice quoted.source ⟨4, 18⟩ (quotedBelowFirst quoted.quoteDepth text) ∧
      quoted.raw ⟨4, 18⟩ = text := by
  intro opened builder contents marked quoted text
  have single : ∀ line ∈ ['a'] :: contents, '\n' ∉ line := by decide
  have bare : ∀ character ∈ ([] : List Char), character = ' ' ∨ character = '\t' :=
    List.forall_mem_nil _
  have behind : List.Forall₂ (BehindMarkers builder.quoteDepth) contents marked :=
    .cons (.outer (.outer (.none _) (.tight [] bare (by decide))) (.tight [] bare (by decide)))
      (.cons (.outer (.outer (.none _) (.spaced [] bare)) (.spaced ['\t'] (by simp)))
        (.cons (.outer (.outer (.none _) (.spaced [] bare)) (.spaced [' '] (by simp))) .nil))
  have slice : IsSlice builder.source ⟨4, 26⟩
      (joinLines ((['a'] :: marked).map String.ofList)) :=
    (slice_eq_some_iff _ _ _ _).mp (by decide)
  have quotedSlice : IsSlice quoted.source ⟨4, 18⟩ (quotedBelowFirst quoted.quoteDepth text) :=
    (slice_eq_some_iff _ _ _ _).mp (by decide)
  have read := (raw_of_marked_lines builder ⟨4, 26⟩).1 ['a'] contents marked single behind slice
  have again := (raw_of_marked_lines quoted ⟨4, 18⟩).2 text
  have joined : joinLines ((['a'] :: contents).map String.ofList) = "a\nb\n c\n> d" := by decide
  rw [joined] at read
  exact ⟨single, behind, slice, read, by decide, quotedSlice, again.2 quotedSlice⟩

end ChatBlocks.NestedMarkers
