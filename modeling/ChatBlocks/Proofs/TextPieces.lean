import ChatBlocks.Proofs.WordOffsets

/-!
# Where text is cut

A reader may hand over a line of text in one piece or in several. Inside a
container the builder is in the same state afterwards: the pieces join in its
last token, whatever the container keeps its content in, and the markers of open
quotes play no part on one line. Only an escaped character at the beginning of a
piece is written apart, so a cut in front of one would show.
-/

namespace ChatBlocks.TextPieces

open Markdown (LocatedEvent Span)
open Text Slices ForestTokens BuilderForest WordOffsets

theorem slice_behind_ascii {source rest : String} {span : Span} {first : Char}
    (ascii : first.toNat < 0x80) (slice : IsSlice source span (String.singleton first ++ rest)) :
    IsSlice source ⟨span.start + 1, span.stop⟩ rest := by
  obtain ⟨before, after, split, atStart, atStop⟩ := slice
  have one := (utf8_size_eq_one_iff first).mpr ascii
  refine ⟨before ++ String.singleton first, after, ?_, ?_, ?_⟩
  · rw [split]
    simp only [String.append_assoc]
  · rw [String.utf8ByteSize_append, String.utf8ByteSize_singleton, one, atStart]
  · rw [String.append_assoc]
    exact atStop

theorem escaped_text_split {builder : Builder} {span : Span} {text : String} {escaped : Char}
    (slice : IsSlice builder.source span text) (visible : text ≠ "")
    (escape : builder.escapedAt? span.start = some escaped) :
    ∃ rest, text = String.singleton escaped ++ rest := by
  obtain ⟨before, after, split, length, -⟩ := (escaped_at_eq_some_iff builder _ escaped).mp escape
  obtain ⟨front, behind, parts, atStart, -⟩ := slice
  obtain ⟨first, rest, characters⟩ :=
    List.exists_cons_of_ne_nil (mt String.toList_eq_nil_iff.mp visible)
  have same : front.toList ++ (first :: (rest ++ behind.toList)) =
      before.reverse ++ escaped :: after := by
    rw [← split, parts]
    simp [characters]
  have fronts : front.toList = before.reverse := by
    refine eq_of_same_byte_length same ?_
    rw [byte_length_reverse, length, ← utf8_byte_size, atStart]
  rw [fronts] at same
  obtain ⟨rfl, -⟩ := List.cons.inj (List.append_cancel_left same)
  refine ⟨String.ofList rest, ?_⟩
  rw [← String.toList_inj, characters]
  simp

def lineLeaf (text : String) : Token := .text text none text

theorem text_tokens_of_unescaped {builder : Builder} {span : Span} {text : String}
    (slice : IsSlice builder.source span text) (single : '\n' ∉ text.toList)
    (unescaped : builder.escapedAt? span.start = none) :
    textTokens builder.source (stackContext builder.stack) text span = [lineLeaf text] := by
  have raw := raw_of_single_line slice single
  rw [builder_raw] at raw
  rw [builder_escaped_at] at unescaped
  simp only [textTokens, unescaped, raw, lineLeaf]

theorem text_tokens_of_escaped {builder : Builder} {span : Span} {rest : String} {escaped : Char}
    (slice : IsSlice builder.source span (String.singleton escaped ++ rest))
    (single : '\n' ∉ rest.toList) (escape : builder.escapedAt? span.start = some escaped) :
    textTokens builder.source (stackContext builder.stack) (String.singleton escaped ++ rest) span =
      .other (String.ofList ['\\', escaped]) :: if rest.isEmpty then [] else [lineLeaf rest] := by
  obtain ⟨-, -, -, -, punctuation, -⟩ := (escaped_at_eq_some_iff builder _ escaped).mp escape
  have behind := slice_behind_ascii (punctuation_ascii punctuation) slice
  have raw := raw_of_single_line behind single
  have mark := raw_of_escape escape
  have empty : rest.toList.isEmpty = rest.isEmpty := by
    rw [Bool.eq_iff_iff, List.isEmpty_iff, String.isEmpty_iff, String.toList_eq_nil_iff]
  rw [builder_raw] at raw mark
  rw [builder_escaped_at] at escape
  simp only [textTokens, escape, String.toList_append, String.toList_singleton,
    List.singleton_append, if_true, mark, raw, empty, String.ofList_toList, lineLeaf]
  split <;> rfl

theorem append_inline_concat (front : List Token) (last token : Token) :
    appendInline (front ++ [last]) token = front ++ appendInline [last] token := by
  induction front with
  | nil => rfl
  | cons head rest ih => cases rest <;> simp_all [appendInline]

theorem append_to_run_concat (front : List Token) (last token : Token) :
    appendToRun (front ++ [last]) token = front ++ appendToRun [last] token := by
  induction front with
  | nil => rfl
  | cons head rest ih => cases rest <;> simp_all [appendToRun]

theorem append_inline_join (tokens : List Token) (first second : String) :
    appendInline (appendInline tokens (lineLeaf first)) (lineLeaf second) =
      appendInline tokens (lineLeaf (first ++ second)) := by
  rcases append_inline_cases tokens (lineLeaf first) with
    ⟨front, text, raw, _, _, rfl, same, joined⟩ | ⟨added, apart⟩
  · obtain ⟨rfl, -, rfl⟩ := Token.text.inj same
    rw [joined]
    simp only [append_inline_concat, lineLeaf, appendInline, String.append_assoc]
  · rw [added, append_inline_concat]
    rcases append_inline_cases tokens (lineLeaf (first ++ second)) with
      ⟨front, text, raw, _, _, rfl, -, -⟩ | ⟨whole, -⟩
    · exact absurd ⟨rfl, rfl⟩ (apart (.text text none raw) (by simp))
    · rw [whole]
      rfl

theorem append_to_run_join (tokens : List Token) (first second : String) :
    appendToRun (appendToRun tokens (lineLeaf first)) (lineLeaf second) =
      appendToRun tokens (lineLeaf (first ++ second)) := by
  rcases append_to_run_cases tokens (lineLeaf first) with
    ⟨front, text, run, raw, rfl, joined⟩ | ⟨added, apart⟩
  · rw [joined]
    simp only [append_to_run_concat, appendToRun, append_inline_join, String.append_assoc]
    rfl
  · rw [added, append_to_run_concat]
    rcases append_to_run_cases tokens (lineLeaf (first ++ second)) with
      ⟨front, text, run, raw, rfl, -⟩ | ⟨whole, -⟩
    · cases apart _ (List.getLast?_concat ..)
    · rw [whole]
      rfl

theorem absorb_inside {builder : Builder} (inside : builder.stack ≠ [])
    (contribution : Contribution) : (absorb builder contribution).stack ≠ [] := by
  rw [← List.length_pos_iff] at inside ⊢
  rwa [height_absorb]

theorem absorb_leaf_join (builder : Builder) (inside : builder.stack ≠ []) (first second : String) :
    absorb (absorb builder (.inline (lineLeaf first))) (.inline (lineLeaf second)) =
      absorb builder (.inline (lineLeaf (first ++ second))) := by
  obtain ⟨source, options, stack, out, lastBlockEnd⟩ := builder
  cases stack with
  | nil => exact absurd rfl inside
  | cons frame below =>
      obtain ⟨kind, tokens⟩ := frame
      cases kind <;>
        simp [absorb, absorbFrame, absorbKind, placeToken, frameParent, append_inline_join,
          append_to_run_join]

theorem absorb_code_join (builder : Builder) (first second : String) :
    absorb (absorb builder (.codeText first)) (.codeText second) =
      absorb builder (.codeText (first ++ second)) := by
  obtain ⟨source, options, stack, out, lastBlockEnd⟩ := builder
  cases stack with
  | nil => rfl
  | cons frame below =>
      obtain ⟨kind, tokens⟩ := frame
      cases kind <;> simp [absorb, absorbFrame, absorbKind, placeToken, String.append_assoc]

/-- What an escape leaves of its piece may be nothing. If it is something, the
next leaf joins it, since the escape leaves the container open. -/
theorem absorb_behind_escape (builder : Builder) (inside : builder.stack ≠ []) (mark : Token)
    (rest : String) {second : String} (visible : second ≠ "") :
    absorbAll builder (((mark :: if rest.isEmpty then [] else [lineLeaf rest]).map .inline) ++
        [lineLeaf second].map .inline) =
      absorbAll builder ((mark :: if (rest ++ second).isEmpty then []
        else [lineLeaf (rest ++ second)]).map .inline) := by
  by_cases alone : rest = ""
  · simp [alone, visible]
  · have joined := absorb_leaf_join (absorb builder (.inline mark))
      (absorb_inside inside (.inline mark)) rest second
    simp [alone, visible, absorbAll, joined]

theorem push_two_texts (builder : Builder) (first second : String) (span nextSpan : Span) :
    (builder.pushText first span).pushText second nextSpan =
      absorbAll builder
        (leafContributions builder.source (stackContext builder.stack) (.text first) span ++
          leafContributions builder.source (stackContext builder.stack) (.text second)
            nextSpan) := by
  obtain ⟨source, -, context⟩ := absorb_all_keeps
    (leafContributions builder.source (stackContext builder.stack) (.text first) span) builder
  rw [push_text, push_text, source, context, absorb_all_append]

/-- Inside a container, one line of text may be cut at any place that is not in
front of an escaped character: the two pieces leave the builder in the state in
which the whole leaves it. The first piece may begin with an escape, be nothing
but one, or be empty. -/
theorem push_text_pieces (builder : Builder) (inside : builder.stack ≠ [])
    {start middle stop : Nat} {first second whole : String}
    (firstSlice : IsSlice builder.source ⟨start, middle⟩ first)
    (secondSlice : IsSlice builder.source ⟨middle, stop⟩ second)
    (wholeSlice : IsSlice builder.source ⟨start, stop⟩ whole) (ordered : middle < stop)
    (single : '\n' ∉ whole.toList) (unescaped : builder.escapedAt? middle = none) :
    (builder.push ⟨.text first, ⟨start, middle⟩⟩).push ⟨.text second, ⟨middle, stop⟩⟩ =
      builder.push ⟨.text whole, ⟨start, stop⟩⟩ := by
  obtain rfl : whole = first ++ second :=
    slice_unique wholeSlice (slice_append firstSlice secondSlice)
  have visible : second ≠ "" := fun empty => ordered.ne (ends_of_empty (empty ▸ secondSlice))
  simp only [String.toList_append, List.mem_append, not_or] at single
  have pieces := push_two_texts builder first second ⟨start, middle⟩ ⟨middle, stop⟩
  have together := push_text builder (first ++ second) ⟨start, stop⟩
  change (builder.pushText first _).pushText second _ = builder.pushText (first ++ second) _
  rw [pieces, together]
  by_cases code : (stackContext builder.stack).parent = .code
  · simp only [leafContributions, if_pos code]
    exact absorb_code_join builder first second
  · simp only [leafContributions, if_neg code]
    rw [text_tokens_of_unescaped secondSlice single.2 unescaped]
    cases escape : builder.escapedAt? start with
    | none =>
        rw [text_tokens_of_unescaped firstSlice single.1 escape,
          text_tokens_of_unescaped wholeSlice (by simp [single]) escape]
        exact absorb_leaf_join builder inside first second
    | some escaped =>
        have firstVisible : first ≠ "" := by
          intro empty
          obtain rfl : start = middle := ends_of_empty (empty ▸ firstSlice)
          rw [unescaped] at escape
          cases escape
        obtain ⟨rest, rfl⟩ := escaped_text_split firstSlice firstVisible escape
        rw [String.append_assoc] at wholeSlice ⊢
        have restSingle : '\n' ∉ rest.toList := by
          intro newline
          exact single.1 (by simp [newline])
        rw [text_tokens_of_escaped firstSlice restSingle escape,
          text_tokens_of_escaped wholeSlice (by simp [restSingle, single.2]) escape]
        exact absorb_behind_escape builder inside _ rest visible

/-- In a list item inside a quote the first piece is an escaped star alone. -/
theorem escaped_star_alone_then_text :
    let source := "> - \\*ab"
    let builder : Builder := ⟨source, {}, [⟨.item none, []⟩, ⟨.blockquote, []⟩], [], none⟩
    builder.stack ≠ [] ∧ IsSlice source ⟨5, 6⟩ "*" ∧ IsSlice source ⟨6, 8⟩ "ab" ∧
      IsSlice source ⟨5, 8⟩ "*ab" ∧ 6 < 8 ∧ '\n' ∉ "*ab".toList ∧ builder.escapedAt? 6 = none ∧
      builder.escapedAt? 5 = some '*' ∧
      (builder.push ⟨.text "*", ⟨5, 6⟩⟩).push ⟨.text "ab", ⟨6, 8⟩⟩ =
        builder.push ⟨.text "*ab", ⟨5, 8⟩⟩ := by
  intro source builder
  have first : IsSlice source ⟨5, 6⟩ "*" := (slice_eq_some_iff _ _ _ _).mp (by decide)
  have second : IsSlice source ⟨6, 8⟩ "ab" := (slice_eq_some_iff _ _ _ _).mp (by decide)
  have whole : IsSlice source ⟨5, 8⟩ "*ab" := (slice_eq_some_iff _ _ _ _).mp (by decide)
  exact ⟨by simp [builder], first, second, whole, by decide, by decide, by decide, by decide,
    push_text_pieces builder (by simp [builder]) first second whole (by decide) (by decide)
      (by decide)⟩

end ChatBlocks.TextPieces
