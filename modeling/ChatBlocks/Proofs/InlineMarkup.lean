import ChatBlocks.Render.Inline

/-!
# Reading inline markup back

The markup of a token sequence determines its containers and its text, as long
as no text and no target holds a character of the markup itself and no strong,
emphasized or struck-out content lies inside content of its own kind. One
character opens and closes such a container, so what it does depends on the
containers that are open around it: a delimiter whose container is open closes
it, and any other opens one. Links may be nested, since two different characters
open and close them.
-/

namespace ChatBlocks.InlineMarkup

inductive Wrapping where
  | strong | em | del
  deriving DecidableEq, Repr

def Wrapping.delimiter : Wrapping → Char
  | .strong => '*'
  | .em => '_'
  | .del => '~'

theorem delimiter_injective {first second : Wrapping} :
    first.delimiter = second.delimiter → first = second := by
  cases first <;> cases second <;> decide

/-- An inline token without its source and without the title of a link. -/
inductive InlineShape where
  | text (text : String)
  | wrapped (wrapping : Wrapping) (inner : List InlineShape)
  | link (href : String) (inner : List InlineShape)
  | code (text : String)
  | lineBreak
  | image (href text : String)
  /-- A token without markup, which is written as its source. -/
  | source (raw : String)

/-- Puts a shape in front of others. Empty text is left out, and text joins the
text that it meets. -/
def putShape : InlineShape → List InlineShape → List InlineShape
  | .text text, .text next :: rest => .text (text ++ next) :: rest
  | .text text, rest => if text.isEmpty then rest else .text text :: rest
  | shape, rest => shape :: rest

mutual

def shapeOf : Token → InlineShape
  | .text text _ _ => .text text
  | .link href _ tokens _ => .link href (shapesOf tokens)
  | .image href _ text _ => .image href text
  | .strong tokens _ => .wrapped .strong (shapesOf tokens)
  | .em tokens _ => .wrapped .em (shapesOf tokens)
  | .del tokens _ => .wrapped .del (shapesOf tokens)
  | .codespan text _ => .code text
  | .br _ => .lineBreak
  | .heading _ _ raw => .source raw
  | .paragraph _ raw => .source raw
  | .list _ _ _ raw => .source raw
  | .blockquote _ raw => .source raw
  | .code _ _ raw => .source raw
  | .hr raw => .source raw
  | .table _ _ raw => .source raw
  | .space raw => .source raw
  | .html raw => .source raw
  | .other raw => .source raw

/-- A token sequence up to sources, titles, empty text leaves and the cuts
between neighbouring text leaves, at every depth. -/
def shapesOf : List Token → List InlineShape
  | [] => []
  | token :: rest => putShape (shapeOf token) (shapesOf rest)

end

mutual

def writeShape : InlineShape → List Char
  | .text text => text.toList
  | .wrapped wrapping inner => wrapping.delimiter :: (writeShapes inner ++ [wrapping.delimiter])
  | .link href inner => '<' :: (href.toList ++ '|' :: (writeShapes inner ++ ['>']))
  | .code text => '\x60' :: (text.toList ++ ['\x60'])
  | .lineBreak => ['\n']
  | .image href text => '<' :: (href.toList ++ '|' :: (text.toList ++ ['>']))
  | .source raw => raw.toList

def writeShapes : List InlineShape → List Char
  | [] => []
  | shape :: rest => writeShape shape ++ writeShapes rest

end

theorem write_put_shape (shape : InlineShape) (rest : List InlineShape) :
    writeShapes (putShape shape rest) = writeShape shape ++ writeShapes rest := by
  unfold putShape
  split
  · simp [writeShapes, writeShape]
  · split
    · rename_i empty
      simp [String.isEmpty_iff.mp empty, writeShape]
    · rfl
  · rfl

mutual

theorem write_shape_of : ∀ token : Token,
    writeShape (shapeOf token) = (renderInlineToken token).toList
  | .text text _ _ => rfl
  | .link href _ tokens _ => by
      simp [shapeOf, writeShape, renderInlineToken, Markup.link, Markup.linkOpen,
        Markup.linkSeparator, Markup.linkClose, write_shapes_of tokens]
  | .image href _ text _ => by
      simp [shapeOf, writeShape, renderInlineToken, Markup.link, Markup.linkOpen,
        Markup.linkSeparator, Markup.linkClose]
  | .strong tokens _ => by
      simp [shapeOf, writeShape, renderInlineToken, Markup.wrap, Markup.bold, Wrapping.delimiter,
        write_shapes_of tokens]
  | .em tokens _ => by
      simp [shapeOf, writeShape, renderInlineToken, Markup.wrap, Markup.italic, Wrapping.delimiter,
        write_shapes_of tokens]
  | .del tokens _ => by
      simp [shapeOf, writeShape, renderInlineToken, Markup.wrap, Markup.strike, Wrapping.delimiter,
        write_shapes_of tokens]
  | .codespan text _ => by
      simp [shapeOf, writeShape, renderInlineToken, Markup.wrap, Markup.code]
  | .br _ => by simp [shapeOf, writeShape, renderInlineToken]
  | .heading _ _ raw => rfl
  | .paragraph _ raw => rfl
  | .list _ _ _ raw => rfl
  | .blockquote _ raw => rfl
  | .code _ _ raw => rfl
  | .hr raw => rfl
  | .table _ _ raw => rfl
  | .space raw => rfl
  | .html raw => rfl
  | .other raw => rfl

theorem write_shapes_of : ∀ tokens : List Token,
    writeShapes (shapesOf tokens) = (renderInline tokens).toList
  | [] => rfl
  | token :: rest => by
      rw [shapesOf, write_put_shape, write_shape_of token, write_shapes_of rest, renderInline,
        String.toList_append]

end

def isMark (character : Char) : Bool :=
  ['*', '_', '~', '\x60', '<', '|', '>', '\n'].contains character

def isPlain (text : String) : Bool :=
  text.toList.all fun character => !isMark character

mutual

/-- A token of inline text that lies inside open wrappings: it is not wrapped in
one of these again, nor is anything inside it. -/
def separable (outer : List Wrapping) : Token → Bool
  | .text text none _ => isPlain text
  | .link href _ tokens _ => isPlain href && allSeparable outer tokens
  | .strong tokens _ => !outer.contains .strong && allSeparable (.strong :: outer) tokens
  | .em tokens _ => !outer.contains .em && allSeparable (.em :: outer) tokens
  | .del tokens _ => !outer.contains .del && allSeparable (.del :: outer) tokens
  | .codespan text _ => isPlain text
  | .br _ => true
  | .text _ (some _) _ | .image .. | .heading .. | .paragraph .. | .list .. | .blockquote ..
  | .code .. | .hr .. | .table .. | .space .. | .html .. | .other .. => false

def allSeparable (outer : List Wrapping) : List Token → Bool
  | [] => true
  | token :: rest => separable outer token && allSeparable outer rest

end

def isText : InlineShape → Bool
  | .text _ => true
  | _ => false

mutual

def readable (outer : List Wrapping) : InlineShape → Prop
  | .text text => text ≠ "" ∧ isPlain text = true
  | .wrapped wrapping inner => wrapping ∉ outer ∧ allReadable (wrapping :: outer) inner
  | .link href inner => isPlain href = true ∧ allReadable outer inner
  | .code text => isPlain text = true
  | .lineBreak => True
  | .image .. | .source _ => False

def allReadable (outer : List Wrapping) : List InlineShape → Prop
  | [] => True
  | shape :: rest =>
      readable outer shape ∧ allReadable outer rest ∧
        (isText shape = true → ∀ next ∈ rest.head?, isText next = false)

end

theorem all_readable_put_text {outer : List Wrapping} {text : String} {rest : List InlineShape}
    (plain : isPlain text = true) (behind : allReadable outer rest) :
    allReadable outer (putShape (.text text) rest) := by
  have apart : (∀ next ∈ rest.head?, isText next = false) →
      putShape (.text text) rest = if text.isEmpty then rest else .text text :: rest := by
    intro other
    rcases rest with _ | ⟨next, more⟩
    · rfl
    · cases next <;> first | rfl | exact Bool.noConfusion (other _ rfl)
  by_cases other : ∀ next ∈ rest.head?, isText next = false
  · rw [apart other]
    split
    · exact behind
    · rename_i visible
      exact ⟨⟨by simpa using visible, plain⟩, behind, fun _ => other⟩
  · obtain ⟨next, more, rfl⟩ : ∃ next more, rest = .text next :: more := by
      rcases rest with _ | ⟨next, more⟩
      · simp at other
      · cases next <;> simp_all [isText]
    obtain ⟨⟨visible, nextPlain⟩, later, separate⟩ := behind
    refine ⟨⟨?_, ?_⟩, later, separate⟩
    · intro empty
      exact visible (String.append_eq_empty_iff.mp empty).2
    · simpa [isPlain] using And.intro plain nextPlain

mutual

theorem readable_shape_of : ∀ (token : Token) (outer : List Wrapping),
    separable outer token = true →
      (∃ text, shapeOf token = .text text ∧ isPlain text = true) ∨
        isText (shapeOf token) = false ∧ readable outer (shapeOf token)
  | .text text none _, _, plain => .inl ⟨text, rfl, plain⟩
  | .link href _ tokens _, outer, fits => by
      simp only [separable, Bool.and_eq_true] at fits
      exact .inr ⟨rfl, fits.1, all_readable_shapes_of tokens outer fits.2⟩
  | .strong tokens _, outer, fits => by
      simp only [separable, Bool.and_eq_true, Bool.not_eq_true', List.contains_eq_mem,
        decide_eq_false_iff_not] at fits
      exact .inr ⟨rfl, fits.1, all_readable_shapes_of tokens _ fits.2⟩
  | .em tokens _, outer, fits => by
      simp only [separable, Bool.and_eq_true, Bool.not_eq_true', List.contains_eq_mem,
        decide_eq_false_iff_not] at fits
      exact .inr ⟨rfl, fits.1, all_readable_shapes_of tokens _ fits.2⟩
  | .del tokens _, outer, fits => by
      simp only [separable, Bool.and_eq_true, Bool.not_eq_true', List.contains_eq_mem,
        decide_eq_false_iff_not] at fits
      exact .inr ⟨rfl, fits.1, all_readable_shapes_of tokens _ fits.2⟩
  | .codespan _ _, _, plain => .inr ⟨rfl, plain⟩
  | .br _, _, _ => .inr ⟨rfl, trivial⟩

theorem all_readable_shapes_of : ∀ (tokens : List Token) (outer : List Wrapping),
    allSeparable outer tokens = true → allReadable outer (shapesOf tokens)
  | [], _, _ => trivial
  | token :: rest, outer, fits => by
      simp only [allSeparable, Bool.and_eq_true] at fits
      have behind := all_readable_shapes_of rest outer fits.2
      rw [shapesOf]
      rcases readable_shape_of token outer fits.1 with ⟨text, shape, plain⟩ | ⟨other, shape⟩
      · rw [shape]
        exact all_readable_put_text plain behind
      · have front : putShape (shapeOf token) (shapesOf rest) = shapeOf token :: shapesOf rest := by
          cases own : shapeOf token <;> first | rfl | (rw [own] at other; cases other)
        rw [front]
        exact ⟨shape, behind, by simp [other]⟩

end

inductive Opening where
  | text
  | wrapped (wrapping : Wrapping)
  | link
  | code
  | lineBreak
  deriving DecidableEq, Repr

def openingOf : InlineShape → Opening
  | .text _ | .source _ => .text
  | .wrapped wrapping _ => .wrapped wrapping
  | .link .. | .image .. => .link
  | .code _ => .code
  | .lineBreak => .lineBreak

def openingAt (character : Char) : Opening :=
  if character = '*' then .wrapped .strong
  else if character = '_' then .wrapped .em
  else if character = '~' then .wrapped .del
  else if character = '<' then .link
  else if character = '\x60' then .code
  else if character = '\n' then .lineBreak
  else .text

theorem opening_of_plain {character : Char} (plain : isMark character = false) :
    openingAt character = .text := by
  simp only [isMark, List.contains_eq_mem, decide_eq_false_iff_not, List.mem_cons, not_or] at plain
  simp [openingAt, plain]

/-- What may stand behind a sequence inside open wrappings: nothing, the end of
a link, or the delimiter of one of the wrappings. -/
def Closing (outer : List Wrapping) (rest : List Char) : Prop :=
  ∀ character ∈ rest.head?,
    character = '>' ∨ ∃ wrapping ∈ outer, character = wrapping.delimiter

theorem closing_delimiter (wrapping : Wrapping) (outer : List Wrapping) (behind : List Char) :
    Closing (wrapping :: outer) (wrapping.delimiter :: behind) := by
  rintro character ⟨⟩
  exact .inr ⟨wrapping, List.mem_cons_self, rfl⟩

theorem closing_link (outer : List Wrapping) (behind : List Char) :
    Closing outer ('>' :: behind) := by
  rintro character ⟨⟩
  exact .inl rfl

theorem mark_at_head {mark : Char} (marked : isMark mark = true) (behind : List Char) :
    ∀ character ∈ (mark :: behind).head?, isMark character = true := by
  rintro character ⟨⟩
  exact marked

theorem closing_is_mark {outer : List Wrapping} {rest : List Char} (closing : Closing outer rest) :
    ∀ character ∈ rest.head?, isMark character = true := by
  intro character found
  rcases closing character found with rfl | ⟨wrapping, -, rfl⟩
  · decide
  · cases wrapping <;> decide

/-- The first character of a shape says what the shape is, is a mark unless it
is text, and closes nothing that is open. -/
theorem write_readable {outer : List Wrapping} {shape : InlineShape}
    (fits : readable outer shape) :
    ∃ first behind, writeShape shape = first :: behind ∧ openingAt first = openingOf shape ∧
      isMark first = !isText shape ∧ first ≠ '>' ∧
        ∀ wrapping ∈ outer, first ≠ wrapping.delimiter := by
  cases shape with
  | text text =>
      obtain ⟨visible, plain⟩ := fits
      obtain ⟨first, behind, split⟩ :=
        List.exists_cons_of_ne_nil (mt String.toList_eq_nil_iff.mp visible)
      have unmarked : isMark first = false := by
        have every := List.all_eq_true.mp plain first (by simp [split])
        simpa using every
      refine ⟨first, behind, split, opening_of_plain unmarked, unmarked, ?_, ?_⟩
      · rintro rfl
        cases unmarked
      · rintro wrapping - rfl
        cases wrapping <;> cases unmarked
  | wrapped wrapping inner =>
      refine ⟨wrapping.delimiter, _, rfl, ?_, ?_, ?_, ?_⟩
      · cases wrapping <;> rfl
      · cases wrapping <;> rfl
      · cases wrapping <;> decide
      · intro other member same
        exact fits.1 (delimiter_injective same ▸ member)
  | link href inner =>
      exact ⟨'<', _, rfl, rfl, rfl, by decide, fun other _ => by cases other <;> decide⟩
  | code text =>
      exact ⟨'\x60', _, rfl, rfl, rfl, by decide, fun other _ => by cases other <;> decide⟩
  | lineBreak =>
      exact ⟨'\n', _, rfl, rfl, rfl, by decide, fun other _ => by cases other <;> decide⟩
  | image href text => exact fits.elim
  | source raw => exact fits.elim

/-- What closes an open sequence is not the beginning of one more shape. -/
theorem closing_not_written {outer : List Wrapping} {shape : InlineShape}
    {shapes : List InlineShape} {rest otherRest : List Char}
    (fits : allReadable outer (shape :: shapes)) (closing : Closing outer rest) :
    rest ≠ writeShapes (shape :: shapes) ++ otherRest := by
  intro same
  obtain ⟨first, behind, split, -, -, noLink, noWrapping⟩ := write_readable fits.1
  have head : first ∈ rest.head? := by simp [same, writeShapes, split]
  rcases closing first head with end_of_link | ⟨wrapping, member, delimiter⟩
  · exact noLink end_of_link
  · exact noWrapping wrapping member delimiter

/-- What stands behind a text begins with a mark, if there is anything. -/
theorem mark_behind_text {outer : List Wrapping} {shape : InlineShape} {shapes : List InlineShape}
    {rest : List Char} (fits : allReadable outer (shape :: shapes)) (closing : Closing outer rest)
    (text : isText shape = true) :
    ∀ character ∈ (writeShapes shapes ++ rest).head?, isMark character = true := by
  cases shapes with
  | nil => exact closing_is_mark closing
  | cons next more =>
      obtain ⟨-, ⟨nextFits, -⟩, apart⟩ := fits
      obtain ⟨first, behind, split, -, mark, -⟩ := write_readable nextFits
      intro character found
      obtain rfl : first = character := by simpa [writeShapes, split] using found
      rw [mark, apart text next rfl]
      rfl

theorem plain_split {first second : String} {rest otherRest : List Char}
    (plain : isPlain first = true) (otherPlain : isPlain second = true)
    (ends : ∀ character ∈ rest.head?, isMark character = true)
    (otherEnds : ∀ character ∈ otherRest.head?, isMark character = true)
    (same : first.toList ++ rest = second.toList ++ otherRest) :
    first = second ∧ rest = otherRest := by
  have front : ∀ (text : String) (behind : List Char), isPlain text = true →
      (∀ character ∈ behind.head?, isMark character = true) →
      (text.toList ++ behind).takeWhile (fun character => !isMark character) = text.toList := by
    intro text behind plain ends
    rw [List.takeWhile_append_of_pos (List.all_eq_true.mp plain)]
    cases behind with
    | nil => simp
    | cons next more => simp [ends next rfl]
  have texts : first.toList = second.toList := by
    rw [← front first rest plain ends, same, front second otherRest otherPlain otherEnds]
  rw [texts] at same
  exact ⟨String.toList_inj.mp texts, List.append_cancel_left same⟩

mutual

/-- A shape is given by any sequence that it begins. Only text has no end of its
own and needs a mark behind it. -/
theorem write_shape_split : ∀ (first : InlineShape) (outer : List Wrapping)
    (second : InlineShape) (rest otherRest : List Char),
    readable outer first → readable outer second →
    (isText first = true → ∀ character ∈ rest.head?, isMark character = true) →
    (isText second = true → ∀ character ∈ otherRest.head?, isMark character = true) →
    writeShape first ++ rest = writeShape second ++ otherRest →
      first = second ∧ rest = otherRest
  | first, outer, second, rest, otherRest, fits, otherFits, ends, otherEnds, same => by
      have opening : openingOf first = openingOf second := by
        obtain ⟨character, behind, split, opening, -⟩ := write_readable fits
        obtain ⟨other, otherBehind, otherSplit, otherOpening, -⟩ := write_readable otherFits
        rw [split, otherSplit] at same
        rw [← opening, ← otherOpening, (List.cons.inj same).1]
      cases first with
      | text text =>
          cases second with
          | text other =>
              obtain ⟨rfl, behind⟩ :=
                plain_split fits.2 otherFits.2 (ends rfl) (otherEnds rfl) same
              exact ⟨rfl, behind⟩
          | source raw => exact otherFits.elim
          | _ => cases opening
      | wrapped wrapping inner =>
          cases second with
          | wrapped other otherInner =>
              obtain rfl : wrapping = other := Opening.wrapped.inj opening
              simp only [writeShape, List.cons_append, List.append_assoc, List.cons.injEq, true_and,
                List.nil_append] at same
              obtain ⟨rfl, behind⟩ := write_shapes_split inner _ otherInner _ _ fits.2 otherFits.2
                (closing_delimiter wrapping outer rest)
                (closing_delimiter wrapping outer otherRest) same
              exact ⟨rfl, (List.cons.inj behind).2⟩
          | _ => cases opening
      | link href inner =>
          cases second with
          | link other otherInner =>
              have bar := @mark_at_head '|' rfl
              simp only [writeShape, List.cons_append, List.append_assoc, List.cons.injEq, true_and,
                List.nil_append] at same
              obtain ⟨rfl, labels⟩ := plain_split fits.1 otherFits.1 (bar _) (bar _) same
              obtain ⟨rfl, behind⟩ := write_shapes_split inner _ otherInner _ _ fits.2 otherFits.2
                (closing_link outer rest) (closing_link outer otherRest) (List.cons.inj labels).2
              exact ⟨rfl, (List.cons.inj behind).2⟩
          | image href text => exact otherFits.elim
          | _ => cases opening
      | code text =>
          cases second with
          | code other =>
              have tick := @mark_at_head '\x60' rfl
              simp only [writeShape, List.cons_append, List.append_assoc, List.cons.injEq, true_and,
                List.nil_append] at same
              obtain ⟨rfl, behind⟩ := plain_split fits otherFits (tick _) (tick _) same
              exact ⟨rfl, (List.cons.inj behind).2⟩
          | _ => cases opening
      | lineBreak =>
          cases second with
          | lineBreak => exact ⟨rfl, (List.cons.inj same).2⟩
          | _ => cases opening
      | image href text => exact fits.elim
      | source raw => exact fits.elim

theorem write_shapes_split : ∀ (first : List InlineShape) (outer : List Wrapping)
    (second : List InlineShape) (rest otherRest : List Char),
    allReadable outer first → allReadable outer second → Closing outer rest →
    Closing outer otherRest → writeShapes first ++ rest = writeShapes second ++ otherRest →
      first = second ∧ rest = otherRest
  | [], _, [], _, _, _, _, _, _, same => ⟨rfl, same⟩
  | [], outer, shape :: shapes, rest, otherRest, _, fits, closing, _, same =>
      (closing_not_written fits closing same).elim
  | shape :: shapes, outer, [], rest, otherRest, fits, _, _, closing, same =>
      (closing_not_written fits closing same.symm).elim
  | shape :: shapes, outer, other :: others, rest, otherRest, fits, otherFits, closing,
      otherClosing, same => by
      simp only [writeShapes, List.append_assoc] at same
      obtain ⟨rfl, behind⟩ := write_shape_split shape outer other _ _ fits.1 otherFits.1
        (mark_behind_text fits closing) (mark_behind_text otherFits otherClosing) same
      obtain ⟨rfl, ending⟩ := write_shapes_split shapes outer others rest otherRest fits.2.1
        otherFits.2.1 closing otherClosing behind
      exact ⟨rfl, ending⟩

end

/-- Inline tokens that can be separated have the same markup exactly when they
have the same containers, targets, code and text, whatever their sources and
titles and however their text is cut. -/
theorem same_markup_iff_same_shapes {first second : List Token}
    (separate : allSeparable [] first = true) (otherSeparate : allSeparable [] second = true) :
    renderInline first = renderInline second ↔ shapesOf first = shapesOf second := by
  have nothing : Closing [] [] := by
    rintro character ⟨⟩
  rw [← String.toList_inj, ← write_shapes_of, ← write_shapes_of]
  constructor
  · intro same
    exact (write_shapes_split _ [] _ [] [] (all_readable_shapes_of first [] separate)
      (all_readable_shapes_of second [] otherSeparate) nothing nothing
      (congrArg (· ++ []) same)).1
  · intro same
    rw [same]

/-- Two empty wrappings side by side, one wrapping inside another, a link with a
title, and text that is cut in two ways. -/
theorem adjacent_wrappings_read_back :
    let first : List Token :=
      [.strong [] "****", .strong [.em [.text "a" none "a", .text "b" none "b"] ""] "",
        .link "u" (some "t") [.del [] "", .text "" none "", .br "\n"] ""]
    let second : List Token :=
      [.strong [.text "" none ""] "", .text "" none "x", .strong [.em [.text "ab" none ""] "_"] "*",
        .link "u" none [.del [] "~~", .br ""] ""]
    allSeparable [] first = true ∧ allSeparable [] second = true ∧
      renderInline first = "***_ab_*<u|~~\n>" ∧ shapesOf first = shapesOf second := by
  intro first second
  have markup : renderInline first = renderInline second := by decide
  exact ⟨by decide, by decide, by decide,
    (same_markup_iff_same_shapes (by decide) (by decide)).mp markup⟩

/-- A strong token inside a strong token cannot be told from two in a row. -/
example : renderInline [.strong [.strong [] ""] ""] = renderInline [.strong [] "", .strong [] ""] :=
  rfl

end ChatBlocks.InlineMarkup
