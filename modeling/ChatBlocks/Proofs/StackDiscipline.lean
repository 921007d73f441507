import ChatBlocks.Proofs.BuilderForest

/-!
# What a balanced sequence leaves alone

A sequence of events in which every container that is entered is left again
works on the innermost open container alone, whatever frames are open and
whatever they hold. The frames below it, the output and the place where the last
block ended stay as they were. The innermost frame stays the kind of container
it was and grows at its end: new tokens come behind its tokens, of which at most
the last one is lengthened.
-/

namespace ChatBlocks.StackDiscipline

open Markdown (LocatedEvent)
open EventForest ForestTokens BuilderForest

/-- More tokens at the end of a sequence, the last of which may be lengthened.
All tokens before the last one stay. -/
inductive GrownAtEnd (lengthened : Token → Token → Prop) : List Token → List Token → Prop
  | behind (added : List Token) : GrownAtEnd lengthened [] added
  | longer {last longer : Token} (added : List Token) (more : lengthened last longer) :
      GrownAtEnd lengthened [last] (longer :: added)
  | before (token : Token) {earlier later : List Token}
      (grown : GrownAtEnd lengthened earlier later) :
      GrownAtEnd lengthened (token :: earlier) (token :: later)

inductive LongerLeaf : Token → Token → Prop
  | more (text raw moreText moreRaw : String) :
      LongerLeaf (.text text none raw) (.text (text ++ moreText) none (raw ++ moreRaw))

/-- A run is lengthened by tokens at its end, and its texts by their source. -/
inductive LongerRun : Token → Token → Prop
  | more (text raw moreRaw : String) {run longer : List Token}
      (grown : GrownAtEnd LongerLeaf run longer) :
      LongerRun (.text text (some run) raw) (.text (text ++ moreRaw) (some longer) (raw ++ moreRaw))

/-- Only an item lengthens a run, and only another container a text leaf. -/
def lengthenedIn (parent : ParentKind) : Token → Token → Prop :=
  if parent = .item then LongerRun else LongerLeaf

variable {lengthened : Token → Token → Prop}

theorem grown_behind_front (front : List Token) {earlier later : List Token}
    (grown : GrownAtEnd lengthened earlier later) :
    GrownAtEnd lengthened (front ++ earlier) (front ++ later) := by
  induction front with
  | nil => exact grown
  | cons token rest ih => exact .before token ih

theorem grown_append (lengthened : Token → Token → Prop) (tokens added : List Token) :
    GrownAtEnd lengthened tokens (tokens ++ added) := by
  have first : GrownAtEnd lengthened [] added := .behind added
  have behind := grown_behind_front tokens first
  rwa [List.append_nil] at behind

theorem grown_refl (lengthened : Token → Token → Prop) (tokens : List Token) :
    GrownAtEnd lengthened tokens tokens := by
  have unchanged := grown_append lengthened tokens []
  rwa [List.append_nil] at unchanged

/-- Growth composes when lengthening one token does. -/
theorem grown_trans
    (compose : ∀ first second third, lengthened first second → lengthened second third →
      lengthened first third)
    {first second third : List Token} (early : GrownAtEnd lengthened first second)
    (late : GrownAtEnd lengthened second third) : GrownAtEnd lengthened first third := by
  induction early generalizing third with
  | behind added => exact .behind third
  | longer added more =>
      cases late with
      | longer behind again => exact .longer behind (compose _ _ _ more again)
      | before token later => exact .longer _ more
  | before token grown ih =>
      cases late with
      | before same later => exact .before token (ih later)
      | longer behind more =>
          -- The token is the last one of the second sequence, so it was the last one before.
          cases grown
          exact .longer behind more

theorem longer_leaf_trans (first second third : Token) (early : LongerLeaf first second)
    (late : LongerLeaf second third) : LongerLeaf first third := by
  obtain ⟨text, raw, moreText, moreRaw⟩ := early
  obtain ⟨_, _, laterText, laterRaw⟩ := late
  rw [String.append_assoc, String.append_assoc]
  exact .more text raw (moreText ++ laterText) (moreRaw ++ laterRaw)

theorem longer_run_trans (first second third : Token) (early : LongerRun first second)
    (late : LongerRun second third) : LongerRun first third := by
  obtain ⟨text, raw, moreRaw, grown⟩ := early
  obtain ⟨_, _, laterRaw, later⟩ := late
  rw [String.append_assoc, String.append_assoc]
  exact .more text raw (moreRaw ++ laterRaw) (grown_trans longer_leaf_trans grown later)

theorem lengthened_trans (parent : ParentKind) (first second third : Token)
    (early : lengthenedIn parent first second) (late : lengthenedIn parent second third) :
    lengthenedIn parent first third := by
  unfold lengthenedIn at *
  by_cases item : parent = .item
  · rw [if_pos item] at *
    exact longer_run_trans first second third early late
  · rw [if_neg item] at *
    exact longer_leaf_trans first second third early late

theorem append_inline_grown (tokens : List Token) (token : Token) :
    GrownAtEnd LongerLeaf tokens (appendInline tokens token) := by
  rcases append_inline_cases tokens token with
    ⟨front, text, raw, nextText, nextRaw, rfl, rfl, joined⟩ | ⟨added, -⟩
  · rw [joined]
    apply grown_behind_front
    exact .longer [] (.more text raw nextText nextRaw)
  · rw [added]
    exact grown_append LongerLeaf tokens [token]

theorem append_to_run_grown (tokens : List Token) (token : Token) :
    GrownAtEnd LongerRun tokens (appendToRun tokens token) := by
  rcases append_to_run_cases tokens token with
    ⟨front, text, run, raw, rfl, joined⟩ | ⟨added, -⟩
  · rw [joined]
    apply grown_behind_front
    exact .longer [] (.more text raw token.raw (append_inline_grown run token))
  · rw [added]
    exact grown_append LongerRun tokens _

theorem place_token_grown (parent : ParentKind) (tokens : List Token)
    (contribution : Contribution) :
    GrownAtEnd (lengthenedIn parent) tokens (placeToken parent tokens contribution) := by
  cases contribution with
  | inline token =>
      rw [placeToken, lengthenedIn]
      split
      · exact append_to_run_grown tokens token
      · exact append_inline_grown tokens token
  | block token span => exact grown_append _ tokens [token]
  | _ => exact grown_refl _ tokens

theorem placed_tokens_grown (parent : ParentKind) (contributions : List Contribution)
    (tokens : List Token) :
    GrownAtEnd (lengthenedIn parent) tokens (contributions.foldl (placeToken parent) tokens) := by
  induction contributions generalizing tokens with
  | nil => exact grown_refl _ tokens
  | cons contribution rest ih =>
      have first := place_token_grown parent tokens contribution
      have later := ih (placeToken parent tokens contribution)
      exact grown_trans (lengthened_trans parent) first later

/-- What a frame knows about its container, after some growth. The container is
of the kind it was. Code, items, rows and cells come behind the earlier ones; a
table's header gives way to a later one, and so does an item's checkbox. -/
inductive GrownKind : FrameKind → FrameKind → Prop
  | same (kind : FrameKind) : GrownKind kind kind
  | code (lang : Option String) (text more : String) :
      GrownKind (.code lang text) (.code lang (text ++ more))
  | list (ordered : Bool) (start : UInt64) (items more : List ListItem) :
      GrownKind (.list ordered start items) (.list ordered start (items ++ more))
  | item (task : Option Bool) (checked : Bool) : GrownKind (.item task) (.item (some checked))
  | table (header later : List TableCell) (rows more : List (List TableCell)) :
      GrownKind (.table header rows) (.table later (rows ++ more))
  | tableHead (cells more : List TableCell) :
      GrownKind (.tableHead cells) (.tableHead (cells ++ more))
  | tableRow (cells more : List TableCell) :
      GrownKind (.tableRow cells) (.tableRow (cells ++ more))

structure GrownFrame (frame grown : Frame) : Prop where
  kind : GrownKind frame.kind grown.kind
  tokens : GrownAtEnd (lengthenedIn (frameParent frame.kind)) frame.tokens grown.tokens

theorem same_constructor_of_grown {kind grown : FrameKind} (grows : GrownKind kind grown) :
    grown.ctorIdx = kind.ctorIdx := by
  cases grows <;> rfl

theorem filled_kind_grown (contributions : List Contribution) (kind : FrameKind) :
    GrownKind kind (filledKind contributions kind) := by
  cases kind with
  | code lang text => exact .code lang text (codeTextOf contributions)
  | list ordered start items => exact .list ordered start items (itemsOf contributions)
  | item task =>
      rw [filledKind]
      cases taskOf contributions with
      | none => exact .same (.item task)
      | some checked => exact .item task checked
  | table header rows => exact .table header _ rows (rowsOf contributions)
  | tableHead cells => exact .tableHead cells (cellsOf contributions)
  | tableRow cells => exact .tableRow cells (cellsOf contributions)
  | _ => exact .same _

theorem absorbed_frame_grown (contributions : List Contribution) (frame : Frame) :
    GrownFrame frame (contributions.foldl absorbFrame frame) := by
  rw [foldl_absorb_frame]
  constructor
  · exact filled_kind_grown contributions frame.kind
  · exact placed_tokens_grown (frameParent frame.kind) contributions frame.tokens

/-- A balanced sequence, in any state in which a container is open: nothing of
the state changes but the innermost frame, which stays a frame of its kind and
grows at its end. -/
theorem balanced_events_grow_innermost (builder : Builder) {frame : Frame} {below : List Frame}
    (opened : builder.stack = frame :: below) {events : List LocatedEvent}
    (balanced : wellNested 0 events = true) :
    ∃ grown : Frame,
      builder.pushAll events = { builder with stack := grown :: below } ∧
        grown.kind.ctorIdx = frame.kind.ctorIdx ∧ GrownFrame frame grown := by
  -- The events are those of a forest, which hands its contributions to the innermost frame.
  let forest := forestOf builder.source.utf8ByteSize events
  let contributions := forestContributions builder.source builder.options
    (stackContext builder.stack) forest
  have grows := absorbed_frame_grown contributions frame
  refine ⟨contributions.foldl absorbFrame frame, ?_, same_constructor_of_grown grows.kind, grows⟩
  calc
    builder.pushAll events = builder.pushAll (forestEvents forest) := by
      rw [forest_events_of_well_nested builder.source.utf8ByteSize balanced]
    _ = absorbAll builder contributions := push_forest forest builder
    _ = { builder with stack := contributions.foldl absorbFrame frame :: below } :=
      absorb_all_open contributions builder frame below opened

/-- A quoted item that holds a run: text and emphasis lengthen the run, and a
row, which an item has no place for, becomes a token behind it. -/
theorem quoted_item_grows :
    let source := "---\n> - ab**c**|d|"
    let item : Frame := ⟨.item none, [.text "a" (some [.text "a" none "a"]) "a"]⟩
    let below : List Frame := [⟨.list false 1 [], []⟩, ⟨.blockquote, []⟩]
    let builder : Builder := ⟨source, {}, item :: below, [.hr "---"], some 3⟩
    let events : List LocatedEvent :=
      [⟨.text "b", ⟨9, 10⟩⟩, ⟨.enter .strong, ⟨10, 15⟩⟩, ⟨.text "c", ⟨12, 13⟩⟩,
        ⟨.leave, ⟨10, 15⟩⟩, ⟨.taskMarker true, ⟨15, 15⟩⟩, ⟨.enter .tableRow, ⟨15, 18⟩⟩,
        ⟨.enter .tableCell, ⟨16, 17⟩⟩, ⟨.text "d", ⟨16, 17⟩⟩, ⟨.leave, ⟨16, 17⟩⟩,
        ⟨.leave, ⟨15, 18⟩⟩]
    wellNested 0 events = true ∧
      (builder.pushAll events).stack.map (fun frame => frame.tokens.map Token.raw) =
        [["ab**c**", "|d|"], [], []] ∧
      ∃ grown : Frame,
        builder.pushAll events = { builder with stack := grown :: below } ∧
          grown.kind.ctorIdx = item.kind.ctorIdx ∧ GrownFrame item grown := by
  intro source item below builder events
  have balanced : wellNested 0 events = true := rfl
  exact ⟨balanced, by decide, balanced_events_grow_innermost builder rfl balanced⟩

end ChatBlocks.StackDiscipline
