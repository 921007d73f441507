import ChatBlocks.Conversion
import ChatBlocks.Proofs.BuilderForest
import Mathlib.Data.List.Forall2

/-!
# The checkbox of a list item

A checkbox marker belongs to the item it stands in. It reaches the item either
directly, as in a tight list, or in a paragraph of the item, as in a loose one.
The containers that are open after some events are followed here by their tags
alone, with the markers that reached each item; the builder's frames are held
against them through every run. An item keeps the last marker that reached it
directly, whatever comes between the marker and the item's end. A marker in a
paragraph of the item is not recorded.
-/

namespace ChatBlocks.Checkboxes

open Markdown (Event LocatedEvent Span Tag)
open EventForest ForestTokens BuilderForest

structure Marker where
  checked : Bool
  inParagraph : Bool
  deriving DecidableEq, Repr

structure OpenContainer where
  tag : Tag
  /-- The markers that reached the container, if it is an item. -/
  markers : List Marker
  deriving DecidableEq, Repr

def receiveMarker (checked : Bool) : List OpenContainer → List OpenContainer
  | ⟨.item, markers⟩ :: outer => ⟨.item, markers ++ [⟨checked, false⟩]⟩ :: outer
  | ⟨.paragraph, own⟩ :: ⟨.item, markers⟩ :: outer =>
      ⟨.paragraph, own⟩ :: ⟨.item, markers ++ [⟨checked, true⟩]⟩ :: outer
  | containers => containers

/-- One event; a `leave` without an open container does nothing. -/
def follow (containers : List OpenContainer) (located : LocatedEvent) : List OpenContainer :=
  match roleOf located.event with
  | .enter tag => ⟨tag, []⟩ :: containers
  | .leave => containers.tail
  | .leaf (.taskMarker checked) => receiveMarker checked containers
  | .leaf _ => containers

/-- The containers that are open after some events, innermost first. -/
def containersAfter (events : List LocatedEvent) : List OpenContainer :=
  events.foldl follow []

def lastState (markers : List Marker) : Option Bool :=
  markers.getLast?.map Marker.checked

def lastDirectState (markers : List Marker) : Option Bool :=
  lastState (markers.filter fun marker => !marker.inParagraph)

theorem last_direct_state_direct (markers : List Marker) (checked : Bool) :
    lastDirectState (markers ++ [⟨checked, false⟩]) = some checked := by
  simp [lastDirectState, lastState]

theorem last_direct_state_in_paragraph (markers : List Marker) (checked : Bool) :
    lastDirectState (markers ++ [⟨checked, true⟩]) = lastDirectState markers := by
  simp [lastDirectState]

theorem task_of_append (first second : List Contribution) :
    taskOf (first ++ second) = (taskOf second).or (taskOf first) := by
  induction first with
  | nil => simp [taskOf]
  | cons contribution rest ih =>
      cases contribution with
      | task checked =>
          simp only [List.cons_append, taskOf, ih]
          cases taskOf second <;> rfl
      | _ => exact ih

theorem task_of_inlines (tokens : List Token) : taskOf (tokens.map .inline) = none := by
  induction tokens with
  | nil => rfl
  | cons token rest ih => exact ih

theorem task_of_leaf (source : String) (context : Context) {leaf : LeafEvent} (span : Span)
    (unmarked : ∀ checked, leaf ≠ .taskMarker checked) :
    taskOf (leafContributions source context leaf span) = none := by
  cases leaf with
  | taskMarker checked => exact absurd rfl (unmarked checked)
  | text text =>
      rw [leafContributions]
      split
      · rfl
      · exact task_of_inlines _
  | html html | inlineHtml html =>
      rw [leafContributions]
      split <;> rfl
  | _ => rfl

theorem task_of_container (source : String) (options : LexOptions) (context : Context)
    (tag : Tag) (closed : Span) (contributions : List Contribution) :
    taskOf [containerContribution source options context tag closed contributions] = none := by
  cases tag <;> simp only [containerContribution] <;> first | rfl | (split <;> rfl)

/-- A frame is what its container was entered as, with contributions of which,
for an item, the last checkbox is the last direct marker. -/
def StandsFor (frame : Frame) (container : OpenContainer) : Prop :=
  ∃ contributions, frame = contributions.foldl absorbFrame ⟨.ofTag container.tag, []⟩ ∧
    (container.tag = .item → taskOf contributions = lastDirectState container.markers)

theorem stands_for_absorbed {frame : Frame} {container : OpenContainer}
    (stands : StandsFor frame container) {contributions : List Contribution}
    (unmarked : taskOf contributions = none) :
    StandsFor (contributions.foldl absorbFrame frame) container := by
  obtain ⟨earlier, rfl, task⟩ := stands
  refine ⟨earlier ++ contributions, (List.foldl_append ..).symm, ?_⟩
  intro item
  rw [task_of_append, unmarked, Option.none_or, task item]

variable {builder : Builder} {containers : List OpenContainer}

theorem absorb_all_keeps_containers (kept : List.Forall₂ StandsFor builder.stack containers)
    {contributions : List Contribution} (unmarked : taskOf contributions = none) :
    List.Forall₂ StandsFor (absorbAll builder contributions).stack containers := by
  cases opened : builder.stack with
  | nil =>
      have height := height_absorb_all contributions builder
      rw [opened] at height kept
      rwa [List.eq_nil_of_length_eq_zero height]
  | cons frame below =>
      rw [opened] at kept
      rw [absorb_all_open contributions builder frame below opened]
      cases kept with
      | cons stands outer => exact .cons (stands_for_absorbed stands unmarked) outer

theorem leave_filled {tag : Tag} {contributions : List Contribution} {below : List Frame}
    (opened : builder.stack = contributions.foldl absorbFrame ⟨.ofTag tag, []⟩ :: below)
    (closed : Span) :
    builder.leave closed =
      absorb { builder with stack := below }
        (containerContribution builder.source builder.options (stackContext below) tag closed
          contributions) := by
  have parent : frameParent (.ofTag tag) = parentKind tag := by
    cases tag <;> rfl
  rw [foldl_absorb_frame, parent] at opened
  simp only [Builder.leave, opened]
  exact deliver_filled { builder with stack := below } tag contributions closed

theorem leave_keeps_containers (kept : List.Forall₂ StandsFor builder.stack containers)
    (span : Span) : List.Forall₂ StandsFor (builder.leave span).stack containers.tail := by
  cases opened : builder.stack with
  | nil =>
      rw [opened] at kept
      cases kept
      simp [Builder.leave, opened]
  | cons frame below =>
      rw [opened] at kept
      cases kept with
      | @cons _ container _ _ stands outer =>
          obtain ⟨contributions, rfl, -⟩ := stands
          rw [leave_filled opened]
          have unmarked := task_of_container builder.source builder.options (stackContext below)
            container.tag span contributions
          exact @absorb_all_keeps_containers { builder with stack := below } _ outer _ unmarked

theorem stands_for_direct_marker {frame : Frame} {markers : List Marker}
    (stands : StandsFor frame ⟨.item, markers⟩) (checked : Bool) :
    StandsFor (absorbFrame frame (.task checked)) ⟨.item, markers ++ [⟨checked, false⟩]⟩ := by
  obtain ⟨contributions, rfl, -⟩ := stands
  refine ⟨contributions ++ [.task checked], ?_, ?_⟩
  · rw [List.foldl_append]
    rfl
  · intro _
    rw [task_of_append, last_direct_state_direct]
    rfl

theorem stands_for_inner_marker {frame : Frame} {markers : List Marker}
    (stands : StandsFor frame ⟨.item, markers⟩) (checked : Bool) :
    StandsFor frame ⟨.item, markers ++ [⟨checked, true⟩]⟩ := by
  obtain ⟨contributions, same, task⟩ := stands
  refine ⟨contributions, same, ?_⟩
  intro item
  rw [task item, last_direct_state_in_paragraph]

theorem stands_for_beside_items {frame : Frame} {container : OpenContainer}
    (stands : StandsFor frame container) (other : container.tag ≠ .item)
    (contribution : Contribution) : StandsFor (absorbFrame frame contribution) container := by
  obtain ⟨contributions, rfl, -⟩ := stands
  refine ⟨contributions ++ [contribution], ?_, fun item => absurd item other⟩
  rw [List.foldl_append]
  rfl

theorem inner_marker_keeps_containers {stack : List Frame} {container : OpenContainer}
    {outer : List OpenContainer} (kept : List.Forall₂ StandsFor stack (container :: outer))
    (other : container.tag ≠ .item) (checked : Bool) :
    List.Forall₂ StandsFor stack (receiveMarker checked (container :: outer)) := by
  unfold receiveMarker
  split
  · rename_i same
    obtain ⟨rfl, -⟩ := List.cons.inj same
    exact absurd rfl other
  · rename_i same
    rw [same] at kept
    cases kept with
    | cons paragraph kept =>
        cases kept with
        | cons item kept =>
            exact .cons paragraph (.cons (stands_for_inner_marker item checked) kept)
  · exact kept

theorem marker_keeps_containers (kept : List.Forall₂ StandsFor builder.stack containers)
    (checked : Bool) :
    List.Forall₂ StandsFor (builder.pushTask checked).stack (receiveMarker checked containers) := by
  obtain ⟨source, options, stack, out, lastBlockEnd⟩ := builder
  cases kept with
  | nil => exact .nil
  | @cons frame container below outer stands kept =>
      have pushed : (Builder.pushTask ⟨source, options, frame :: below, out, lastBlockEnd⟩
          checked).stack = absorbFrame frame (.task checked) :: below := by
        obtain ⟨kind, tokens⟩ := frame
        cases kind <;> rfl
      rw [pushed]
      by_cases item : container.tag = .item
      · obtain ⟨tag, markers⟩ := container
        obtain rfl : tag = .item := item
        exact .cons (stands_for_direct_marker stands checked) kept
      · apply inner_marker_keeps_containers _ item
        exact .cons (stands_for_beside_items stands item (.task checked)) kept

theorem push_keeps_containers (kept : List.Forall₂ StandsFor builder.stack containers)
    (located : LocatedEvent) :
    List.Forall₂ StandsFor (builder.push located).stack (follow containers located) := by
  obtain ⟨event, span⟩ := located
  cases role : roleOf event with
  | enter tag =>
      obtain rfl : event = Event.enter tag := event_of_role role
      exact .cons ⟨[], rfl, fun _ => rfl⟩ kept
  | leave =>
      obtain rfl : event = Event.leave := event_of_role role
      exact leave_keeps_containers kept span
  | leaf leaf =>
      obtain rfl : event = leaf.event := event_of_role role
      by_cases marker : ∃ checked, leaf = .taskMarker checked
      · obtain ⟨checked, rfl⟩ := marker
        exact marker_keeps_containers kept checked
      · have unmarked : ∀ checked, leaf ≠ .taskMarker checked :=
          fun checked same => marker ⟨checked, same⟩
        have followed : follow containers ⟨leaf.event, span⟩ = containers := by
          cases leaf <;> first | rfl | exact absurd rfl (unmarked _)
        rw [followed, push_leaf]
        exact absorb_all_keeps_containers kept (task_of_leaf _ _ span unmarked)

theorem run_keeps_containers (events : List LocatedEvent)
    (kept : List.Forall₂ StandsFor builder.stack containers) :
    List.Forall₂ StandsFor (builder.pushAll events).stack (events.foldl follow containers) := by
  induction events generalizing builder containers with
  | nil => exact kept
  | cons located rest ih => exact ih (push_keeps_containers kept located)

/-- Leaving an item in a list adds it to that list with the state of the last
marker that came directly in it, and without one when there was none. That is
the last marker that reached the item at all when none came in a paragraph. -/
theorem closed_item_keeps_last_direct_marker (source : String) (options : LexOptions)
    (events : List LocatedEvent) (closed : Span) (markers own : List Marker)
    (first : Option UInt64) (outer : List OpenContainer)
    (innermost : containersAfter events = ⟨.item, markers⟩ :: ⟨.list first, own⟩ :: outer) :
    (∃ content items tokens below raw,
      ((Builder.start source options).pushAll events).stack =
          ⟨.item (lastDirectState markers), content⟩ ::
            ⟨.list first.isSome (first.getD 1) items, tokens⟩ :: below ∧
        (((Builder.start source options).pushAll events).leave closed).stack =
          ⟨.list first.isSome (first.getD 1)
            (items ++ [⟨lastDirectState markers, content, raw⟩]), tokens⟩ :: below) ∧
      ((∀ marker ∈ markers, marker.inParagraph = false) →
        lastDirectState markers = lastState markers) := by
  constructor
  · have kept : List.Forall₂ StandsFor ((Builder.start source options).pushAll events).stack
        (containersAfter events) := run_keeps_containers events .nil
    rw [innermost] at kept
    generalize (Builder.start source options).pushAll events = builder at kept ⊢
    obtain ⟨source, options, stack, out, lastBlockEnd⟩ := builder
    cases kept with
    | cons item kept =>
        cases kept with
        | @cons listFrame _ below _ list kept =>
            obtain ⟨inside, rfl, task⟩ := item
            obtain ⟨before, rfl, -⟩ := list
            have state : ((taskOf inside).map some).getD none = lastDirectState markers := by
              rw [← task rfl]
              cases taskOf inside <;> rfl
            simp only [foldl_absorb_frame, FrameKind.ofTag, filledKind, state]
            exact ⟨_, _, _, below, _, rfl, rfl⟩
  · intro direct
    rw [lastDirectState, List.filter_eq_self.mpr]
    intro marker member
    rw [direct marker member]
    rfl

theorem tight_item_keeps_marker :
    let source := "- [ ] a\n  > - b\n"
    let events : List LocatedEvent :=
      [⟨.enter (.list none), ⟨0, 16⟩⟩, ⟨.enter .item, ⟨0, 16⟩⟩, ⟨.taskMarker false, ⟨2, 5⟩⟩,
        ⟨.text "a", ⟨6, 7⟩⟩, ⟨.enter .blockquote, ⟨10, 16⟩⟩, ⟨.enter (.list none), ⟨12, 16⟩⟩,
        ⟨.enter .item, ⟨12, 16⟩⟩, ⟨.text "b", ⟨14, 15⟩⟩, ⟨.leave, ⟨12, 16⟩⟩,
        ⟨.leave, ⟨12, 16⟩⟩, ⟨.leave, ⟨10, 16⟩⟩]
    containersAfter events = [⟨.item, [⟨false, false⟩]⟩, ⟨.list none, []⟩] ∧
      ∃ content items tokens below raw,
        (((Builder.start source {}).pushAll events).leave ⟨0, 16⟩).stack =
          ⟨.list false 1 (items ++ [⟨some false, content, raw⟩]), tokens⟩ :: below := by
  intro source events
  have innermost : containersAfter events = [⟨.item, [⟨false, false⟩]⟩, ⟨.list none, []⟩] := rfl
  obtain ⟨content, items, tokens, below, raw, -, left⟩ :=
    (closed_item_keeps_last_direct_marker source {} events ⟨0, 16⟩ _ _ _ _ innermost).1
  exact ⟨innermost, content, items, tokens, below, raw, left⟩

def itemTasks : Token → List (Option Bool)
  | .list _ _ items _ => items.map ListItem.task
  | _ => []

/-- The item of a loose list holds a checked box, and its marker comes in the
item's first paragraph: the item is read without a checkbox. -/
theorem loose_item_loses_marker :
    let source := "* [x] a\n\n  b"
    let inside : List LocatedEvent :=
      [⟨.enter (.list none), ⟨0, 12⟩⟩, ⟨.enter .item, ⟨0, 12⟩⟩, ⟨.enter .paragraph, ⟨6, 8⟩⟩,
        ⟨.taskMarker true, ⟨2, 5⟩⟩, ⟨.text "a", ⟨6, 7⟩⟩, ⟨.leave, ⟨6, 8⟩⟩,
        ⟨.enter .paragraph, ⟨11, 12⟩⟩, ⟨.text "b", ⟨11, 12⟩⟩, ⟨.leave, ⟨11, 12⟩⟩]
    Markdown.events source = inside ++ [⟨.leave, ⟨0, 12⟩⟩, ⟨.leave, ⟨0, 12⟩⟩] ∧
      containersAfter inside = [⟨.item, [⟨true, true⟩]⟩, ⟨.list none, []⟩] ∧
      lastState [⟨true, true⟩] = some true ∧
      (lex {} source).flatMap itemTasks = [none] :=
  ⟨by decide +kernel, rfl, rfl, by decide +kernel⟩

end ChatBlocks.Checkboxes
