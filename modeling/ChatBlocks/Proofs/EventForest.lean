import ChatBlocks.Markdown.Event

/-!
# The forest of an event sequence

A sequence of events need not be balanced. It is balanced by dropping every
`leave` that finds no open container and by leaving, at the end of the source,
every container that is still open. The balanced sequence is the sequence of
exactly one forest, and `forestOf` reads that forest off in one pass from the
last event to the first. Ranges are carried along and never looked at.
-/

namespace ChatBlocks.EventForest

open Markdown (Event LocatedEvent Span Tag)

/-- The events that neither enter nor leave a container. -/
inductive LeafEvent where
  | text (text : String)
  | code (text : String)
  | inlineMath (text : String)
  | displayMath (text : String)
  | html (text : String)
  | inlineHtml (text : String)
  | footnoteReference (label : String)
  | softBreak
  | hardBreak
  | rule
  | taskMarker (checked : Bool)
  deriving DecidableEq, Repr

def LeafEvent.event : LeafEvent → Event
  | .text content => .text content
  | .code content => .code content
  | .inlineMath content => .inlineMath content
  | .displayMath content => .displayMath content
  | .html content => .html content
  | .inlineHtml content => .inlineHtml content
  | .footnoteReference label => .footnoteReference label
  | .softBreak => .softBreak
  | .hardBreak => .hardBreak
  | .rule => .rule
  | .taskMarker checked => .taskMarker checked

inductive EventRole where
  | enter (tag : Tag)
  | leave
  | leaf (leaf : LeafEvent)

def roleOf : Event → EventRole
  | .enter tag => .enter tag
  | .leave => .leave
  | .text text => .leaf (.text text)
  | .code text => .leaf (.code text)
  | .inlineMath text => .leaf (.inlineMath text)
  | .displayMath text => .leaf (.displayMath text)
  | .html text => .leaf (.html text)
  | .inlineHtml text => .leaf (.inlineHtml text)
  | .footnoteReference label => .leaf (.footnoteReference label)
  | .softBreak => .leaf .softBreak
  | .hardBreak => .leaf .hardBreak
  | .rule => .leaf .rule
  | .taskMarker checked => .leaf (.taskMarker checked)

def EventRole.event : EventRole → Event
  | .enter tag => .enter tag
  | .leave => .leave
  | .leaf event => event.event

@[simp] theorem role_event (event : Event) : (roleOf event).event = event := by
  cases event <;> rfl

@[simp] theorem role_of_enter (tag : Tag) : roleOf (.enter tag) = .enter tag := rfl

@[simp] theorem role_of_leave : roleOf .leave = .leave := rfl

@[simp] theorem role_of_leaf (leaf : LeafEvent) : roleOf leaf.event = .leaf leaf := by
  cases leaf <;> rfl

theorem event_of_role {event : Event} {role : EventRole} (same : roleOf event = role) :
    event = role.event := by
  rw [← same, role_event]

/-- A leaf, or a container with everything between its two events. The range
`entered` belongs to the first of them; it is kept so that a forest gives its
sequence back, and nothing is computed from it. -/
inductive EventTree where
  | leaf (leaf : LeafEvent) (span : Span)
  | node (tag : Tag) (entered : Span) (children : List EventTree) (closed : Span)

mutual

def treeEvents : EventTree → List LocatedEvent
  | .leaf leaf span => [⟨leaf.event, span⟩]
  | .node tag entered children closed =>
      ⟨.enter tag, entered⟩ :: (forestEvents children ++ [⟨.leave, closed⟩])

def forestEvents : List EventTree → List LocatedEvent
  | [] => []
  | tree :: rest => treeEvents tree ++ forestEvents rest

end

theorem forest_events_append (first second : List EventTree) :
    forestEvents (first ++ second) = forestEvents first ++ forestEvents second := by
  induction first with
  | nil => rfl
  | cons tree rest ih => simp only [List.cons_append, forestEvents, ih, List.append_assoc]

def depthAfter : Nat → List LocatedEvent → Nat
  | depth, [] => depth
  | depth, located :: rest =>
      match roleOf located.event with
      | .enter _ => depthAfter (depth + 1) rest
      | .leave => depthAfter (depth - 1) rest
      | .leaf _ => depthAfter depth rest

/-- Every `leave` belongs to one of the `depth` containers that are open at the
start or to one entered later, and at the end none is open. -/
def wellNested : Nat → List LocatedEvent → Bool
  | depth, [] => depth == 0
  | depth, located :: rest =>
      match roleOf located.event, depth with
      | .enter _, _ => wellNested (depth + 1) rest
      | .leave, 0 => false
      | .leave, outer + 1 => wellNested outer rest
      | .leaf _, _ => wellNested depth rest

/-- The sequence without the `leave`s that find nothing open, and with one at
`stop` for every container that is open at its end. -/
def balancedFrom (stop : Nat) : Nat → List LocatedEvent → List LocatedEvent
  | depth, [] => List.replicate depth ⟨.leave, ⟨stop, stop⟩⟩
  | depth, located :: rest =>
      match roleOf located.event, depth with
      | .enter _, _ => located :: balancedFrom stop (depth + 1) rest
      | .leave, 0 => balancedFrom stop 0 rest
      | .leave, outer + 1 => located :: balancedFrom stop outer rest
      | .leaf _, _ => located :: balancedFrom stop depth rest

theorem balanced_of_well_nested (stop : Nat) (events : List LocatedEvent) :
    ∀ depth, wellNested depth events = true → balancedFrom stop depth events = events := by
  induction events with
  | nil =>
      intro depth nested
      have none : depth = 0 := by simpa [wellNested] using nested
      simp [balancedFrom, none]
  | cons located rest ih =>
      intro depth nested
      cases role : roleOf located.event with
      | enter tag =>
          simp only [wellNested, role] at nested
          simp only [balancedFrom, role, ih _ nested]
      | leaf leaf =>
          simp only [wellNested, role] at nested
          simp only [balancedFrom, role, ih _ nested]
      | leave =>
          cases depth with
          | zero => simp [wellNested, role] at nested
          | succ outer =>
              simp only [wellNested, role] at nested
              simp only [balancedFrom, role, ih _ nested]

/-- Balancing works piece by piece when the first piece leaves nothing open. -/
theorem balanced_append (stop : Nat) (first second : List LocatedEvent) :
    ∀ depth, depthAfter depth first = 0 →
      balancedFrom stop depth (first ++ second) =
        balancedFrom stop depth first ++ balancedFrom stop 0 second := by
  induction first with
  | nil =>
      intro depth closed
      have none : depth = 0 := closed
      simp [balancedFrom, none]
  | cons located rest ih =>
      intro depth closed
      cases role : roleOf located.event with
      | enter tag =>
          simp only [depthAfter, role] at closed
          simp only [List.cons_append, balancedFrom, role, ih _ closed]
      | leaf leaf =>
          simp only [depthAfter, role] at closed
          simp only [List.cons_append, balancedFrom, role, ih _ closed]
      | leave =>
          simp only [depthAfter, role] at closed
          cases depth with
          | zero => simp only [List.cons_append, balancedFrom, role, ih 0 closed]
          | succ outer => simp only [List.cons_append, balancedFrom, role, ih outer closed]

/-- A tail of a sequence, read: the trees before its first `leave` without a
partner, and each such `leave` with the trees behind it. -/
structure Reading where
  trees : List EventTree
  closings : List (Span × List EventTree)

/-- Puts one event before a tail. A container takes the trees up to the first
`leave` without a partner; when there is none, it ends with the source. -/
def readEvent (stop : Nat) (located : LocatedEvent) (tail : Reading) : Reading :=
  match roleOf located.event, tail.closings with
  | .leaf leaf, closings => ⟨.leaf leaf located.span :: tail.trees, closings⟩
  | .leave, closings => ⟨[], (located.span, tail.trees) :: closings⟩
  | .enter tag, [] => ⟨[.node tag located.span tail.trees ⟨stop, stop⟩], []⟩
  | .enter tag, (closed, after) :: closings =>
      ⟨.node tag located.span tail.trees closed :: after, closings⟩

def readEvents (stop : Nat) (events : List LocatedEvent) : Reading :=
  events.foldr (readEvent stop) ⟨[], []⟩

/-- The forest of a sequence: the trees on both sides of every surplus `leave`. -/
def forestOf (stop : Nat) (events : List LocatedEvent) : List EventTree :=
  (readEvents stop events).trees ++ (readEvents stop events).closings.flatMap (·.2)

/-- The events behind the first trees of a reading, when `depth` containers are
open in front of it: so many of its `leave`s have a partner there. -/
def closingEvents (stop : Nat) : Nat → List (Span × List EventTree) → List LocatedEvent
  | depth, [] => List.replicate depth ⟨.leave, ⟨stop, stop⟩⟩
  | 0, (_, trees) :: rest => forestEvents trees ++ closingEvents stop 0 rest
  | outer + 1, (closed, trees) :: rest =>
      ⟨.leave, closed⟩ :: (forestEvents trees ++ closingEvents stop outer rest)

/-- The invariant of the reading pass: at every depth, the trees and closings
read so far spell the balanced tail. -/
theorem balanced_eq_reading_events (stop : Nat) (events : List LocatedEvent) :
    ∀ depth, balancedFrom stop depth events =
      forestEvents (readEvents stop events).trees ++
        closingEvents stop depth (readEvents stop events).closings := by
  induction events with
  | nil => intro depth; simp [balancedFrom, readEvents, forestEvents, closingEvents]
  | cons located rest ih =>
      intro depth
      have read : readEvents stop (located :: rest) =
          readEvent stop located (readEvents stop rest) := rfl
      rw [read]
      unfold balancedFrom readEvent
      generalize readEvents stop rest = tail at ih ⊢
      obtain ⟨event, span⟩ := located
      cases role : roleOf event with
      | leaf leaf =>
          obtain rfl : event = leaf.event := event_of_role role
          simp [ih, forestEvents, treeEvents]
      | leave =>
          obtain rfl : event = Event.leave := event_of_role role
          cases depth <;> simp [ih, forestEvents, closingEvents]
      | enter tag =>
          obtain rfl : event = Event.enter tag := event_of_role role
          rcases tail with ⟨trees, _ | ⟨⟨closed, after⟩, closings⟩⟩ <;>
            simp [ih, forestEvents, treeEvents, closingEvents, List.replicate_succ]

theorem forest_events_forest_of (stop : Nat) (events : List LocatedEvent) :
    forestEvents (forestOf stop events) = balancedFrom stop 0 events := by
  have surplus : ∀ closings : List (Span × List EventTree),
      closingEvents stop 0 closings = forestEvents (closings.flatMap (·.2)) := by
    intro closings
    induction closings with
    | nil => rfl
    | cons closing rest ih =>
        simp only [closingEvents, List.flatMap_cons, forest_events_append, ih]
  rw [balanced_eq_reading_events, forestOf, forest_events_append, surplus]

/-- The first `leave` finds nothing open, and the paragraph ends with the source. -/
example :
    forestOf 9 [⟨.leave, ⟨0, 1⟩⟩, ⟨.enter .paragraph, ⟨2, 5⟩⟩, ⟨.softBreak, ⟨3, 4⟩⟩] =
      [.node .paragraph ⟨2, 5⟩ [.leaf .softBreak ⟨3, 4⟩] ⟨9, 9⟩] := rfl

mutual

theorem read_tree_events (stop : Nat) : ∀ (tree : EventTree) (tail : Reading),
    (treeEvents tree).foldr (readEvent stop) tail = ⟨tree :: tail.trees, tail.closings⟩
  | .leaf leaf span, tail => by simp [treeEvents, readEvent]
  | .node tag entered children closed, tail => by
      simp only [treeEvents, List.foldr_cons, List.foldr_append, List.foldr_nil]
      rw [read_forest_events stop children]
      simp [readEvent]

theorem read_forest_events (stop : Nat) : ∀ (forest : List EventTree) (tail : Reading),
    (forestEvents forest).foldr (readEvent stop) tail = ⟨forest ++ tail.trees, tail.closings⟩
  | [], tail => rfl
  | tree :: rest, tail => by
      simp only [forestEvents, List.foldr_append]
      rw [read_forest_events stop rest, read_tree_events stop tree]
      rfl

end

/-- A forest is read back from its events, so it is the only one with them. -/
theorem forest_of_forest_events (stop : Nat) (forest : List EventTree) :
    forestOf stop (forestEvents forest) = forest := by
  simp [forestOf, readEvents, read_forest_events]

theorem forest_events_of_well_nested (stop : Nat) {events : List LocatedEvent}
    (nested : wellNested 0 events = true) : forestEvents (forestOf stop events) = events := by
  rw [forest_events_forest_of, balanced_of_well_nested stop events 0 nested]

theorem forest_of_append (stop : Nat) {first : List LocatedEvent} (second : List LocatedEvent)
    (closed : depthAfter 0 first = 0) :
    forestOf stop (first ++ second) = forestOf stop first ++ forestOf stop second := by
  have events : forestEvents (forestOf stop (first ++ second)) =
      forestEvents (forestOf stop first ++ forestOf stop second) := by
    rw [forest_events_append]
    simp only [forest_events_forest_of]
    exact balanced_append stop first second 0 closed
  have read := congrArg (forestOf stop) events
  simpa only [forest_of_forest_events] using read

end ChatBlocks.EventForest
