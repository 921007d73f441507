import ChatBlocks.Markdown.LabelFold
import ChatBlocks.Markdown.Table

/-!
# Link definitions

A definition gives a label a destination and perhaps a title. It may go over
several lines, as long as each of them could go on with a paragraph.
-/

namespace ChatBlocks.Markdown

structure LinkDefinition where
  destination : String
  title : String

structure ReadDefinition where
  label : String
  definition : LinkDefinition
  stop : Nat

/-- Whether the text of a line that would go on with a definition starts a
block instead. -/
def breaksDefinition (source : Source) (containers : List Container) (line : ContainedLine)
    (needsInside : Bool) : Bool :=
  let (indented, place) := line.place.takeExactly source 4
  !indented
    && (source.interruptsParagraph containers line.inside place.offset
      || ((line.inside || !needsInside) && (source.underline? place.offset).isSome))

/-- Passes white space with at most one line ending in it. -/
def definitionSpace? (source : Source) (containers : List Container) :
    Nat → Nat → Nat → Option (Nat × Nat)
  | 0, _, _ => none
  | fuel + 1, lineEnds, offset =>
      let offset := source.skipSpace offset
      match source.lineEnd? offset with
      | none => some (offset, lineEnds)
      | some next =>
          if next = offset then some (offset, lineEnds)
          else if lineEnds = 0 then
            let line := containedLine source containers next
            if breaksDefinition source containers line false then none
            else
              let (_, place) := line.place.takeExactly source 4
              definitionSpace? source containers fuel 1 place.offset
          else
            none

def titleFrom? (source : Source) (containers : List Container) (opening closing : Char) :
    Nat → String → Nat → Nat → Option (String × Nat)
  | 0, _, _, _ => none
  | fuel + 1, done, start, offset =>
      match source.at? offset with
      | none => none
      | some character =>
          if character == closing then some (done ++ source.slice start offset, offset + 1)
          else if character == opening then none
          else if isLineEnd character then
            let next := (source.lineEnd? offset).getD offset
            let line := containedLine source containers next
            if breaksDefinition source containers line false then none
            else
              let place := line.place.takeAll source
              if (source.blankLine? place.offset).isSome then none
              else
                titleFrom? source containers opening closing fuel
                  (done ++ source.slice start offset ++ "\n") place.offset place.offset
          else if character == '\\' && !source.testAt (offset + 1) isLineEnd then
            titleFrom? source containers opening closing fuel done start (offset + 2)
          else
            titleFrom? source containers opening closing fuel done start (offset + 1)

def definitionTitle? (source : Source) (containers : List Container) (offset : Nat) :
    Option (String × Nat) := do
  let opening ← source.at? offset
  let closing ←
    if opening == '"' || opening == '\'' then some opening
    else if opening == '(' then some ')'
    else none
  titleFrom? source containers opening closing (source.size + 1) "" (offset + 1) (offset + 1)

/-- The destination and title of a definition, from behind its colon. A title
that does not end its line is no title; then the definition stands only if it
ends on the line before. -/
def definitionBody? (source : Source) (containers : List Container) (offset : Nat) :
    Option (LinkDefinition × Nat) := do
  let (start, _) ← definitionSpace? source containers (source.size + 1) 0 offset
  let (destination, stop) ← source.destination? 1 start
  if stop = start then none
  else
    let untitled : LinkDefinition × Nat := (⟨unescape false destination, ""⟩, stop)
    match definitionSpace? source containers (source.size + 1) 0 stop with
    | none => some untitled
    | some (next, lineEnds) =>
        let lineEnds := if source.size ≤ stop then lineEnds + 1 else lineEnds
        if next = stop ∧ lineEnds = 0 then none
        else
          let fallback := if 0 < lineEnds then some untitled else none
          match definitionTitle? source containers next with
          | none => fallback
          | some (title, stop) =>
              if (source.blankLine? stop).isSome then
                some (⟨unescape false destination, unescape false title⟩, stop)
              else
                fallback

def linkDefinition? (source : Source) (containers : List Container) (offset : Nat) :
    Option ReadDefinition := do
  if source.hasAt offset '[' then
    let afterLine (next : Nat) : Option Nat :=
      let line := containedLine source containers next
      if breaksDefinition source containers line true then none else some line.place.offset
    let (label, stop) ← source.label? false afterLine (offset + 1)
    if source.hasAt stop ':' then
      let (definition, stop) ← definitionBody? source containers (stop + 1)
      some ⟨foldLabel label, definition, stop⟩
    else
      none
  else
    none

end ChatBlocks.Markdown
