import ChatBlocks.Markdown.Html
import ChatBlocks.Markdown.Target

/-!
# Lines that start a block

A line that could start a block of its own ends the paragraph or table before
it. A list may do so only if its first item is not empty and, when it is
numbered, has the number one; but inside a table, or when the line leaves a
container, any list may.
-/

namespace ChatBlocks.Markdown.Source

def footnoteLabel? (source : Source) (offset : Nat) : Option (String × Nat) := do
  if source.startsWith offset ['[', '^'] then
    let (label, stop) ← source.label? false (fun _ => none) (offset + 2)
    if source.hasAt stop ':' then some (label, stop + 1) else none
  else
    none

/-- Whether a list item that starts at an offset ends the block before it.
Where `anyItem` does not hold, an empty item or one that counts from another
number than one does not. -/
def itemInterrupts (source : Source) (anyItem : Bool) (offset : Nat) : Bool :=
  match source.listMarker? offset with
  | none => false
  | some marker =>
      anyItem || ((marker.bullet || marker.number == 1) && !source.isEmptyItem marker.stop)

/-- Whether the text of a line ends the block before it. `anyItem` says whether
any list item does so. -/
def startsBlock (source : Source) (anyItem : Bool) (offset : Nat) : Bool :=
  source.isLineEndAt offset
    || source.isRule offset
    || (source.headingRank? offset).isSome
    || (source.fence? offset).isSome
    || source.hasAt offset '>'
    || source.itemInterrupts anyItem offset
    || (source.hasAt offset '<'
      && ((source.htmlBlockEnd? (offset + 1)).isSome || source.isBlockTag (offset + 1)))
    || (source.footnoteLabel? offset).isSome

end ChatBlocks.Markdown.Source
