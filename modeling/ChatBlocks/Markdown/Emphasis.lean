import ChatBlocks.Markdown.Inline

/-!
# Emphasis

Runs of marks are paired from left to right: a run that may close is paired
with the last open run of its mark that fits, and whatever was open between the
two is text. Two marks of each side make strong emphasis as long as both sides
have two; one mark makes plain emphasis. Tildes pair only with a run of the
same length.
-/

namespace ChatBlocks.Markdown

/-- An open run with the nodes behind it, last one first. -/
structure OpenRun where
  run : EmphasisRun
  length : Nat
  nodes : List Inline

/-- The state of pairing: open runs, innermost first, and the nodes before
the outermost one, last one first. -/
structure Pairing where
  runs : List OpenRun
  base : List Inline
  /-- Tildes do not pair with a run below this height of the stack. -/
  tildeFloor : Nat

/-- The text of the marks of a run that were not used. -/
def EmphasisRun.text (run : EmphasisRun) : Inline :=
  .text ⟨run.start, run.start + run.count⟩

def EmphasisRun.isBoth (run : EmphasisRun) : Bool :=
  run.opens && run.closes

/-- Whether a run that closes fits an open one. A run that may do both pairs
with another only if their lengths do not add up to a multiple of three, unless
its own length is one. -/
def OpenRun.fits (openRun : OpenRun) (closing : EmphasisRun) (length : Nat) : Bool :=
  openRun.run.mark == closing.mark
    && (closing.mark != '~' || length == openRun.length)
    && ((!closing.isBoth && !openRun.run.isBoth)
      || (length + openRun.length) % 3 != 0 || length % 3 == 0)

namespace Pairing

def add (pairing : Pairing) (node : Inline) : Pairing :=
  match pairing.runs with
  | [] => { pairing with base := node :: pairing.base }
  | openRun :: rest =>
      { pairing with runs := { openRun with nodes := node :: openRun.nodes } :: rest }

/-- Finds the innermost open run that fits, no lower than `floor`. The result
has the nodes behind it, with all runs above it as text, and the runs below. -/
def find? (closing : EmphasisRun) (length floor : Nat) (nodes : List Inline) :
    List OpenRun → Option (OpenRun × List Inline × List OpenRun)
  | [] => none
  | openRun :: below =>
      if below.length < floor then none
      else
        let nodes := nodes ++ openRun.nodes
        if openRun.fits closing length then some (openRun, nodes, below)
        else find? closing length floor (nodes ++ [openRun.run.text]) below

end Pairing

def styleOf (mark : Char) (width : Nat) : EmphasisStyle :=
  if mark == '~' then .strikethrough
  else if width = 2 then .strong
  else .emphasis

/-- Wraps nodes into a number of marks on either side, the innermost first:
two marks at a time and a single one last. `start` is where the opening marks
end and `stop` where the closing ones begin. -/
def wrapMarks (mark : Char) : Nat → Nat → Nat → List Inline → List Inline
  | 0, _, _, nodes => nodes
  | 1, start, stop, nodes => [.styled (styleOf mark 1) ⟨start - 1, stop + 1⟩ nodes]
  | count + 2, start, stop, nodes =>
      wrapMarks mark count (start - 2) (stop + 2)
        [.styled (styleOf mark 2) ⟨start - 2, stop + 2⟩ nodes]

namespace Pairing

/-- Pairs a run that may close with open runs, as long as one fits and marks
are left. -/
def close (length : Nat) : Nat → EmphasisRun → Pairing → EmphasisRun × Pairing
  | 0, run, pairing => (run, pairing)
  | fuel + 1, run, pairing =>
      if run.count = 0 then (run, pairing)
      else
        let floor := if run.mark == '~' then pairing.tildeFloor else 0
        match find? run length (min floor pairing.runs.length) [] pairing.runs with
        | none =>
            let tildeFloor :=
              if run.mark == '~' then pairing.runs.length else pairing.tildeFloor
            (run, { pairing with tildeFloor })
        | some (openRun, nodes, below) =>
            let count := min run.count openRun.run.count
            let stop := openRun.run.start + openRun.run.count
            let wrapped := wrapMarks run.mark count stop run.start nodes.reverse
            let lowered : Pairing :=
              { pairing with
                runs := below
                tildeFloor := min pairing.tildeFloor below.length }
            let paired :=
              if count < openRun.run.count then
                let left := { openRun.run with count := openRun.run.count - count }
                { lowered with runs := { openRun with run := left, nodes := wrapped } :: below }
              else
                wrapped.foldl add lowered
            close length fuel
              { run with start := run.start + count, count := run.count - count } paired

def takeRun (pairing : Pairing) (run : EmphasisRun) : Pairing :=
  let length := run.count
  let (left, pairing) :=
    if run.closes then close length (run.count + 1) run pairing else (run, pairing)
  if left.count = 0 then pairing
  else if run.opens then { pairing with runs := ⟨left, length, []⟩ :: pairing.runs }
  else pairing.add left.text

def take (pairing : Pairing) : Inline → Pairing
  | .run run => pairing.takeRun run
  | node => pairing.add node

def finish (pairing : Pairing) : List Inline :=
  let reversed := pairing.runs.foldr
    (fun openRun below => openRun.nodes ++ openRun.run.text :: below) pairing.base
  reversed.reverse

end Pairing

def Inline.isRun : Inline → Bool
  | .run _ => true
  | _ => false

/-- A hard break has no line behind it at the end of a label; its backslash is
text then. -/
def endBreak : List Inline → List Inline
  | [] => []
  | [.hardBreak true span] => [.literal "\\" span]
  | node :: rest => node :: endBreak rest

def pairLevel (nodes : List Inline) : List Inline :=
  if nodes.any Inline.isRun then
    ((endBreak nodes).foldl Pairing.take ⟨[], [], 0⟩).finish
  else
    nodes

mutual

def pairInside : Inline → Inline
  | .link image definition span children =>
      .link image definition span (pairLevel (pairInsideAll children))
  | .styled style span children => .styled style span (pairInsideAll children)
  | node => node

def pairInsideAll : List Inline → List Inline
  | [] => []
  | node :: rest => pairInside node :: pairInsideAll rest

end

def pairEmphasis (nodes : List Inline) : List Inline :=
  pairLevel (pairInsideAll nodes)

end ChatBlocks.Markdown
