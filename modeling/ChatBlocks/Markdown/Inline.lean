import ChatBlocks.Markdown.Event
import ChatBlocks.Markdown.Html
import ChatBlocks.Markdown.Definition
import ChatBlocks.Markdown.Target

/-!
# Inline content

The pieces of a block become inline nodes from left to right. Code spans, raw
HTML and links between angle brackets are read where they start. A closing
bracket is paired with the last opening one; the two are a link when a target
follows or when a definition fits their label. A link never lies inside a link,
so the brackets that opened before a link are disabled. Emphasis marks are only
passed on here.
-/

namespace ChatBlocks.Markdown

inductive EmphasisStyle where
  | emphasis
  | strong
  | strikethrough
  deriving DecidableEq

/-- A run of emphasis marks that is not paired yet. -/
structure EmphasisRun where
  mark : Char
  start : Nat
  count : Nat
  opens : Bool
  closes : Bool
  deriving DecidableEq

inductive Inline where
  | text (span : Span)
  | literal (text : String) (span : Span)
  | code (text : String) (span : Span)
  | html (text : String) (span : Span)
  | softBreak (span : Span)
  | hardBreak (backslash : Bool) (span : Span)
  | task (checked : Bool) (span : Span)
  | footnote (label : String) (span : Span)
  | run (run : EmphasisRun)
  | link (image : Bool) (definition : LinkDefinition) (span : Span) (children : List Inline)
  | styled (style : EmphasisStyle) (span : Span) (children : List Inline)

structure InlineContext where
  source : Source
  containers : List Container
  inTable : Bool
  definitions : List (String × LinkDefinition)
  footnotes : List String

inductive BracketKind where
  | link
  | image
  | disabled
  deriving DecidableEq

/-- An opening bracket, with the nodes before it, last one first. -/
structure OpenBracket where
  kind : BracketKind
  span : Span
  before : List Inline

structure InlineScan where
  /-- The opening brackets without a partner, innermost first. -/
  brackets : List OpenBracket
  /-- The nodes behind the innermost of them, last one first. -/
  nodes : List Inline

namespace InlineScan

def add (scan : InlineScan) (node : Inline) : InlineScan :=
  { scan with nodes := node :: scan.nodes }

/-- Gives up the innermost opening bracket: it is text. -/
def giveUp (scan : InlineScan) : InlineScan :=
  match scan.brackets with
  | [] => scan
  | bracket :: rest => ⟨rest, scan.nodes ++ Inline.text bracket.span :: bracket.before⟩

/-- The nodes when all opening brackets are given up, last one first. -/
def flatten (brackets : List OpenBracket) (nodes : List Inline) : List Inline :=
  match brackets with
  | [] => nodes
  | bracket :: rest => flatten rest (nodes ++ Inline.text bracket.span :: bracket.before)

def disableLinks (scan : InlineScan) : InlineScan :=
  { scan with
    brackets := scan.brackets.map fun bracket =>
      if bracket.kind = .link then { bracket with kind := .disabled } else bracket }

end InlineScan

/-- The pieces from an offset on. A piece that the offset cuts loses its
beginning. -/
def piecesFrom (offset : Nat) (pieces : List Piece) : List Piece :=
  match pieces.dropWhile fun piece => piece.stop ≤ offset with
  | [] => []
  | piece :: rest => { piece with start := max piece.start offset } :: rest

namespace InlineContext

def afterLine (context : InlineContext) (offset : Nat) : Nat :=
  behindContainers context.source context.containers offset

/-- The content of a code span: line endings are spaces, and in a table a pipe
loses its backslash. -/
def codeText (context : InlineContext) (stop : Nat) : Nat → Nat → Nat → String → String
  | 0, start, _, done => done ++ context.source.slice start stop
  | fuel + 1, start, offset, done =>
      if stop ≤ offset then done ++ context.source.slice start stop
      else
        let copied := done ++ context.source.slice start offset
        if context.source.testAt offset isLineEnd then
          let next := min stop (max (offset + 1) (context.afterLine (offset + 1)))
          context.codeText stop fuel next next (copied ++ " ")
        else if context.inTable && context.source.startsWith offset ['\\', '|'] then
          context.codeText stop fuel (offset + 2) (offset + 2) (copied ++ "|")
        else
          context.codeText stop fuel start (offset + 1) done

/-- Takes one space off each end, if there is one at both ends and anything
else between them. -/
def trimCode (text : String) : String :=
  let characters := text.toList
  if characters.head? == some ' ' && characters.getLast? == some ' '
      && !characters.all (· == ' ') then
    String.ofList characters.tail.dropLast
  else
    text

def codeSpan (context : InlineContext) (start stop : Nat) : String :=
  trimCode (context.codeText stop (stop - start + 1) start start "")

/-- White space between the parts of a link target, with at most one line
ending in it. -/
def skipTargetSpace (context : InlineContext) (offset : Nat) : Nat :=
  let offset := context.source.skipSpace offset
  match context.source.lineEnd? offset with
  | some next => context.source.skipSpace (max next (context.afterLine next))
  | none => offset

/-- The rest of a title up to its closing mark. Behind a line ending the title
goes on where the next piece starts. -/
def titleText? (context : InlineContext) (opening closing : Char) (pieces : List Piece) :
    Nat → String → Nat → Nat → Option (String × Nat)
  | 0, _, _, _ => none
  | fuel + 1, done, start, offset =>
      let source := context.source
      let copied := done ++ source.slice start offset
      match source.at? offset with
      | none => none
      | some character =>
          if character == closing then some (copied, offset + 1)
          else if character == opening then none
          else
            let resumed : Option Nat :=
              if isLineEnd character then
                match pieces.dropWhile fun piece => piece.stop ≤ offset + 1 with
                | piece :: _ => if offset < piece.start then some piece.start else none
                | [] => none
              else
                none
            match resumed with
            | some next => context.titleText? opening closing pieces fuel (copied ++ "\n") next next
            | none =>
                match source.reference? offset with
                | some (text, stop) =>
                    context.titleText? opening closing pieces fuel (copied ++ text) stop stop
                | none =>
                    if context.inTable && source.startsWith offset ['\\', '\\', '|'] then
                      context.titleText? opening closing pieces fuel copied (offset + 2)
                        (offset + 3)
                    else if source.isEscapeAt offset then
                      context.titleText? opening closing pieces fuel copied (offset + 1)
                        (offset + 2)
                    else
                      context.titleText? opening closing pieces fuel done start (offset + 1)

def title? (context : InlineContext) (pieces : List Piece) (offset : Nat) :
    Option (String × Nat) := do
  let opening ← context.source.at? offset
  let closing ←
    if opening == '"' || opening == '\'' then some opening
    else if opening == '(' then some ')'
    else none
  context.titleText? opening closing pieces (context.source.size + 1) "" (offset + 1) (offset + 1)

def target? (context : InlineContext) (pieces : List Piece) (offset : Nat) :
    Option (LinkDefinition × Nat) := do
  if context.source.hasAt offset '(' then
    let start := context.skipTargetSpace (offset + 1)
    let (destination, stop) ← context.source.destination? 32 start
    let next := context.skipTargetSpace stop
    let (title, stop) :=
      match context.title? pieces next with
      | some (title, stop) => (title, context.skipTargetSpace stop)
      | none => ("", next)
    if context.source.hasAt stop ')' then
      some (⟨unescape context.inTable destination, title⟩, stop + 1)
    else
      none
  else
    none

inductive Label where
  | link (label : String)
  | footnote (label : String)

/-- A label that starts with its opening bracket at an offset, and the offset
behind it. A footnote's label starts with a circumflex and has no line ending
in it. -/
def label? (context : InlineContext) (offset : Nat) : Option (Label × Nat) := do
  let source := context.source
  if source.hasAt offset '[' then
    let footnote :=
      if source.hasAt (offset + 1) '^' && !source.hasAt (offset + 2) ']' then
        source.label? context.inTable (fun _ => none) (offset + 2)
      else
        none
    match footnote with
    | some (label, stop) => some (.footnote label, stop)
    | none =>
        let (label, stop) ← source.label? context.inTable (some <| context.afterLine ·) (offset + 1)
        some (.link label, stop)
  else
    none

def definition? (context : InlineContext) (label : String) : Option LinkDefinition :=
  let folded := foldLabel label
  (context.definitions.find? (·.1 == folded)).map (·.2)

def hasFootnote (context : InlineContext) (label : String) : Bool :=
  context.footnotes.contains (foldLabel label)

inductive ReferenceForm where
  | full (label : String) (stop : Nat)
  | collapsed
  /-- Nothing: the brackets hold the label. -/
  | shortcut

def referenceForm (context : InlineContext) (rest : List Piece) : ReferenceForm :=
  match rest with
  | [] => .shortcut
  | piece :: _ =>
      if context.source.startsWith piece.start ['[', ']'] then .collapsed
      else
        match context.label? piece.start with
        | some (.link label, stop) => .full label stop
        | _ => .shortcut

/-- The pieces when the closing bracket of a label cannot refer again. -/
def markTried (stop : Nat) : List Piece → List Piece
  | [] => []
  | piece :: rest =>
      if piece.stop < stop then piece :: markTried stop rest
      else { piece with kind := .bracketClose false } :: rest

def closeLink (scan : InlineScan) (bracket : OpenBracket) (outer : List OpenBracket)
    (definition : LinkDefinition) (stop : Nat) : InlineScan :=
  let image := bracket.kind == .image
  let node := Inline.link image definition ⟨bracket.span.start, stop⟩ scan.nodes.reverse
  let closed : InlineScan := ⟨outer, node :: bracket.before⟩
  if image then closed else closed.disableLinks

/-- The scan when a pair of brackets is a reference to a footnote. An
exclamation mark before it is text. -/
def closeFootnote (bracket : OpenBracket) (outer : List OpenBracket) (label : String)
    (stop : Nat) : InlineScan :=
  let start := bracket.span.start
  let nodes :=
    if bracket.kind == .image then
      .footnote label ⟨start + 1, stop⟩ :: .literal "!" ⟨start, start + 1⟩ :: bracket.before
    else
      .footnote label ⟨start, stop⟩ :: bracket.before
  ⟨[], InlineScan.flatten outer nodes⟩

/-- Pairs a closing bracket that has no target behind it. The result has the
pieces to go on with. -/
def closeReference (context : InlineContext) (mayRefer : Bool) (scan : InlineScan)
    (bracket : OpenBracket) (outer : List OpenBracket) (piece : Piece) (rest : List Piece) :
    InlineScan × List Piece :=
  let failed : InlineScan := (scan.giveUp).add (.text ⟨piece.start, piece.stop⟩)
  let own : Option Label :=
    match context.label? (bracket.span.stop - 1) with
    | some (label, stop) => if stop = piece.stop then some label else none
    | none => none
  let refer (label : String) (stop : Nat) (rest tried : List Piece) : InlineScan × List Piece :=
    match context.definition? label with
    | some definition => (closeLink scan bracket outer definition stop, rest)
    | none => (failed, tried)
  match context.referenceForm rest with
  | .full label stop =>
      match rest.dropWhile fun piece => piece.stop < stop with
      | [] => (failed, rest)
      | _ :: behind => refer label stop behind (markTried stop rest)
  | form =>
      if !mayRefer then (failed, rest)
      else
        match own with
        | some (.footnote label) =>
            if context.hasFootnote label then
              (closeFootnote bracket outer label piece.stop, rest)
            else
              (failed, rest)
        | some (.link label) =>
            let behind :=
              match form with
              | .collapsed => rest.drop 2
              | _ => rest
            refer label piece.stop behind rest
        | none => (failed, rest)

def closeBracket (context : InlineContext) (mayRefer : Bool) (scan : InlineScan) (piece : Piece)
    (rest : List Piece) : InlineScan × List Piece :=
  let text := Inline.text ⟨piece.start, piece.stop⟩
  match scan.brackets with
  | [] => (scan.add text, rest)
  | bracket :: outer =>
      if bracket.kind = .disabled then (scan.giveUp.add text, rest)
      else
        match context.target? rest piece.stop with
        | some (definition, stop) =>
            (closeLink scan bracket outer definition stop, piecesFrom stop rest)
        | none => context.closeReference mayRefer scan bracket outer piece rest

def readAngle (context : InlineContext) (scan : InlineScan) (piece : Piece) (rest : List Piece) :
    InlineScan × List Piece :=
  let text := Inline.text ⟨piece.start, piece.stop⟩
  if rest.isEmpty then (scan.add text, rest)
  else
    match context.source.autolink? piece.stop with
    | some (target, stop) =>
        let label := Inline.text ⟨piece.start + 1, stop - 1⟩
        (scan.add (.link false ⟨target, ""⟩ ⟨piece.start, stop⟩ [label]), piecesFrom stop rest)
    | none =>
        match context.source.inlineHtml? context.afterLine piece.start with
        | some (html, stop) =>
            (scan.add (.html html ⟨piece.start, stop⟩), piecesFrom stop rest)
        | none => (scan.add text, rest)

def findBackticks? (count : Nat) : List Piece → Option (Piece × List Piece)
  | [] => none
  | piece :: rest =>
      match piece.kind with
      | .backticks length _ =>
          if length = count then some (piece, rest) else findBackticks? count rest
      | _ => findBackticks? count rest

def readBackticks (context : InlineContext) (scan : InlineScan) (count : Nat) (escaped : Bool)
    (piece : Piece) (rest : List Piece) : InlineScan × List Piece :=
  let text := Inline.text ⟨piece.start, piece.stop⟩
  let length := if escaped then count - 1 else count
  if length = 0 then (scan.add text, rest)
  else
    match findBackticks? length rest with
    | none => (scan.add text, rest)
    | some (closing, behind) =>
        let start := if escaped then piece.start + 1 else piece.start
        let scan := if escaped then scan.add (.text ⟨piece.start, start⟩) else scan
        let code := context.codeSpan piece.stop closing.start
        (scan.add (.code code ⟨start, closing.stop⟩), behind)

/-- Reads one piece. The result has the pieces to go on with. -/
def readPiece (context : InlineContext) (scan : InlineScan) (piece : Piece) (rest : List Piece) :
    InlineScan × List Piece :=
  let span := Span.mk piece.start piece.stop
  match piece.kind with
  | .text => (scan.add (.text span), rest)
  | .reference text => (scan.add (.literal text span), rest)
  | .emphasis mark count opens closes =>
      (scan.add (.run ⟨mark, piece.start, count, opens, closes⟩), rest)
  | .backticks count escaped => context.readBackticks scan count escaped piece rest
  | .angle => context.readAngle scan piece rest
  | .imageOpen => (⟨⟨.image, span, scan.nodes⟩ :: scan.brackets, []⟩, rest)
  | .bracketOpen => (⟨⟨.link, span, scan.nodes⟩ :: scan.brackets, []⟩, rest)
  | .bracketClose mayRefer => context.closeBracket mayRefer scan piece rest
  | .softBreak => (scan.add (.softBreak span), rest)
  | .hardBreak backslash => (scan.add (.hardBreak backslash span), rest)
  | .task checked => (scan.add (.task checked span), rest)

def readPieces (context : InlineContext) : Nat → InlineScan → List Piece → List Inline
  | 0, scan, _ => (InlineScan.flatten scan.brackets scan.nodes).reverse
  | _ + 1, scan, [] => (InlineScan.flatten scan.brackets scan.nodes).reverse
  | fuel + 1, scan, piece :: rest =>
      let (scan, rest) := context.readPiece scan piece rest
      context.readPieces fuel scan rest

/-- The inline nodes of a block, with emphasis marks not paired yet. -/
def read (context : InlineContext) (pieces : List Piece) : List Inline :=
  context.readPieces (pieces.length + 1) ⟨[], []⟩ pieces

end InlineContext

end ChatBlocks.Markdown
