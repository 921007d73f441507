import ChatBlocks.Markdown.Scan

/-!
# Raw HTML

HTML is recognised by its form alone. A block of HTML is told by how its first
line starts; inside a paragraph a tag, a comment, a processing instruction, a
declaration or a CDATA section may stand, over several lines if need be.
-/

namespace ChatBlocks.Markdown

def blockTags : List String := [
  "address", "article", "aside", "base", "basefont", "blockquote", "body", "caption", "center",
  "col", "colgroup", "dd", "details", "dialog", "dir", "div", "dl", "dt", "fieldset",
  "figcaption", "figure", "footer", "form", "frame", "frameset", "h1", "h2", "h3", "h4", "h5",
  "h6", "head", "header", "hr", "html", "iframe", "legend", "li", "link", "main", "menu",
  "menuitem", "nav", "noframes", "ol", "optgroup", "option", "p", "param", "search", "section",
  "summary", "table", "tbody", "td", "tfoot", "th", "thead", "title", "tr", "track", "ul"]

/-- The tags whose content is not Markdown, each with its end. -/
def verbatimTags : List (String × String) :=
  [("pre", "</pre>"), ("style", "</style>"), ("script", "</script>"),
    ("textarea", "</textarea>")]

def markedStarts : List (String × String) :=
  [("!--", "-->"), ("?", "?>"), ("![CDATA[", "]]>")]

/-- What a scan of a tag has passed: the offset it reached and the parts it
left out, last one first. -/
structure TagScan where
  offset : Nat
  skipped : List (Nat × Nat)

namespace Source

def hasLetters (source : Source) (offset : Nat) : List Char → Bool
  | [] => true
  | letter :: rest =>
      (source.testAt offset fun character => character.toLower == letter)
        && source.hasLetters (offset + 1) rest

/-- What ends the HTML block that starts behind a `<`, for a block that does
not end at a blank line. -/
def htmlBlockEnd? (source : Source) (offset : Nat) : Option String :=
  let verbatim := verbatimTags.find? fun (tag, _) =>
    source.hasLetters offset tag.toList
      && (source.at? (offset + tag.length)).all fun next => isAsciiSpace next || next == '>'
  let marked := markedStarts.find? fun (start, _) => source.startsWith offset start.toList
  match verbatim.or marked with
  | some (_, stop) => some stop
  | none =>
      if source.hasAt offset '!' && source.testAt (offset + 1) isAsciiLetter then some ">"
      else none

def isBlockTag (source : Source) (offset : Nat) : Bool :=
  let start := if source.hasAt offset '/' then offset + 1 else offset
  let stop := source.skipWhile isAsciiAlphanumeric start
  let name := String.ofList ((source.slice start stop).toList.map Char.toLower)
  blockTags.contains name
    && (source.isLineEndAt stop || source.hasAt stop ' ' || source.hasAt stop '\t'
      || source.hasAt stop '>' || source.startsWith stop ['/', '>'])

/-- Skips white space. `afterLine?` says where a line goes on behind the
markers of its containers; without it no line may end here. -/
def skipTagSpace (source : Source) (afterLine? : Option (Nat → Nat)) :
    Nat → TagScan → Option TagScan
  | 0, scan => some scan
  | fuel + 1, scan =>
      let offset := source.skipSpace scan.offset
      if source.testAt offset isLineEnd then
        match afterLine?, source.lineEnd? offset with
        | some afterLine, some next =>
            let resumed := max next (afterLine next)
            let skipped :=
              if next < resumed then (next, resumed) :: scan.skipped else scan.skipped
            source.skipTagSpace afterLine? fuel ⟨resumed, skipped⟩
        | _, _ => none
      else
        some { scan with offset := offset }

def isAttributeStart (character : Char) : Bool :=
  isAsciiLetter character || character == '_' || character == ':'

def isAttributeChar (character : Char) : Bool :=
  isAsciiAlphanumeric character || character == '_' || character == '.' || character == ':'
    || character == '-'

def isBareValueChar (character : Char) : Bool :=
  !(character == '\'' || character == '"' || character == ' ' || character == '='
    || character == '>' || character == '<' || character == '\x60' || isLineEnd character)

def skipQuotedValue (source : Source) (afterLine? : Option (Nat → Nat)) (quote : Char) :
    Nat → TagScan → Option TagScan
  | 0, _ => none
  | fuel + 1, scan =>
      let offset :=
        source.skipWhile (fun character => character != quote && !isLineEnd character) scan.offset
      match source.at? offset with
      | none => none
      | some character =>
          if character == quote then some { scan with offset := offset + 1 }
          else
            match source.skipTagSpace afterLine? (source.size + 1) { scan with offset } with
            | some scan => source.skipQuotedValue afterLine? quote fuel scan
            | none => none

def skipAttributeValue (source : Source) (afterLine? : Option (Nat → Nat)) (scan : TagScan) :
    Option TagScan := do
  let first ← source.at? scan.offset
  if first == '"' || first == '\'' then
    source.skipQuotedValue afterLine? first (source.size + 1)
      { scan with offset := scan.offset + 1 }
  else if isBareValueChar first then
    some { scan with offset := source.skipWhile isBareValueChar scan.offset }
  else
    none

def skipAttribute (source : Source) (afterLine? : Option (Nat → Nat)) (scan : TagScan) :
    Option TagScan := do
  if source.testAt scan.offset isAttributeStart then
    let named := { scan with offset := source.skipWhile isAttributeChar scan.offset }
    let spaced ← source.skipTagSpace afterLine? (source.size + 1) named
    if source.hasAt spaced.offset '=' then
      let valued ← source.skipTagSpace afterLine? (source.size + 1)
        { spaced with offset := spaced.offset + 1 }
      source.skipAttributeValue afterLine? valued
    else
      some named
  else
    none

def skipAttributes (source : Source) (afterLine? : Option (Nat → Nat)) :
    Nat → TagScan → Option TagScan
  | 0, _ => none
  | fuel + 1, scan =>
      match source.skipTagSpace afterLine? (source.size + 1) scan with
      | none => none
      | some spaced =>
          if source.hasAt spaced.offset '/' || source.hasAt spaced.offset '>' then some spaced
          else if spaced.offset = scan.offset then none
          else
            match source.skipAttribute afterLine? spaced with
            | some scan => source.skipAttributes afterLine? fuel scan
            | none => none

def tag? (source : Source) (afterLine? : Option (Nat → Nat)) (offset : Nat) :
    Option TagScan := do
  let closing := source.hasAt (offset + 1) '/'
  let start := if closing then offset + 2 else offset + 1
  if source.testAt start isAsciiLetter then
    let nameEnd := source.skipWhile
      (fun character => isAsciiAlphanumeric character || character == '-') start
    let scan ←
      if closing then some ⟨nameEnd, []⟩
      else source.skipAttributes afterLine? (source.size + 1) ⟨nameEnd, []⟩
    let offset := source.skipSpace scan.offset
    let offset := if !closing && source.hasAt offset '/' then offset + 1 else offset
    if source.hasAt offset '>' then some { scan with offset := offset + 1 } else none
  else
    none

def isTagLine (source : Source) (offset : Nat) : Bool :=
  match source.tag? none offset with
  | some scan => (source.blankLine? scan.offset).isSome
  | none => false

def commentEnd? (source : Source) (offset : Nat) : Option Nat :=
  if source.hasAt offset '>' then some (offset + 1)
  else if source.startsWith offset ['-', '>'] then some (offset + 2)
  else (source.find? ['-', '-', '>'] offset).map (· + 3)

/-- A CDATA section, whose text starts behind `<![CDATA[`. The first closing
brackets in it must be its end. -/
def sectionEnd? (source : Source) (offset : Nat) : Option Nat :=
  let brackets := source.skipWhile (· != ']') offset
  let stop := source.skipWhile (· == ']') brackets
  if brackets < stop && source.hasAt stop '>' then some (stop + 1) else none

def declarationEnd? (source : Source) (offset : Nat) : Option Nat :=
  if source.startsWith offset ['-', '-'] then source.commentEnd? (offset + 2)
  else if source.startsWith offset "[CDATA[".toList then source.sectionEnd? (offset + 7)
  else if source.testAt offset isAsciiLetter then
    (source.find? ['>'] (offset + 1)).map (· + 1)
  else
    none

def textWithout (source : Source) (start : Nat) (scan : TagScan) : String :=
  let (text, rest) := scan.skipped.foldr
    (fun (first, last) (text, rest) => (text ++ source.slice rest first, last)) ("", start)
  text ++ source.slice rest scan.offset

/-- Raw HTML inside a paragraph that starts with `<` at an offset: its text
and the offset after it. -/
def inlineHtml? (source : Source) (afterLine : Nat → Nat) (offset : Nat) :
    Option (String × Nat) :=
  if source.hasAt (offset + 1) '!' then
    (source.declarationEnd? (offset + 2)).map fun stop => (source.slice offset stop, stop)
  else if source.hasAt (offset + 1) '?' then
    (source.find? ['?', '>'] (offset + 2)).map fun mark =>
      (source.slice offset (mark + 2), mark + 2)
  else
    (source.tag? (some afterLine) offset).map fun scan =>
      (source.textWithout offset scan, scan.offset)

end Source

end ChatBlocks.Markdown
