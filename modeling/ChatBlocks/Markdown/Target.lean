import ChatBlocks.Markdown.Entity

/-!
# Link targets

Destinations, titles and labels, and the links written between angle brackets.
In a table a pipe can only be written behind a backslash, which is taken away
before all else; so there two backslashes before a pipe count as one escape.
-/

namespace ChatBlocks.Markdown

/-- Replaces escapes and character references; `done` is the text so far and
`start` the offset from which nothing is copied yet. -/
def unescapeFrom (source : Source) (inTable : Bool) : Nat → String → Nat → Nat → String
  | 0, done, start, _ => done ++ source.slice start source.size
  | fuel + 1, done, start, offset =>
      match source.at? offset with
      | none => done ++ source.slice start source.size
      | some character =>
          if inTable && source.startsWith offset ['\\', '\\', '|'] then
            unescapeFrom source inTable fuel (done ++ source.slice start offset) (offset + 2)
              (offset + 3)
          else if source.isEscapeAt offset then
            unescapeFrom source inTable fuel (done ++ source.slice start offset) (offset + 1)
              (offset + 2)
          else if character == '\r' then
            unescapeFrom source inTable fuel (done ++ source.slice start offset) (offset + 1)
              (offset + 1)
          else
            match source.reference? offset with
            | some (text, stop) =>
                unescapeFrom source inTable fuel (done ++ source.slice start offset ++ text) stop
                  stop
            | none => unescapeFrom source inTable fuel done start (offset + 1)

def unescape (inTable : Bool) (text : String) : String :=
  let source := Source.ofText text
  unescapeFrom source inTable (source.size + 1) "" 0 0

namespace Source

def angleDestination? (source : Source) (start : Nat) : Nat → Nat → Option (String × Nat)
  | 0, _ => none
  | fuel + 1, offset =>
      match source.at? offset with
      | none => none
      | some character =>
          if isLineEnd character || character == '<' then none
          else if character == '>' then some (source.slice start offset, offset + 1)
          else if source.isEscapeAt offset then source.angleDestination? start fuel (offset + 2)
          else source.angleDestination? start fuel (offset + 1)

/-- The end of a bare destination: the first blank, control character or
closing parenthesis without a partner. -/
def bareDestinationEnd? (source : Source) (deepest : Nat) : Nat → Nat → Nat → Option Nat
  | 0, _, _ => none
  | fuel + 1, depth, offset =>
      let done : Option Nat := if depth = 0 then some offset else none
      match source.at? offset with
      | none => done
      | some character =>
          if character.toNat ≤ 0x20 then done
          else if character == '(' then
            if deepest < depth then none
            else source.bareDestinationEnd? deepest fuel (depth + 1) (offset + 1)
          else if character == ')' then
            if depth = 0 then some offset
            else source.bareDestinationEnd? deepest fuel (depth - 1) (offset + 1)
          else if source.isEscapeAt offset then
            source.bareDestinationEnd? deepest fuel depth (offset + 2)
          else
            source.bareDestinationEnd? deepest fuel depth (offset + 1)

/-- A destination with its escapes in place, and the offset after it. A bare
one may hold parentheses up to `deepest` deep. -/
def destination? (source : Source) (deepest offset : Nat) : Option (String × Nat) :=
  if source.hasAt offset '<' then
    source.angleDestination? (offset + 1) (source.size + 1) (offset + 1)
  else
    (source.bareDestinationEnd? deepest (source.size + 1) 0 offset).map fun stop =>
      (source.slice offset stop, stop)

structure LabelScan where
  offset : Nat
  done : String
  start : Nat
  blank : Bool
  /-- What the label weighs, which must be less than a thousand. An escape
  weighs two, white space at least one, a byte beyond ASCII one, and all else
  nothing. -/
  weight : Nat

/-- Passes white space inside a label; at most one line may end in it. The
result has the offset reached, and whether the white space is anything else
than one space. -/
def labelSpace? (source : Source) (afterLine? : Nat → Option Nat) :
    Nat → Nat → Nat → Nat → Option (Nat × Nat)
  | 0, _, _, _ => none
  | fuel + 1, lineEnds, width, offset =>
      if source.testAt offset isLineEnd then
        if lineEnds = 0 then
          match (source.lineEnd? offset).bind afterLine? with
          | some next => source.labelSpace? afterLine? fuel 1 (width + 2) next
          | none => none
        else
          none
      else if source.hasAt offset ' ' then
        source.labelSpace? afterLine? fuel lineEnds (width + 1) (offset + 1)
      else if source.testAt offset isLineSpace then
        source.labelSpace? afterLine? fuel lineEnds (width + 2) (offset + 1)
      else
        some (offset, width)

def labelFrom? (source : Source) (inTable : Bool) (afterLine? : Nat → Option Nat) :
    Nat → LabelScan → Option (String × Nat)
  | 0, _ => none
  | fuel + 1, scan =>
      if 1000 ≤ scan.weight then none
      else
        match source.at? scan.offset with
        | none => none
        | some character =>
            if character == '[' then none
            else if character == ']' then
              if scan.blank then none
              else
                let label := scan.done ++ source.slice scan.start scan.offset
                let trimmed := label.toList.dropWhile isAsciiSpace
                let trimmed := (trimmed.reverse.dropWhile isAsciiSpace).reverse
                some (String.ofList trimmed, scan.offset + 1)
            else if inTable && character == '\\' && source.startsWith scan.offset ['\\', '|'] then
              source.labelFrom? inTable afterLine? fuel
                { scan with
                  done := scan.done ++ source.slice scan.start scan.offset
                  start := scan.offset + 1
                  offset := scan.offset + 2
                  blank := false
                  weight := scan.weight + 1 }
            else if character == '\\' then
              source.labelFrom? inTable afterLine? fuel
                { scan with offset := scan.offset + 2, blank := false, weight := scan.weight + 2 }
            else if isAsciiSpace character then
              match source.labelSpace? afterLine? (source.size + 1) 0 0 scan.offset with
              | none => none
              | some (offset, width) =>
                  if 1 < width then
                    source.labelFrom? inTable afterLine? fuel
                      { scan with
                        offset
                        done := scan.done ++ source.slice scan.start scan.offset ++ " "
                        start := offset
                        weight := scan.weight + (offset - scan.offset) }
                  else
                    source.labelFrom? inTable afterLine? fuel
                      { scan with offset, weight := scan.weight + 1 }
            else
              source.labelFrom? inTable afterLine? fuel
                { scan with
                  offset := scan.offset + 1
                  blank := false
                  weight := if character.toNat < 0x80 then scan.weight else scan.weight + 1 }

/-- A label from behind its opening bracket: its text with white space
collapsed, and the offset after the closing bracket. `afterLine?` says where
the label goes on in the next line, or that it cannot. -/
def label? (source : Source) (inTable : Bool) (afterLine? : Nat → Option Nat) (offset : Nat) :
    Option (String × Nat) :=
  source.labelFrom? inTable afterLine? (source.size + 1) ⟨offset, "", offset, true, 0⟩

/-- The address of a link between angle brackets, from behind the opening one:
a scheme of 2 to 32 characters, a colon, and no blank or bracket. -/
def uri? (source : Source) (offset : Nat) : Option (String × Nat) :=
  if source.testAt offset isAsciiLetter then
    let colon := source.skipWhile
      (fun c => isAsciiAlphanumeric c || c == '.' || c == '-' || c == '+') (offset + 1)
    if source.hasAt colon ':' && 2 ≤ colon - offset && colon - offset ≤ 32 then
      let stop := source.skipWhile (fun c => 0x20 < c.toNat && c != '<' && c != '>') (colon + 1)
      if source.hasAt stop '>' then some (source.slice offset stop, stop + 1) else none
    else
      none
  else
    none

def isMailboxChar (character : Char) : Bool :=
  isAsciiAlphanumeric character || ".!#$%&'*+/=?^_\x60\x7b|\x7d~-".toList.contains character

/-- The labels of a domain: letters, digits and inner hyphens, at most 63. -/
def domainEnd? (source : Source) : Nat → Nat → Option Nat
  | 0, _ => none
  | fuel + 1, offset =>
      let stop := source.skipWhile (fun c => isAsciiAlphanumeric c || c == '-') offset
      if stop = offset ∨ 63 < stop - offset ∨ source.hasAt offset '-' ∨ source.hasAt (stop - 1) '-'
      then none
      else if source.hasAt stop '.' then source.domainEnd? fuel (stop + 1)
      else some stop

def mailAddress? (source : Source) (offset : Nat) : Option (String × Nat) := do
  let sign := source.skipWhile isMailboxChar offset
  if offset < sign && source.hasAt sign '@' then
    let stop ← source.domainEnd? (source.size + 1) (sign + 1)
    if source.hasAt stop '>' then some (source.slice offset stop, stop + 1) else none
  else
    none

def autolink? (source : Source) (offset : Nat) : Option (String × Nat) :=
  (source.uri? offset).or (source.mailAddress? offset)

end Source

end ChatBlocks.Markdown
