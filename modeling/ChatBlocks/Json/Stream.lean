import ChatBlocks.Json.Reader

/-!
# Reading a JSON text in order

A text with several faults is judged by the first of them. The readers here
take a text element by element, so that a wrong shape in one element counts
before a broken text behind it. A tagged element is read to its end before its
fields are looked at, but its tag is checked on the spot.
-/

namespace ChatBlocks.Json

/-- What a reader returns: a result with the rest of the text, or the first
fault. -/
abbrev Reading (α : Type) := Except Fault (α × List Char)

/-- The fault of a value that has another type than the one asked for: an
array or object is wrong at its first character, a scalar once it is read. -/
def faultOfOtherType (input : List Char) : Fault :=
  match skipSpace input with
  | '[' :: _ => .mismatched
  | '\x7b' :: _ => .mismatched
  | rest =>
      match readValueWithin .keep 0 rest with
      | some _ => .mismatched
      | none => .malformed

/-- A reading that can only fail by a broken text. -/
def orMalformed {α : Type} : Option (α × List Char) → Reading α
  | some result => .ok result
  | none => .error .malformed

def streamElements {α : Type} (element : List Char → Reading α) :
    Nat → Bool → List α → List Char → Reading (List α)
  | 0, _, _, _ => .error .malformed
  | fuel + 1, first, elements, input =>
      match skipSpace input with
      | ']' :: rest => .ok (elements.reverse, rest)
      | [] => .error .malformed
      | character :: rest =>
          let start : Option (List Char) :=
            if first then some (character :: rest)
            else if character = ',' then
              match skipSpace rest with
              | ']' :: _ => none
              | rest => some rest
            else none
          match start with
          | none => .error .malformed
          | some start =>
              match element start with
              | .error fault => .error fault
              | .ok (value, rest) => streamElements element fuel false (value :: elements) rest

def streamArray {α : Type} (element : List Char → Reading α) (input : List Char) :
    Reading (List α) :=
  match skipSpace input with
  | '[' :: rest => streamElements element (rest.length + 1) true [] rest
  | _ => .error (faultOfOtherType input)

/-- Reads a tag, which has to be one of the known names. -/
def streamTag (names : List String) (input : List Char) : Reading String :=
  match skipSpace input with
  | '"' :: rest =>
      match readString .keep ('"' :: rest) with
      | none => .error .malformed
      | some (name, rest) =>
          if names.contains name then .ok (name, rest) else .error .mismatched
  | _ => .error (faultOfOtherType input)

def streamKey (input : List Char) : Reading String :=
  match readString .keep (skipSpace input) with
  | none => .error .malformed
  | some (key, rest) =>
      match skipSpace rest with
      | ':' :: rest => .ok (key, rest)
      | _ => .error .malformed

/-- Finds the next member of an object: none at the closing brace, else the
text from the key on. -/
def nextMember (first : Bool) (input : List Char) : Reading Bool :=
  match skipSpace input with
  | '\x7d' :: rest => .ok (false, rest)
  | ',' :: rest =>
      if first then .error .malformed
      else
        match skipSpace rest with
        | '"' :: rest => .ok (true, '"' :: rest)
        | _ => .error .malformed
  | '"' :: rest => if first then .ok (true, '"' :: rest) else .error .malformed
  | _ => .error .malformed

/-- Reads the members of a tagged object behind its opening brace: the tag,
once, and all other members as they are. -/
def streamTaggedMembers (names : List String) (limit : Nat) :
    Nat → Bool → Option String → List (String × Value) → List Char → Reading (String × Value)
  | 0, _, _, _, _ => .error .malformed
  | fuel + 1, first, tag, members, input =>
      match nextMember first input with
      | .error fault => .error fault
      | .ok (false, rest) =>
          match tag with
          | none => .error .mismatched
          | some tag => .ok ((tag, .object members.reverse), rest)
      | .ok (true, rest) =>
          match streamKey rest with
          | .error fault => .error fault
          | .ok (key, rest) =>
              if key = "type" then
                if tag.isSome then .error .mismatched
                else
                  match streamTag names rest with
                  | .error fault => .error fault
                  | .ok (tag, rest) =>
                      streamTaggedMembers names limit fuel false (some tag) members rest
              else
                match readValueWithin .keep limit rest with
                | none => .error .malformed
                | some (value, rest) =>
                    streamTaggedMembers names limit fuel false tag ((key, value) :: members) rest

/-- Reads a tagged record, with its tag apart from its other fields. `limit`
bounds the nesting, the record itself included. -/
def streamTagged (names : List String) (limit : Nat) (input : List Char) :
    Reading (String × Value) :=
  match skipSpace input with
  | '\x7b' :: rest =>
      match limit with
      | 0 => .error .malformed
      | limit + 1 => streamTaggedMembers names limit (rest.length + 1) true none [] rest
  | '[' :: rest =>
      match limit with
      | 0 => .error .malformed
      | limit + 1 =>
          match skipSpace rest with
          | ']' :: _ => .error .mismatched
          | rest =>
              match streamTag names rest with
              | .error fault => .error fault
              | .ok (tag, rest) =>
                  let value (input : List Char) : Reading Value :=
                    orMalformed (readValueWithin .keep limit input)
                  match streamElements value (rest.length + 1) false [] rest with
                  | .error fault => .error fault
                  | .ok (elements, rest) => .ok ((tag, .array elements), rest)
  | _ => .error (faultOfOtherType input)

def streamDecoded {α β : Type} (read : List Char → Reading α) (decode : α → Option β)
    (input : List Char) : Reading β :=
  match read input with
  | .error fault => .error fault
  | .ok (value, rest) =>
      match decode value with
      | none => .error .mismatched
      | some decoded => .ok (decoded, rest)

/-- Reads the members of a record with one field behind its opening brace. All
other members are skipped. -/
def streamFieldMembers {α : Type} (name : String) (field : List Char → Reading α) :
    Nat → Bool → Option α → List Char → Reading α
  | 0, _, _, _ => .error .malformed
  | fuel + 1, first, found, input =>
      match nextMember first input with
      | .error fault => .error fault
      | .ok (false, rest) =>
          match found with
          | none => .error .mismatched
          | some value => .ok (value, rest)
      | .ok (true, rest) =>
          match streamKey rest with
          | .error fault => .error fault
          | .ok (key, rest) =>
              if key = name then
                if found.isSome then .error .mismatched
                else
                  match field rest with
                  | .error fault => .error fault
                  | .ok (value, rest) =>
                      streamFieldMembers name field fuel false (some value) rest
              else
                match readValueWithin .skip rest.length rest with
                | none => .error .malformed
                | some (_, rest) => streamFieldMembers name field fuel false found rest

/-- Reads a record with one field: an object that holds it, or an array of
that one element. -/
def streamField {α : Type} (name : String) (field : List Char → Reading α)
    (input : List Char) : Reading α :=
  match skipSpace input with
  | '\x7b' :: rest => streamFieldMembers name field (rest.length + 1) true none rest
  | '[' :: rest =>
      match skipSpace rest with
      | ']' :: _ => .error .mismatched
      | rest =>
          match field rest with
          | .error fault => .error fault
          | .ok (value, rest) =>
              match skipSpace rest with
              | ']' :: rest => .ok (value, rest)
              | _ => .error .malformed
  | _ => .error (faultOfOtherType input)

def streamAll {α : Type} (read : List Char → Reading α) (text : String) : Except Fault α :=
  match read text.toList with
  | .error fault => .error fault
  | .ok (value, rest) => if (skipSpace rest).isEmpty then .ok value else .error .malformed

end ChatBlocks.Json
