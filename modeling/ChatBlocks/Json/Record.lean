import ChatBlocks.Json.Value

/-!
# Records and tagged records

A record is written as an object, or as an array of its fields in order. An
object may hold members that are no fields; a field that is written twice
makes the object wrong, and so does an array with more elements than fields.

A tagged record starts with a tag under the key `type`, or with the tag as
first element.
-/

namespace ChatBlocks.Json

/-- The value under a key that occurs at most once; none when it occurs twice. -/
def memberOnce (members : List (String × Value)) (key : String) : Option (Option Value) :=
  match members.filter fun member => member.1 == key with
  | [] => some none
  | [(_, value)] => some (some value)
  | _ => none

/-- The first values of a list, one for each name, absent ones as none. -/
def alignElements : List String → List Value → Option (List (Option Value))
  | [], [] => some []
  | [], _ :: _ => none
  | _ :: names, [] => (alignElements names []).map (none :: ·)
  | _ :: names, value :: rest => (alignElements names rest).map (some value :: ·)

def Value.fields? (names : List String) : Value → Option (List (Option Value))
  | .object members => names.mapM (memberOnce members)
  | .array elements => alignElements names elements
  | _ => none

def Value.untag? : Value → Option (Value × Value)
  | .object members =>
      match memberOnce members "type" with
      | some (some tag) => some (tag, .object (members.filter fun member => member.1 != "type"))
      | _ => none
  | .array (tag :: rest) => some (tag, .array rest)
  | _ => none

/-- A record without fields: any object, or an empty array. -/
def Value.isEmptyRecord : Value → Bool
  | .object _ => true
  | .array [] => true
  | _ => false

def Value.string? : Value → Option String
  | .string text => some text
  | _ => none

def Value.bool? : Value → Option Bool
  | .bool value => some value
  | _ => none

/-- Reads an integer from 0 up to, and without, a bound. -/
def Value.naturalBelow? (bound : Nat) : Value → Option Nat
  | .number ⟨.ofNat value, none⟩ => if value < bound then some value else none
  | _ => none

def Value.array? : Value → Option (List Value)
  | .array elements => some elements
  | _ => none

def required {α : Type} (decode : Value → Option α) : Option Value → Option α
  | none => none
  | some value => decode value

/-- An optional field, where null counts as absent. -/
def optional {α : Type} (decode : Value → Option α) : Option Value → Option (Option α)
  | none => some none
  | some .null => some none
  | some value => (decode value).map some

def arrayOf {α : Type} (decode : Value → Option α) (value : Value) : Option (List α) :=
  value.array?.bind fun elements => elements.mapM decode

/-- The tag of a tagged record that lies inside another value: a name, or the
number of the name in the list of all names. -/
def tagName? (names : List String) : Value → Option String
  | .string name => if names.contains name then some name else none
  | .number ⟨.ofNat index, none⟩ => names[index]?
  | _ => none

/-- A value out of a set of names. It is written as the name, or as an object
whose one key is the name, over null or an empty object. -/
def nameOf? (names : List String) : Value → Option String
  | .string name => if names.contains name then some name else none
  | .object [(name, .null)] => if names.contains name then some name else none
  | .object [(name, .object [])] => if names.contains name then some name else none
  | _ => none

end ChatBlocks.Json
