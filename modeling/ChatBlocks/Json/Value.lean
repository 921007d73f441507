/-!
# JSON values

An object keeps its members in written order, and may hold one key twice: a
decoder decides what that means.
-/

namespace ChatBlocks.Json

/-- A JSON number. An integer written without fraction and exponent has no
exponent here; any other number is `mantissa` times a power of ten. -/
structure Number where
  mantissa : Int
  exponent : Option Int
  deriving DecidableEq, Repr

inductive Value where
  | null
  | bool (value : Bool)
  | number (value : Number)
  | string (value : String)
  | array (elements : List Value)
  | object (members : List (String × Value))

def Value.natural (value : Nat) : Value :=
  .number ⟨Int.ofNat value, none⟩

inductive Fault where
  /-- The text is not JSON. -/
  | malformed
  /-- The text is JSON of another shape than the one asked for. -/
  | mismatched
  deriving DecidableEq, Repr

mutual

/-- How deep arrays and objects lie inside one another; a scalar has depth 0. -/
def Value.depth : Value → Nat
  | .null => 0
  | .bool _ => 0
  | .number _ => 0
  | .string _ => 0
  | .array elements => depthOfElements elements + 1
  | .object members => depthOfMembers members + 1

def depthOfElements : List Value → Nat
  | [] => 0
  | value :: rest => max value.depth (depthOfElements rest)

def depthOfMembers : List (String × Value) → Nat
  | [] => 0
  | (_, value) :: rest => max value.depth (depthOfMembers rest)

end

end ChatBlocks.Json
