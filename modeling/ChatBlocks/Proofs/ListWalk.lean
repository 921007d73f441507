import ChatBlocks.Render.List

/-!
# The items a list is written with

A list is written one item after the other, and behind an item come the items
of the last list among its children. The walk gives these items in the order of
writing, each with what its own line is made of.
-/

namespace ChatBlocks.ListWalk

structure WrittenItem where
  /-- How many lists lie around the item's own list, up to the root. -/
  level : Nat
  ordered : Bool
  number : UInt64
  text : String
  deriving DecidableEq, Repr

def WrittenItem.line (options : RenderOptions) (depth : Nat) (item : WrittenItem) : String :=
  listIndent (depth + item.level)
    ++ (if item.ordered then Nat.repr item.number.toNat ++ ". " else options.bullet) ++ item.text

mutual

def writtenItems (level : Nat) (ordered : Bool) (start : UInt64) :
    Nat → List ListItem → List WrittenItem
  | _, [] => []
  | position, ⟨_, tokens, _⟩ :: rest =>
      ⟨level, ordered, itemNumber start position, itemText tokens⟩ ::
        ((writtenOfLastList (level + 1) tokens).getD []
          ++ writtenItems level ordered start (position + 1) rest)

def writtenOfLastList (level : Nat) : List Token → Option (List WrittenItem)
  | [] => none
  | token :: rest =>
      match writtenOfLastList level rest with
      | some written => some written
      | none => writtenIfList level token

def writtenIfList (level : Nat) : Token → Option (List WrittenItem)
  | .list ordered start items _ => some (writtenItems level ordered start 0 items)
  | _ => none

end

def writtenList (ordered : Bool) (start : UInt64) (items : List ListItem) : List WrittenItem :=
  writtenItems 0 ordered start 0 items

end ChatBlocks.ListWalk
