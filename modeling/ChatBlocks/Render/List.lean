import ChatBlocks.Render.Inline
import ChatBlocks.Render.Options
import ChatBlocks.Text.Lines

/-!
# List lines

A list is written one item after the other, each on its own line behind its
number or bullet, and a list inside an item follows that item one level
deeper. When an item holds several lists, the last one is written and the
others are left out, which is noted.
-/

namespace ChatBlocks

def listIndent (depth : Nat) : String :=
  String.ofList (List.replicate (2 * depth) ' ')

/-- The number of the item at a position of its list. It is a machine word, so
the item behind number `2 ^ 64 - 1` has number 0. -/
def itemNumber (start : UInt64) (position : Nat) : UInt64 :=
  start + UInt64.ofNat position

def itemMarker (options : RenderOptions) (ordered : Bool) (start : UInt64) (position : Nat) :
    String :=
  if ordered then Nat.repr (itemNumber start position).toNat ++ ". " else options.bullet

/-- The markup of one direct child of an item, without its own delimiters. -/
def itemPart (token : Token) : String :=
  match token.children? with
  | some children => renderInline children
  | none => renderInlineToken token

def Token.isList : Token → Bool
  | .list .. => true
  | _ => false

/-- An item's own line: every child that is not a list. -/
def itemText (tokens : List Token) : String :=
  Text.concat ((tokens.filter fun token => !token.isList).map itemPart)

def nestedListCount (tokens : List Token) : Nat :=
  (tokens.filter Token.isList).length

mutual

/-- The lines of the items of a list, from a position of that list on. -/
def renderItems (options : RenderOptions) (depth : Nat) (ordered : Bool) (start : UInt64) :
    Nat → List ListItem → List String
  | _, [] => []
  | position, ⟨_, tokens, _⟩ :: rest =>
      let line := listIndent depth ++ itemMarker options ordered start position ++ itemText tokens
      let lines :=
        match renderLastList options (depth + 1) tokens with
        | none => line
        | some nested => line ++ "\n" ++ nested
      lines :: renderItems options depth ordered start (position + 1) rest

def renderLastList (options : RenderOptions) (depth : Nat) : List Token → Option String
  | [] => none
  | token :: rest =>
      match renderLastList options depth rest with
      | some nested => some nested
      | none => renderIfList options depth token

def renderIfList (options : RenderOptions) (depth : Nat) : Token → Option String
  | .list ordered start items _ =>
      some (Text.joinLines (renderItems options depth ordered start 0 items))
  | _ => none

end

def renderList (options : RenderOptions) (depth : Nat) (list : ListBlock) : String :=
  Text.joinLines (renderItems options depth list.ordered list.start 0 list.items)

def nestedListNote (count : Nat) : String :=
  "list item holds " ++ Nat.repr count ++ " nested lists, rendering the last"

mutual

def notesOfItems : List ListItem → List String
  | [] => []
  | ⟨_, tokens, _⟩ :: rest =>
      let count := nestedListCount tokens
      let own := if 1 < count then [nestedListNote count] else []
      own ++ (notesOfLastList tokens).getD [] ++ notesOfItems rest

def notesOfLastList : List Token → Option (List String)
  | [] => none
  | token :: rest =>
      match notesOfLastList rest with
      | some notes => some notes
      | none => notesIfList token

/-- The notes made while a token is written, if it is a list. -/
def notesIfList : Token → Option (List String)
  | .list _ _ items _ => some (notesOfItems items)
  | _ => none

end

end ChatBlocks
