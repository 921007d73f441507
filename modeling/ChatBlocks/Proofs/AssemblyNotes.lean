import ChatBlocks.Assembly
import ChatBlocks.Proofs.ListLines

/-!
# Nothing is dropped silently

Each token of the top level accounts for itself: it gives one block, or it gives
none and leaves one note that says why. White space between blocks alone does
neither. The other notes come from lists, of the top level or directly inside a
quote of it: while a list is written, every item that holds several lists leaves
a note before the last of them is written, so these notes stand in the order in
which the items are written.
-/

namespace ChatBlocks.AssemblyNotes

open ListLines

inductive DropReason where
  | blankHeading
  | blankParagraph
  | noBlock (kind : TokenKind)
  deriving DecidableEq, Repr

def DropReason.note : DropReason → String
  | .blankHeading => "skipping heading with blank text"
  | .blankParagraph => "skipping blank paragraph"
  | .noBlock kind => "no block for top-level " ++ kind.name ++ " token"

def dropReason? (token : Token) : Option DropReason :=
  match token with
  | .heading _ tokens _ => if Text.isBlank (renderInline tokens) then some .blankHeading else none
  | .paragraph tokens _ => if Text.isBlank (renderInline tokens) then some .blankParagraph else none
  | .text .. | .link .. | .strong .. | .em .. | .del .. | .codespan .. | .br .. | .html ..
  | .other .. => some (.noBlock token.kind)
  | .list .. | .blockquote .. | .code .. | .hr .. | .image .. | .table .. | .space .. => none

mutual

/-- The items that are written for the items of a list, in the order of writing. -/
def itemsWritten : List ListItem → List ListItem
  | [] => []
  | ⟨task, tokens, raw⟩ :: rest =>
      ⟨task, tokens, raw⟩ :: ((itemsBehind tokens).getD [] ++ itemsWritten rest)

def itemsBehind : List Token → Option (List ListItem)
  | [] => none
  | token :: rest =>
      match itemsBehind rest with
      | some items => some items
      | none => itemsIfList token

def itemsIfList : Token → Option (List ListItem)
  | .list _ _ items _ => some (itemsWritten items)
  | _ => none

end

def listsWritten : Token → List ListBlock
  | .list ordered start items raw => [⟨ordered, start, items, raw⟩]
  | .blockquote tokens _ => tokens.filterMap asList?
  | .text .. | .link .. | .image .. | .strong .. | .em .. | .del .. | .codespan .. | .br ..
  | .heading .. | .paragraph .. | .code .. | .hr .. | .table .. | .space .. | .html ..
  | .other .. => []

def itemNotes (item : ListItem) : List String :=
  let count := nestedListCount item.tokens
  if 2 ≤ count then [nestedListNote count] else []

def listNotes (list : ListBlock) : List String :=
  (itemsWritten list.items).flatMap itemNotes

theorem items_behind (tokens : List Token) :
    itemsBehind tokens = (lastList? tokens).map fun list => itemsWritten list.items := by
  induction tokens with
  | nil => rfl
  | cons token rest ih =>
      have own : itemsIfList token = (asList? token).map fun list => itemsWritten list.items := by
        cases token <;> rfl
      rw [itemsBehind, last_list_cons, ih, own]
      cases lastList? rest <;> rfl

theorem items_written_eq (items : List ListItem) :
    itemsWritten items = items.flatMap fun item =>
      item :: ((lastList? item.tokens).map fun list => itemsWritten list.items).getD [] := by
  induction items with
  | nil => rfl
  | cons item rest ih =>
      obtain ⟨task, tokens, raw⟩ := item
      rw [itemsWritten, items_behind, ih, List.flatMap_cons, List.cons_append]

theorem render_items_from (options : RenderOptions) (depth : Nat) (ordered : Bool)
    (start : UInt64) (position : Nat) (items : List ListItem) :
    renderItems options depth ordered start position items =
      (items.zipIdx position).map fun (item, index) =>
        listIndent depth ++ itemMarker options ordered start index ++ itemText item.tokens
          ++ ((lastList? item.tokens).map fun list =>
            "\n" ++ renderList options (depth + 1) list).getD "" := by
  induction items generalizing position with
  | nil => rfl
  | cons item rest ih =>
      obtain ⟨task, tokens, raw⟩ := item
      rw [renderItems, render_last_list, ih, List.zipIdx_cons, List.map_cons]
      cases last : lastList? tokens with
      | none => simp [last]
      | some list => simp [last, String.append_assoc]

mutual

theorem notes_of_items : ∀ items : List ListItem,
    notesOfItems items = (itemsWritten items).flatMap itemNotes
  | [] => rfl
  | ⟨task, tokens, raw⟩ :: rest => by
      have behind : ((itemsBehind tokens).map (List.flatMap itemNotes)).getD [] =
          ((itemsBehind tokens).getD []).flatMap itemNotes := by
        cases itemsBehind tokens <;> rfl
      rw [notesOfItems, notes_of_last_list tokens, notes_of_items rest, behind, itemsWritten,
        List.flatMap_cons, List.flatMap_append, ← List.append_assoc]
      rfl

theorem notes_of_last_list : ∀ tokens : List Token,
    notesOfLastList tokens = (itemsBehind tokens).map (List.flatMap itemNotes)
  | [] => rfl
  | token :: rest => by
      rw [notesOfLastList, itemsBehind, notes_of_last_list rest, notes_if_list token]
      cases itemsBehind rest <;> rfl

theorem notes_if_list : ∀ token : Token,
    notesIfList token = (itemsIfList token).map (List.flatMap itemNotes)
  | .list _ _ items _ => congrArg some (notes_of_items items)
  | .text .. | .link .. | .image .. | .strong .. | .em .. | .del .. | .codespan .. | .br ..
  | .heading .. | .paragraph .. | .blockquote .. | .code .. | .hr .. | .table .. | .space ..
  | .html .. | .other .. => rfl

end

theorem notes_of_quote (tokens : List Token) :
    quoteNotes tokens = (tokens.filterMap asList?).flatMap listNotes := by
  unfold quoteNotes
  induction tokens with
  | nil => rfl
  | cons token rest ih =>
      rw [List.flatMap_cons, ih]
      cases token with
      | list ordered start items raw =>
          exact congrArg (· ++ _) (notes_of_items items)
      | _ => rfl

/-- Notes on lists and notes on tokens without a block begin with different
letters, so none reads as one of the other kind. -/
theorem list_note_head (count : Nat) : (nestedListNote count).toList.head? = some 'l' := by
  have front : "list item holds ".toList.head? = some 'l' := by decide
  have parts : nestedListNote count =
      "list item holds " ++ (Nat.repr count ++ " nested lists, rendering the last") :=
    String.append_assoc ..
  rw [parts, String.toList_append, List.head?_append, front]
  rfl

theorem drop_note_head (reason : DropReason) : reason.note.toList.head? ≠ some 'l' := by
  cases reason with
  | blankHeading => decide
  | blankParagraph => decide
  | noBlock kind =>
      have front : "no block for top-level ".toList.head? = some 'n' := by decide
      have parts : (DropReason.noBlock kind).note =
          "no block for top-level " ++ (kind.name ++ " token") := String.append_assoc ..
      rw [parts, String.toList_append, List.head?_append, front, Option.some_or]
      decide

theorem list_notes_no_drop (list : ListBlock) (reason : DropReason) :
    reason.note ∉ listNotes list := by
  intro member
  obtain ⟨item, _, noted⟩ := List.mem_flatMap.mp member
  simp only [itemNotes] at noted
  split at noted
  · rw [List.mem_singleton] at noted
    apply drop_note_head reason
    rw [noted]
    exact list_note_head _
  · cases noted

/-- What a token may add to the blocks and to the notes. -/
inductive Accounted (token : Token) : Assembly → Prop
  | space (raw : String) (between : token = .space raw) : Accounted token ⟨[], []⟩
  | block (block : Block) (kept : token.kind ≠ .space ∧ dropReason? token = none) :
      Accounted token ⟨[block], (listsWritten token).flatMap listNotes⟩
  | dropped (reason : DropReason)
      (lost : token.kind ≠ .space ∧ dropReason? token = some reason) :
      Accounted token ⟨[], [reason.note]⟩

theorem token_accounted (options : RenderOptions) (token : Token) :
    Accounted token (assembleToken options token) := by
  cases token with
  | heading depth tokens raw =>
      simp only [assembleToken]
      split
      · exact .dropped .blankHeading (by simp [*, dropReason?, Token.kind])
      · exact .block _ (by simp [*, dropReason?, Token.kind])
  | paragraph tokens raw =>
      simp only [assembleToken]
      split
      · exact .dropped .blankParagraph (by simp [*, dropReason?, Token.kind])
      · exact .block _ (by simp [*, dropReason?, Token.kind])
  | list ordered start items raw =>
      have noted : [ListBlock.mk ordered start items raw].flatMap listNotes =
          notesOfItems items := by
        rw [List.flatMap_singleton, listNotes, notes_of_items]
      rw [assembleToken, ← noted]
      exact .block _ ⟨by simp [Token.kind], rfl⟩
  | blockquote tokens raw =>
      rw [assembleToken, notes_of_quote]
      exact .block _ ⟨by simp [Token.kind], rfl⟩
  | code _ _ _ | hr _ | image _ _ _ _ | table _ _ _ => exact .block _ ⟨by simp [Token.kind], rfl⟩
  | space raw => exact .space raw rfl
  | _ => exact .dropped (.noBlock _) ⟨by simp [Token.kind], rfl⟩

theorem assembly_parts (options : RenderOptions) (tokens : List Token) :
    assembly options tokens =
      ⟨tokens.flatMap fun token => (assembleToken options token).blocks,
        tokens.flatMap fun token => (assembleToken options token).notes⟩ := by
  induction tokens with
  | nil => rfl
  | cons token rest ih => rw [assembly, ih, Assembly.append, List.flatMap_cons, List.flatMap_cons]

/-- The first item of a quoted list holds two lists, and so does the item of the
last of them. -/
example :
    let lists (items : List ListItem) : List Token := [.list false 1 [] "", .list false 1 items ""]
    let inner : ListItem := ⟨none, lists [], ""⟩
    let tokens : List Token :=
      [.html "<p>", .space "\n", .blockquote [.list true 1 [⟨none, lists [inner], ""⟩] ""] "",
        .paragraph [.br "\n"] "\n"]
    assembly {} tokens =
      ⟨[.markupSection "> 1. \n>   • \n> "],
        ["no block for top-level html token",
          "list item holds 2 nested lists, rendering the last",
          "list item holds 2 nested lists, rendering the last", "skipping blank paragraph"]⟩ := by
  decide

end ChatBlocks.AssemblyNotes
