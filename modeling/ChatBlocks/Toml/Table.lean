import ChatBlocks.Toml.Value

/-!
# Building tables

A document is a list of statements, applied one after another to the root
table. A key is written once. A header opens a table once; a dotted key
reaches only tables that dotted keys made, and passes through tables that
headers have named on their way to another one.
-/

namespace ChatBlocks.Toml

namespace Entries

/-- Writes a value under a dotted key. The last part has to be new in its
table, and that table has to take new keys. -/
def insert? (value : Value) : Bool → List String → Entries → Option Entries
  | _, [], _ => none
  | takesKeys, [key], entries =>
      match entries.find? key with
      | none => if takesKeys then some (entries.append key value) else none
      | some _ => none
  | _, key :: next :: more, entries =>
      match entries.find? key with
      | none =>
          (insert? value true (next :: more) []).map fun inner =>
            entries.append key (.table .dotted inner)
      | some (.table .dotted inner) =>
          (insert? value true (next :: more) inner).map fun inner =>
            entries.replace key (.table .dotted inner)
      | some (.table .implied inner) =>
          (insert? value false (next :: more) inner).map fun inner =>
            entries.replace key (.table .implied inner)
      | some _ => none

/-- Changes the table that a header path leads to. Tables that are missing on
the way are made, and of several tables under one key the latest is meant. -/
def alter? (change : Entries → Option Entries) : List String → Entries → Option Entries
  | [], entries => change entries
  | key :: more, entries =>
      match entries.find? key with
      | none =>
          (alter? change more []).map fun inner => entries.append key (.table .implied inner)
      | some (.table origin inner) =>
          if origin = .closed then
            none
          else
            (alter? change more inner).map fun inner => entries.replace key (.table origin inner)
      | some (.tables (latest :: earlier)) =>
          (alter? change more latest).map fun latest =>
            entries.replace key (.tables (latest :: earlier))
      | some _ => none

/-- Opens the table under a key: a new one, or one that was implied so far. -/
def openTable? (key : String) (entries : Entries) : Option Entries :=
  match entries.find? key with
  | none => some (entries.append key (.table .opened []))
  | some (.table .implied inner) => some (entries.replace key (.table .opened inner))
  | some _ => none

def openNext? (key : String) (entries : Entries) : Option Entries :=
  match entries.find? key with
  | none => some (entries.append key (.tables [[]]))
  | some (.tables latestFirst) => some (entries.replace key (.tables ([] :: latestFirst)))
  | some _ => none

end Entries

inductive Statement where
  | entry (path : List String) (value : Value)
  /-- A header in brackets: the ways to the table, and its key there. -/
  | header (path : List String) (key : String)
  | nextHeader (path : List String) (key : String)

/-- What the statements so far have made: the root table, and the path of the
table that the next key goes to. -/
structure Document where
  root : Entries := []
  current : List String := []

def Document.apply? (document : Document) : Statement → Option Document
  | .entry path value =>
      (document.root.alter? (Entries.insert? value true path) document.current).map fun root =>
        ⟨root, document.current⟩
  | .header path key =>
      (document.root.alter? (Entries.openTable? key) path).map fun root =>
        ⟨root, path ++ [key]⟩
  | .nextHeader path key =>
      (document.root.alter? (Entries.openNext? key) path).map fun root =>
        ⟨root, path ++ [key]⟩

end ChatBlocks.Toml
