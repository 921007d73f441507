/-!
# TOML values

A table keeps its entries in written order, and a key stands in it once. A
table also keeps how it was made, since that decides what a later header or a
later dotted key may still add to it.
-/

namespace ChatBlocks.Toml

inductive Origin where
  | implied
  | opened
  | dotted
  /-- It was written between braces, so nothing can be added. -/
  | closed
  deriving DecidableEq, Repr

/-- A TOML value. Floats, dates and times are kept as they are written. -/
inductive Value where
  | string (text : String)
  | boolean (value : Bool)
  | integer (value : Int)
  | float (written : String)
  | moment (written : String)
  | array (elements : List Value)
  | tables (latestFirst : List (List (String × Value)))
  | table (origin : Origin) (entries : List (String × Value))

abbrev Entries := List (String × Value)

def Entries.find? (entries : Entries) (key : String) : Option Value :=
  (List.find? (fun entry => entry.1 == key) entries).map Prod.snd

def Entries.replace (entries : Entries) (key : String) (value : Value) : Entries :=
  entries.map fun entry => if entry.1 == key then (key, value) else entry

def Entries.append (entries : Entries) (key : String) (value : Value) : Entries :=
  entries ++ [(key, value)]

end ChatBlocks.Toml
