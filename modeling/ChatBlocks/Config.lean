import ChatBlocks.Conversion
import ChatBlocks.Toml.Printer
import ChatBlocks.Toml.Reader

/-!
# Configuration

Output preferences, kept as a TOML file. Every key may be left out and then has
its default; keys that are no preference are passed over.
-/

namespace ChatBlocks

structure Config where
  /-- What an item of an unordered list starts with. -/
  bullet : String := defaultBullet
  /-- The emoji flag of headers and image titles. -/
  headerEmoji : Bool := true
  /-- Whether a paragraph that holds one image alone becomes an image block. -/
  imageBlocks : Bool := false
  /-- Whether JSON is laid out on many lines. -/
  pretty : Bool := true
  deriving DecidableEq, Repr

/-- Why a text is no configuration: it is not TOML, or a preference has a value
of another type. How a fault is put in words is left to the reader of TOML, so
messages take the wording of faults as an argument. -/
inductive ConfigFault where
  | malformed (text : String)
  | mismatched (text : String)
  deriving DecidableEq, Repr

namespace Config

def lexOptions (config : Config) : LexOptions :=
  ⟨config.imageBlocks⟩

def renderOptions (config : Config) : RenderOptions :=
  ⟨config.bullet, config.headerEmoji⟩

def converter (config : Config) : Converter :=
  ⟨config.lexOptions, config.renderOptions⟩

def settings (config : Config) : List (String × Toml.Setting) :=
  [("bullet", .string config.bullet), ("header_emoji", .boolean config.headerEmoji),
    ("image_blocks", .boolean config.imageBlocks), ("pretty", .boolean config.pretty)]

def text (config : Config) : String :=
  Toml.settingsText config.settings

/-- The string under a key, or a default when the key is absent. -/
def stringEntry? (entries : Toml.Entries) (key default : String) : Option String :=
  match entries.find? key with
  | none => some default
  | some (.string text) => some text
  | some _ => none

/-- The truth value under a key, or a default when the key is absent. -/
def booleanEntry? (entries : Toml.Entries) (key : String) (default : Bool) : Option Bool :=
  match entries.find? key with
  | none => some default
  | some (.boolean value) => some value
  | some _ => none

def ofEntries? (defaults : Config) (entries : Toml.Entries) : Option Config := do
  let bullet ← stringEntry? entries "bullet" defaults.bullet
  let headerEmoji ← booleanEntry? entries "header_emoji" defaults.headerEmoji
  let imageBlocks ← booleanEntry? entries "image_blocks" defaults.imageBlocks
  let pretty ← booleanEntry? entries "pretty" defaults.pretty
  some ⟨bullet, headerEmoji, imageBlocks, pretty⟩

def read (text : String) : Except ConfigFault Config :=
  match Toml.parse? text with
  | none => .error (.malformed text)
  | some entries =>
      match ofEntries? {} entries with
      | none => .error (.mismatched text)
      | some config => .ok config

end Config

end ChatBlocks
