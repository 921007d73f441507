/-!
# Source text

A Markdown source is read by byte offset. Every character with a meaning in
the syntax is ASCII, and an ASCII byte is never part of a longer character, so
the scanners look at single bytes and take each for the character of that
code. Offsets past the end are no bytes.
-/

namespace ChatBlocks.Markdown

structure Source where
  bytes : ByteArray

namespace Source

def ofText (text : String) : Source :=
  ⟨text.toUTF8⟩

def size (source : Source) : Nat :=
  source.bytes.size

def at? (source : Source) (offset : Nat) : Option Char :=
  if h : offset < source.bytes.size then
    some (Char.ofNat source.bytes[offset].toNat)
  else
    none

def hasAt (source : Source) (offset : Nat) (character : Char) : Bool :=
  source.at? offset == some character

def testAt (source : Source) (offset : Nat) (test : Char → Bool) : Bool :=
  (source.at? offset).any test

/-- The text between two offsets; empty when they cut through a character. -/
def slice (source : Source) (start stop : Nat) : String :=
  (String.fromUTF8? (source.bytes.extract start stop)).getD ""

def take (source : Source) (stop : Nat) : Source :=
  ⟨source.bytes.extract 0 stop⟩

def skipWhile (source : Source) (test : Char → Bool) (offset : Nat) : Nat :=
  if h : offset < source.bytes.size then
    if test (Char.ofNat source.bytes[offset].toNat) then
      source.skipWhile test (offset + 1)
    else
      offset
  else
    offset
termination_by source.bytes.size - offset

def runLength (source : Source) (character : Char) (offset : Nat) : Nat :=
  source.skipWhile (· == character) offset - offset

/-- How many characters right before an offset, and not before `start`, satisfy
a test. -/
def countBack (source : Source) (test : Char → Bool) (start : Nat) : Nat → Nat
  | 0 => 0
  | offset + 1 =>
      if start ≤ offset && source.testAt offset test then
        source.countBack test start offset + 1
      else
        0

def startsWith (source : Source) (offset : Nat) : List Char → Bool
  | [] => true
  | character :: rest => source.hasAt offset character && source.startsWith (offset + 1) rest

def find? (source : Source) (wanted : List Char) (offset : Nat) : Option Nat :=
  if source.startsWith offset wanted then some offset
  else if offset < source.bytes.size then source.find? wanted (offset + 1)
  else none
termination_by source.bytes.size - offset

def isContinuation (byte : Char) : Bool :=
  0x80 ≤ byte.toNat && byte.toNat < 0xC0

def charAt? (source : Source) (offset : Nat) : Option Char :=
  let stop := source.skipWhile isContinuation (offset + 1)
  (source.slice offset stop).toList.head?

def charBefore? (source : Source) (offset : Nat) : Option Char :=
  match offset with
  | 0 => none
  | last + 1 =>
      let start := last - source.countBack isContinuation 0 (last + 1)
      (source.slice start (last + 1)).toList.getLast?

end Source

end ChatBlocks.Markdown
