/-!
# Rendering options

The default options give the stock form of a message.
-/

namespace ChatBlocks

def defaultBullet : String := "• "

structure RenderOptions where
  /-- What goes before an item of an unordered list, at every depth. -/
  bullet : String := defaultBullet
  /-- The emoji flag of headers and image titles. -/
  headerEmoji : Bool := true
  deriving DecidableEq, Repr

end ChatBlocks
