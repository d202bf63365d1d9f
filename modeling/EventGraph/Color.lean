/-!
# Colours

Red, green and blue are multiplied by the opacity.
-/

namespace EventGraph

structure Color where
  red : UInt8
  green : UInt8
  blue : UInt8
  alpha : UInt8
  deriving Repr, DecidableEq

namespace Color

def rgb (red green blue : UInt8) : Color := ⟨red, green, blue, 255⟩

def gray (level : UInt8) : Color := rgb level level level

def white : Color := gray 255

def transparent : Color := ⟨0, 0, 0, 0⟩

end Color

end EventGraph
