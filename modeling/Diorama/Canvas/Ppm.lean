import Diorama.Canvas.Basic

/-!
# Binary pixmaps

The plain file format of a canvas: the letters `P6`, the width, the height and the greatest
channel value in decimal, and three bytes for each pixel by rows from the top.
-/

namespace Diorama

/-- The three bytes of a pixel. -/
def Pixel.bytes
    (p : Pixel) :
    List UInt8 :=
  [p.red, p.green, p.blue]

namespace Canvas

variable {α : Type}

/-- The text in front of the pixels of a pixmap. -/
def ppmHeader
    (width height : Nat) :
    String :=
  "P6\n" ++ Number.intText width ++ " " ++ Number.intText height ++ "\n255\n"

/-- The bytes of a pixmap. -/
def toPpm
    (c : Canvas α) :
    List UInt8 :=
  (ppmHeader c.width c.height).toList.map (fun ch => UInt8.ofNat ch.toNat)
    ++ c.pixels.flatMap Pixel.bytes

end Canvas
end Diorama
