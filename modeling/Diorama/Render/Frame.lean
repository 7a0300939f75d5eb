import Diorama.Config.Settings
import Diorama.Files.Path
import Diorama.Geometry.Mesh
import Diorama.Geometry.TransformStack

/-!
# Frames

The state of drawing one frame.  Every frame starts from an empty canvas, the identity transform
and no materials but the default one, so frames do not depend on each other.
-/

namespace Diorama

/-- Everything that the directives of one frame read and change. -/
structure Frame where
  index : Int
  canvas : Canvas Float
  materials : MaterialRegistry (Vec3 Float)
  knobs : Named Float
  stack : TransformStack Float
  triangles : TriangleBuffer Float
  edges : EdgeBuffer Float
  written : List Path
  warnings : List ScriptError

/-- The empty canvas of settings; their channels fit into bytes once they are validated. -/
def Settings.blankCanvas
    (settings : Settings) :
    Canvas Float :=
  Canvas.blank settings.canvas.width.toNat settings.canvas.height.toNat
    (settings.canvas.background.toPixel?.getD ⟨0, 0, 0⟩)

namespace Frame

/-- The state before the first directive of a frame. -/
def start
    (settings : Settings)
    (index : Int)
    (knobs : Named Float) :
    Frame where
  index := index
  canvas := settings.blankCanvas
  materials := MaterialRegistry.empty settings.shading.defaultMaterial
  knobs := knobs
  stack := TransformStack.reset
  triangles := PointBuffer.empty
  edges := PointBuffer.empty
  written := []
  warnings := []

/-- Whether no geometry waits to be drawn. -/
def buffersEmpty
    (frame : Frame) :
    Bool :=
  frame.triangles.isEmpty && frame.edges.isEmpty

end Frame
end Diorama
