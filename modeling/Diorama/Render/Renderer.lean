import Diorama.Animation.KnobTable
import Diorama.Config.Load
import Diorama.Images.Writer
import Diorama.Render.Frame

/-!
# Renderers

A renderer is what settings are made into: a writer of images, the light and the default material.
It starts the frames of its runs.  Each of its parts checks on its own what it is made of, although
loaded settings have been checked before.
-/

namespace Diorama

/-- Why there is no renderer. -/
inductive RendererError
  | settings (error : LoadError)
  | unknownConverter (name : Text)

/-- The report on a renderer that is not there. -/
def RendererError.message : RendererError → Text
  | settings e => e.message
  | unknownConverter name => (SettingsError.unknownConverter (.text name)).message

/-- Why there is no frame. -/
inductive FrameError
  | canvas (error : CanvasError)
  | knobs (error : KnobTable.Refusal)
  deriving DecidableEq

/-- What frames are drawn with. -/
structure Renderer where
  settings : Settings
  writer : ImageWriter
  lighting : Lighting (Vec3 Float)
  defaultMaterial : Material (Vec3 Float)

namespace Renderer

/-- The renderer of a source of settings. -/
def new?
    (limits : Limits)
    (fs : FileSystem)
    (source : SettingsSource) :
    Except RendererError Renderer := do
  let settings ← (Settings.load limits fs source []).mapError .settings
  let name := settings.output.converter.name
  match ImageWriter.ofName? name settings.output.defaultFormat with
  | none => throw (.unknownConverter name)
  | some writer =>
      return ⟨settings, writer, settings.lighting.toLighting, settings.shading.defaultMaterial⟩

/-- The values of knobs on a frame; a frame behind the end of the table has none. -/
def knobsOn
    (knobs : Option KnobTable)
    (index : Int) :
    Except FrameError (Named Float) :=
  match knobs with
  | none => .ok []
  | some table => if index < table.size then (table.frame? index).mapError .knobs else .ok []

/-- The state before the first directive of a frame. -/
def newFrame?
    (r : Renderer)
    (index : Int)
    (knobs : Option KnobTable) :
    Except FrameError Frame := do
  let s := r.settings.canvas
  let canvas ← (Canvas.new? s.width s.height s.background).mapError .canvas
  let values ← knobsOn knobs index
  let frame := Frame.start r.settings index values
  return { frame with canvas, materials := .empty r.defaultMaterial }

end Renderer
end Diorama
