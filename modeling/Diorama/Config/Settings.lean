import Diorama.Canvas.Basic
import Diorama.Config.Conversion
import Diorama.Shading.Phong
import Diorama.Text.Blank
import Diorama.Text.Case

/-!
# Settings

The constants of a rendering: the canvas, the light, the shading and the output.  Settings are
overlaid with the members of a document section by section, and are written back as a document.
-/

namespace Diorama

/-- How an image file is brought into its format. -/
inductive Converter
  | pillow
  | magick
  | none
  deriving DecidableEq

namespace Converter

/-- The name of a converter. -/
def name : Converter → String
  | pillow => "pillow"
  | magick => "magick"
  | none => "none"

/-- The names under which a converter is chosen, without blanks, hyphens, underscores and points. -/
def choices : List (Text × Converter) :=
  [("pillow", pillow), ("pil", pillow), ("magick", magick), ("imagemagick", magick),
    ("convert", magick), ("none", none), ("off", none)]

/-- Whether a character of a choice is passed over. -/
def isSeparator
    (c : Char) :
    Bool :=
  c == '-' || c == '_' || c == ' ' || c == '.'

/-- A choice in lower case and without separators. -/
def choiceKey
    (t : Text) :
    Text :=
  (Text.lower (Text.trim t)).filter fun c => !c.is isSeparator

/-- The converter chosen by a text. -/
def ofChoice?
    (t : Text) :
    Option Converter :=
  choices.lookup (choiceKey t)

end Converter

/-- The size and the background of the canvas. -/
structure CanvasSettings where
  width : Int := 500
  height : Int := 500
  background : Colour := ⟨0, 0, 0⟩

/-- The view and the light. -/
structure LightingSettings where
  view : Vec3 Float := ⟨0, 0, 1⟩
  ambient : Vec3 Float := Vec3.replicate 50
  lightPosition : Vec3 Float := ⟨0.5, 0.75, 1⟩
  lightColor : Vec3 Float := Vec3.replicate 255
  specularExponent : Float := 8

/-- Tessellation, the colour of lines, and the default material. -/
structure ShadingSettings where
  steps : Int := 20
  drawColor : Colour := ⟨0, 255, 0⟩
  ambientReflect : Vec3 Float := Vec3.replicate 0.1
  diffuseReflect : Vec3 Float := Vec3.replicate 0.5
  specularReflect : Vec3 Float := Vec3.replicate 0.5

/-- Where and how images are saved. -/
structure OutputSettings where
  directory : Text := "."
  basename : Text := "output"
  converter : Converter := .pillow
  defaultFormat : Text := "PNG"
  frameSuffix : Text := ""

/-- All settings. -/
structure Settings where
  canvas : CanvasSettings := {}
  lighting : LightingSettings := {}
  shading : ShadingSettings := {}
  output : OutputSettings := {}

/-- What can be wrong with the values of settings. -/
inductive SettingsError
  | conversion (error : ConversionError)
  | threeRequired (label : String)
  | notThreeNumbers (label : String)
  | channelsOutOfRange (label : String)
  | unknownConverter (value : Json)
  | sizeNotPositive
  | sizeTooLarge
  | tooFewSteps
  | exponentNotPositive
  | viewIsZero
  | basenameEmpty

/-- The report on a wrong value. -/
def SettingsError.message : SettingsError → String
  | conversion e => e.message
  | threeRequired label => label ++ " requires three floats"
  | notThreeNumbers label => label ++ " must be a sequence of three numeric values"
  | channelsOutOfRange label => label ++ " channels must be within [0, 255]"
  | unknownConverter value => "Unknown converter: " ++ value.quotedDisplay
  | sizeNotPositive => "canvas.width and canvas.height must be > 0"
  | sizeTooLarge => "canvas.width and canvas.height must be <= 8192"
  | tooFewSteps => "shading.steps must be >= 3"
  | exponentNotPositive => "lighting.specular_exponent must be positive"
  | viewIsZero => "lighting.view must be a non-zero vector"
  | basenameEmpty => "output.basename must not be empty"

/-! ## Values of fields -/

/-- A whole number. -/
def integerField
    (v : Json) :
    Except SettingsError Int :=
  v.toInteger.mapError .conversion

/-- A double. -/
def floatField
    (v : Json) :
    Except SettingsError Float :=
  v.toFloat.mapError .conversion

/-- Three doubles. -/
def vectorField
    (label : String) :
    Json → Except SettingsError (Vec3 Float)
  | .null => .error (.threeRequired label)
  | .list [x, y, z] => do return ⟨← floatField x, ← floatField y, ← floatField z⟩
  | _ => .error (.notThreeNumbers label)

/-- Three channels; fractions are cut off. -/
def colourField
    (label : String)
    (v : Json) :
    Except SettingsError Colour := do
  let ⟨x, y, z⟩ ← vectorField label v
  let r ← (truncateFloat x).mapError .conversion
  let g ← (truncateFloat y).mapError .conversion
  let b ← (truncateFloat z).mapError .conversion
  if Colour.fitsByte r && Colour.fitsByte g && Colour.fitsByte b then return ⟨r, g, b⟩
  else throw (.channelsOutOfRange label)

/-- A converter by one of its names. -/
def converterField
    (v : Json) :
    Except SettingsError Converter :=
  match Converter.ofChoice? v.display with
  | some c => .ok c
  | none => .error (.unknownConverter v)

/-- The value of a member, or the current value where there is no such member. -/
def overlayField
    {β : Type}
    (members : Named Json)
    (key : Text)
    (read : Json → Except SettingsError β)
    (current : β) :
    Except SettingsError β :=
  match members.find? key with
  | some v => read v
  | none => .ok current

/-! ## Sections -/

namespace CanvasSettings

/-- The settings with the members of a section laid over them. -/
def overlay
    (s : CanvasSettings)
    (members : Named Json) :
    Except SettingsError CanvasSettings := do
  let width ← overlayField members "width" integerField s.width
  let height ← overlayField members "height" integerField s.height
  let background ←
    overlayField members "background" (colourField "canvas.background") s.background
  return { width, height, background }

/-- The settings as a section. -/
def toJson
    (s : CanvasSettings) :
    Json :=
  .object
    [("width", .int s.width), ("height", .int s.height),
      ("background", .list [.int s.background.red, .int s.background.green,
        .int s.background.blue])]

end CanvasSettings

/-- A vector as a list. -/
def vectorJson
    (v : Vec3 Float) :
    Json :=
  .list (v.toList.map .real)

namespace LightingSettings

/-- The settings with the members of a section laid over them. -/
def overlay
    (s : LightingSettings)
    (members : Named Json) :
    Except SettingsError LightingSettings := do
  let view ← overlayField members "view" (vectorField "lighting.view") s.view
  let ambient ← overlayField members "ambient" (vectorField "lighting.ambient") s.ambient
  let lightPosition ←
    overlayField members "light_position" (vectorField "lighting.light_position") s.lightPosition
  let lightColor ←
    overlayField members "light_color" (vectorField "lighting.light_color") s.lightColor
  let specularExponent ←
    overlayField members "specular_exponent" floatField s.specularExponent
  return { view, ambient, lightPosition, lightColor, specularExponent }

/-- The settings as a section. -/
def toJson
    (s : LightingSettings) :
    Json :=
  .object
    [("view", vectorJson s.view), ("ambient", vectorJson s.ambient),
      ("light_position", vectorJson s.lightPosition), ("light_color", vectorJson s.lightColor),
      ("specular_exponent", .real s.specularExponent)]

/-- The light of the scene. -/
def toLighting
    (s : LightingSettings) :
    Lighting (Vec3 Float) where
  view := s.view
  ambient := s.ambient
  position := s.lightPosition
  color := s.lightColor
  exponent := s.specularExponent

end LightingSettings

namespace ShadingSettings

/-- The settings with the members of a section laid over them. -/
def overlay
    (s : ShadingSettings)
    (members : Named Json) :
    Except SettingsError ShadingSettings := do
  let steps ← overlayField members "steps" integerField s.steps
  let drawColor ←
    overlayField members "draw_color" (colourField "shading.draw_color") s.drawColor
  let ambientReflect ←
    overlayField members "ambient_reflect" (vectorField "shading.ambient_reflect")
      s.ambientReflect
  let diffuseReflect ←
    overlayField members "diffuse_reflect" (vectorField "shading.diffuse_reflect")
      s.diffuseReflect
  let specularReflect ←
    overlayField members "specular_reflect" (vectorField "shading.specular_reflect")
      s.specularReflect
  return { steps, drawColor, ambientReflect, diffuseReflect, specularReflect }

/-- The settings as a section. -/
def toJson
    (s : ShadingSettings) :
    Json :=
  .object
    [("steps", .int s.steps),
      ("draw_color", .list [.int s.drawColor.red, .int s.drawColor.green, .int s.drawColor.blue]),
      ("ambient_reflect", vectorJson s.ambientReflect),
      ("diffuse_reflect", vectorJson s.diffuseReflect),
      ("specular_reflect", vectorJson s.specularReflect)]

/-- The material of surfaces that name none. -/
def defaultMaterial
    (s : ShadingSettings) :
    Material (Vec3 Float) where
  name := "default"
  ambient := s.ambientReflect
  diffuse := s.diffuseReflect
  specular := s.specularReflect

end ShadingSettings

/-- The text of a member. -/
def textField
    (v : Json) :
    Except SettingsError Text :=
  .ok v.display

namespace OutputSettings

/-- The settings with the members of a section laid over them. -/
def overlay
    (s : OutputSettings)
    (members : Named Json) :
    Except SettingsError OutputSettings := do
  let directory ← overlayField members "directory" textField s.directory
  let basename ← overlayField members "basename" textField s.basename
  let converter ← overlayField members "converter" converterField s.converter
  let defaultFormat ←
    overlayField members "default_format" (fun v => .ok (Text.upper v.display)) s.defaultFormat
  let frameSuffix ← overlayField members "frame_suffix" textField s.frameSuffix
  return { directory, basename, converter, defaultFormat, frameSuffix }

/-- The settings as a section. -/
def toJson
    (s : OutputSettings) :
    Json :=
  .object
    [("directory", .text s.directory), ("basename", .text s.basename),
      ("converter", .text s.converter.name), ("default_format", .text s.defaultFormat),
      ("frame_suffix", .text s.frameSuffix)]

end OutputSettings

namespace Settings

/-- The settings as a document. -/
def toJson
    (s : Settings) :
    Json :=
  .object
    [("canvas", s.canvas.toJson), ("lighting", s.lighting.toJson),
      ("shading", s.shading.toJson), ("output", s.output.toJson)]

/-- Whether a number counts as given: anything but zero, not-a-number included. -/
def isGiven
    (x : Float) :
    Bool :=
  !(x == 0)

/-- Check that the settings can be rendered with; the first fault is reported. -/
def validate
    (s : Settings) :
    Except SettingsError Unit :=
  if s.canvas.width ≤ 0 ∨ s.canvas.height ≤ 0 then .error .sizeNotPositive
  else if (maxDimension : Int) < s.canvas.width ∨ (maxDimension : Int) < s.canvas.height then
    .error .sizeTooLarge
  else if s.shading.steps < 3 then .error .tooFewSteps
  else if s.lighting.specularExponent ≤ 0 then .error .exponentNotPositive
  else if !s.lighting.view.toList.any isGiven then .error .viewIsZero
  else if s.output.basename.isEmpty then .error .basenameEmpty
  else .ok ()

end Settings
end Diorama
