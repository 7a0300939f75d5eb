import Diorama.Config.Settings
import Diorama.Files.FileSystem
import Diorama.Json.Reader
import Diorama.Limits
import Diorama.Text.Lines
import Diorama.Text.Utf8

/-!
# Loading settings

Settings come from a document, from a file that holds one, or from the defaults, with single
values laid over them.  What is loaded is checked before it is given out.
-/

namespace Diorama

/-- Where settings come from. -/
inductive SettingsSource
  | defaults
  | settings (settings : Settings)
  | document (document : Json)
  | file (path : Path)

/-- The source that a value names: nothing, the path of a file, or a document. -/
def SettingsSource.ofJson : Json → SettingsSource
  | .null => .defaults
  | .text path => .file (Path.ofText path)
  | value => .document value

/-- Why settings were not loaded. -/
inductive LoadError
  | value (error : SettingsError)
  | sectionNotAnObject (name : Text)
  | unknownSource
  | unknownOverride (key : Text)
  | unsupportedFile (path : Text)
  | system (error : SystemError)
  | notUtf8 (error : Text.Utf8Error)
  | badDocument (error : Json.ReadError) (document : String)
  | noMembers (typeName : String)
  | listHasNoNames
  | textHasNoNames
  | badPath (defect : PathDefect)

/-- The report on a failed loading. -/
def LoadError.message : LoadError → Text
  | value e => e.message
  | sectionNotAnObject name => name ++ " must be a mapping"
  | unknownSource => "config must be InterpreterConfig, mapping, path, or None"
  | unknownOverride key => "Unknown config override: " ++ Text.quoted key
  | unsupportedFile path => "Unsupported interpreter config file format: " ++ path
  | system e => e.message
  | notUtf8 e => e.message
  | badDocument e document => e.message document
  | noMembers typeName => "argument of type '" ++ typeName ++ "' is not iterable"
  | listHasNoNames => "list indices must be integers or slices, not str"
  | textHasNoNames => "string indices must be integers, not 'str'"
  | badPath defect => defect.message

namespace Settings

/-- Lay the section of a name over part of the settings. -/
def overlaySection
    {β : Type}
    (members : Named Json)
    (name : Text)
    (overlay : β → Named Json → Except SettingsError β)
    (current : β) :
    Except LoadError β :=
  match members.find? name with
  | none => .ok current
  | some (.object entries) => (overlay current entries).mapError .value
  | some _ => .error (.sectionNotAnObject name)

/-- Lay the sections of an object over settings. -/
def overlay
    (s : Settings)
    (members : Named Json) :
    Except LoadError Settings := do
  let canvas ← overlaySection members "canvas" CanvasSettings.overlay s.canvas
  let lighting ← overlaySection members "lighting" LightingSettings.overlay s.lighting
  let shading ← overlaySection members "shading" ShadingSettings.overlay s.shading
  let output ← overlaySection members "output" OutputSettings.overlay s.output
  return { canvas, lighting, shading, output }

/-- The names of the sections. -/
def sectionNames : List Text :=
  ["canvas", "lighting", "shading", "output"]

/-- Whether a text occurs in another one. -/
def occursIn
    (part : Text) :
    Text → Bool
  | [] => part.isEmpty
  | c :: rest => part.isPrefixOf (c :: rest) || occursIn part rest

/-- Whether a value is the text that names a section. -/
def namesSection : Json → Bool
  | .text t => sectionNames.contains t
  | _ => false

/--
The settings of a whole file.  A list or a text without the name of a section counts as an
object without members.
-/
def ofFileDocument : Json → Except LoadError Settings
  | .object members => overlay {} members
  | .list items => if items.any namesSection then .error .listHasNoNames else .ok {}
  | .text t =>
      if sectionNames.any fun name => occursIn name t then .error .textHasNoNames else .ok {}
  | v => .error (.noMembers v.typeName)

/-- The document in a file, which has to end in `.json` or in nothing. -/
def fileDocument
    (limits : Limits)
    (fs : FileSystem)
    (path : Path) :
    Except LoadError Json := do
  if let some defect := path.defect? then throw (.badPath defect)
  let content ← (fs.read path).mapError .system
  let raw ← (Text.decodeUtf8 content.plainBytes).mapError .notUtf8
  let text := String.ofList (Text.unifyLineBreaks raw.toList)
  let suffix := Text.lower path.suffix
  if suffix = ".json" ∨ suffix = "" then
    (Json.read limits.documentDepth text).mapError (.badDocument · text)
  else throw (.unsupportedFile path.toText)

/-- The settings of a file. -/
def ofFile
    (limits : Limits)
    (fs : FileSystem)
    (path : Path) :
    Except LoadError Settings := do
  ofFileDocument (← fileDocument limits fs path)

/-- The sections and the members that single values are laid over. -/
def overrideTargets : List (Text × Text × Text) :=
  [("width", "canvas", "width"),
    ("height", "canvas", "height"),
    ("background", "canvas", "background"),
    ("steps", "shading", "steps"),
    ("draw_color", "shading", "draw_color"),
    ("output_dir", "output", "directory"),
    ("directory", "output", "directory"),
    ("converter", "output", "converter"),
    ("basename", "output", "basename"),
    ("default_format", "output", "default_format"),
    ("frame_suffix", "output", "frame_suffix"),
    ("ambient", "lighting", "ambient"),
    ("view", "lighting", "view"),
    ("light_position", "lighting", "light_position"),
    ("light_color", "lighting", "light_color")]

/-- A value laid over one member of one section. -/
structure Override where
  place : Text × Text
  value : Json

/-- The overrides of an object; members without a value are passed over. -/
def readOverrides : List (Text × Json) → Except LoadError (List Override)
  | [] => .ok []
  | (_, .null) :: rest => readOverrides rest
  | (key, value) :: rest =>
      match overrideTargets.lookup key with
      | none => .error (.unknownOverride key)
      | some place => do return ⟨place, value⟩ :: (← readOverrides rest)

/-- The members that overrides give to a section; a later one counts. -/
def sectionMembers
    (overrides : List Override)
    (name : Text) :
    Named Json :=
  Named.ofList <| overrides.filterMap fun o =>
    if o.place.1 = name then some (o.place.2, o.value) else none

/-- The overrides as an object of sections. -/
def overrideSections
    (overrides : List Override) :
    Named Json :=
  sectionNames.filterMap fun name =>
    match sectionMembers overrides name with
    | [] => none
    | members => some (name, .object members)

/-- The settings of a source before single values are laid over them. -/
def ofSource
    (limits : Limits)
    (fs : FileSystem) :
    SettingsSource → Except LoadError Settings
  | .defaults => .ok {}
  | .settings s => .ok s
  | .document (.object members) => overlay {} members
  | .document _ => .error .unknownSource
  | .file path => ofFile limits fs path

/-- Load settings and check them. -/
def load
    (limits : Limits)
    (fs : FileSystem)
    (source : SettingsSource)
    (overrides : List (Text × Json)) :
    Except LoadError Settings := do
  let base ← ofSource limits fs source
  let overrides ← readOverrides overrides
  let s ← base.overlay (overrideSections overrides)
  s.validate.mapError .value
  return s

end Settings
end Diorama
