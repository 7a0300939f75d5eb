import Diorama.Config.Load

/-!
# Settings as objects

Settings are handed around as objects that can be changed in place: one object for each section, and
one that refers to the four of them.  Loading has to copy an object before it lays anything over it,
since what it was given may be in use elsewhere.  Here objects live in a heap and are changed there;
what they hold is told by the values of `Settings`.

**Main statements.**
* `Objects.load`: load settings into a new object.
-/

namespace Diorama

/-- The sections of settings. -/
inductive Section
  | canvas
  | lighting
  | shading
  | output
  deriving DecidableEq

/-- What the object of a section holds. -/
abbrev Section.Value : Section → Type
  | canvas => CanvasSettings
  | lighting => LightingSettings
  | shading => ShadingSettings
  | output => OutputSettings

/-- A member of a document, and what it makes of the object of its section. -/
structure Assignment (S : Type) where
  key : Text
  assign : Json → S → Except SettingsError S

/-- Assign the value of a member, read as its kind. -/
def Assignment.of
    {S β : Type}
    (key : Text)
    (read : Json → Except SettingsError β)
    (put : β → S → S) :
    Assignment S where
  key
  assign v s := do return put (← read v) s

namespace Section

/-- All sections in the order in which they are laid over settings. -/
def all : List Section :=
  [canvas, lighting, shading, output]

/-- The name of a section. -/
def name : Section → Text
  | canvas => "canvas"
  | lighting => "lighting"
  | shading => "shading"
  | output => "output"

/-- What there is for each section, given one by one. -/
def among
    {β : Type}
    (forCanvas forLighting forShading forOutput : β) :
    Section → β
  | canvas => forCanvas
  | lighting => forLighting
  | shading => forShading
  | output => forOutput

/-- What a new object of a section holds. -/
def initial : (k : Section) → k.Value
  | canvas => {}
  | lighting => {}
  | shading => {}
  | output => {}

/-- The members of a section in the order in which they are assigned. -/
def assignments : (k : Section) → List (Assignment k.Value)
  | canvas =>
      [.of "width" integerField fun v s => { s with width := v },
        .of "height" integerField fun v s => { s with height := v },
        .of "background" (colourField "canvas.background") fun v s => { s with background := v }]
  | lighting =>
      [.of "view" (vectorField "lighting.view") fun v s => { s with view := v },
        .of "ambient" (vectorField "lighting.ambient") fun v s => { s with ambient := v },
        .of "light_position" (vectorField "lighting.light_position")
          fun v s => { s with lightPosition := v },
        .of "light_color" (vectorField "lighting.light_color")
          fun v s => { s with lightColor := v },
        .of "specular_exponent" floatField fun v s => { s with specularExponent := v }]
  | shading =>
      [.of "steps" integerField fun v s => { s with steps := v },
        .of "draw_color" (colourField "shading.draw_color") fun v s => { s with drawColor := v },
        .of "ambient_reflect" (vectorField "shading.ambient_reflect")
          fun v s => { s with ambientReflect := v },
        .of "diffuse_reflect" (vectorField "shading.diffuse_reflect")
          fun v s => { s with diffuseReflect := v },
        .of "specular_reflect" (vectorField "shading.specular_reflect")
          fun v s => { s with specularReflect := v }]
  | output =>
      [.of "directory" textField fun v s => { s with directory := v },
        .of "basename" textField fun v s => { s with basename := v },
        .of "converter" converterField fun v s => { s with converter := v },
        .of "default_format" (fun v => .ok (Text.upper v.display))
          fun v s => { s with defaultFormat := v },
        .of "frame_suffix" textField fun v s => { s with frameSuffix := v }]

end Section

/-- The position of an object in the heap. -/
abbrev Ref := Nat

/-- An object: a section with its value, or settings that refer to their sections. -/
inductive ConfigObject
  | part (k : Section) (value : k.Value)
  | config (parts : Section → Ref)

namespace ConfigObject

/-- The value of an object that is the section asked for. -/
def value?
    (k : Section) :
    ConfigObject → Option k.Value
  | part own value => if h : own = k then some (h ▸ value) else none
  | config _ => none

/-- The sections that an object refers to. -/
def parts? : ConfigObject → Option (Section → Ref)
  | part _ _ => none
  | config parts => some parts

end ConfigObject

/-- All objects there are, the newest one last. -/
abbrev Heap := List ConfigObject

/-- A computation on objects. -/
abbrev Objects := EStateM LoadError Heap

namespace Objects

/-- Make an object. -/
def create
    (object : ConfigObject) :
    Objects Ref := fun heap =>
  .ok heap.length (heap ++ [object])

/-- Put another object in the place of one. -/
def set
    (ref : Ref)
    (object : ConfigObject) :
    Objects Unit := fun heap =>
  .ok () (heap.set ref object)

/-- Read an object; what is no object of the kind asked for is no source of settings. -/
def get
    {β : Type}
    (ref : Ref)
    (view? : ConfigObject → Option β) :
    Objects β := fun heap =>
  match heap[ref]?.bind view? with
  | some b => .ok b heap
  | none => .error .unknownSource heap

/-- A computation that needs no objects. -/
def lift
    {β : Type} :
    Except LoadError β → Objects β
  | .ok b => pure b
  | .error e => throw e

/-- A copy of the object of a section. -/
def copyPart
    (k : Section)
    (ref : Ref) :
    Objects Ref := do
  create (.part k (← get ref (ConfigObject.value? k)))

/-- New settings whose sections are made one after the other. -/
def assemble
    (part : Section → Objects Ref) :
    Objects Ref := do
  let canvas ← part .canvas
  let lighting ← part .lighting
  let shading ← part .shading
  let output ← part .output
  create (.config (Section.among canvas lighting shading output))

/-- A copy of settings and of their sections. -/
def copy
    (ref : Ref) :
    Objects Ref := do
  let parts ← get ref ConfigObject.parts?
  assemble fun k => copyPart k (parts k)

/-- New settings with the defaults. -/
def new : Objects Ref :=
  assemble fun k => create (.part k k.initial)

/-- Settings to be changed: a copy of those that are given, or the defaults. -/
def draft : Option Ref → Objects Ref
  | none => new
  | some ref => copy ref

/-- The settings that an object stands for. -/
def read
    (ref : Ref) :
    Objects Settings := do
  let parts ← get ref ConfigObject.parts?
  let canvas ← get (parts .canvas) (ConfigObject.value? .canvas)
  let lighting ← get (parts .lighting) (ConfigObject.value? .lighting)
  let shading ← get (parts .shading) (ConfigObject.value? .shading)
  let output ← get (parts .output) (ConfigObject.value? .output)
  return { canvas, lighting, shading, output }

/-- Change the object of a section by one member, if it is there. -/
def assign
    (k : Section)
    (ref : Ref)
    (entries : Named Json)
    (a : Assignment k.Value) :
    Objects Unit :=
  match entries.find? a.key with
  | none => pure ()
  | some v => do
      let current ← get ref (ConfigObject.value? k)
      let changed ← lift ((a.assign v current).mapError .value)
      set ref (.part k changed)

/-- A copy of the object of a section with members laid over it. -/
def partOfEntries
    (k : Section)
    (entries : Named Json)
    (ref : Ref) :
    Objects Ref := do
  let base ← copyPart k ref
  k.assignments.forM (assign k base entries)
  return base

/-- Lay one section of an object over settings. -/
def layPart
    (members : Named Json)
    (ref : Ref)
    (k : Section) :
    Objects Unit :=
  match members.find? k.name with
  | none => pure ()
  | some (.object entries) => do
      let parts ← get ref ConfigObject.parts?
      let laid ← partOfEntries k entries (parts k)
      set ref (.config fun other => if other = k then laid else parts other)
  | some _ => throw (.sectionNotAnObject k.name)

/-- A copy of settings, or the defaults, with the sections of an object laid over them. -/
def ofMembers
    (members : Named Json)
    (current : Option Ref) :
    Objects Ref := do
  let base ← draft current
  Section.all.forM (layPart members base)
  return base

/-- Lay the sections of an object over a copy of settings, if there are any. -/
def layMembers
    (members : Named Json)
    (ref : Ref) :
    Objects Ref :=
  if members.isEmpty then pure ref else ofMembers members (some ref)

/-- The settings of a whole file. -/
def ofFileDocument : Json → Objects Ref
  | .object members => ofMembers members none
  | v => do
      discard (lift (Settings.ofFileDocument v))
      new

/-- Where the object comes from that is to be loaded. -/
inductive Source
  | defaults
  | object (ref : Ref)
  | document (document : Json)
  | file (path : Path)

/-- New settings of a source, before single values are laid over them. -/
def ofSource
    (limits : Limits)
    (fs : FileSystem) :
    Source → Objects Ref
  | .defaults => new
  | .object ref => copy ref
  | .document (.object members) => ofMembers members none
  | .document _ => throw .unknownSource
  | .file path => do ofFileDocument (← lift (Settings.fileDocument limits fs path))

/-- Load settings into a new object and check them. -/
def load
    (limits : Limits)
    (fs : FileSystem)
    (source : Source)
    (overrides : List (Text × Json)) :
    Objects Ref := do
  let loaded ← ofSource limits fs source
  let overrides ← lift (Settings.readOverrides overrides)
  let ref ← layMembers (Settings.overrideSections overrides) loaded
  lift ((← read ref).validate.mapError .value)
  return ref

end Objects
end Diorama
