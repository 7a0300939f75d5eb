import Diorama.Canvas.Line
import Diorama.Canvas.Triangle
import Diorama.Render.Frame
import Diorama.Render.Outlet

/-!
# Performing directives

What a directive does to a frame.  A directive that fails leaves the frame as it is, except that a
crash in the middle of drawing keeps the pixels drawn before it.  Geometry stays in its buffer only
while it is drawn.

A fault of a directive that is merely not supported is a warning of the first frame and nothing
else; every other fault ends the frame, and it carries the line of its directive.
-/

namespace Diorama

/-- A frame that is being drawn, the state of its outlet, and the notices given so far. -/
structure Session (σ : Type) where
  frame : Frame
  outside : σ
  notices : Array Notice

/-- A step of drawing a frame; a failure keeps the session as far as it got. -/
abbrev Drawing (σ : Type) := EStateM Failure (Session σ)

namespace Session

variable {σ : Type}

/-- Give a notice. -/
def note
    (s : Session σ)
    (notice : Notice) :
    Session σ :=
  { s with notices := s.notices.push notice }

/-- Keep an error as a warning; only the first frame gives warnings. -/
def warn
    (s : Session σ)
    (error : ScriptError) :
    Session σ :=
  if s.frame.index = 0 then
    { s with
      frame := { s.frame with warnings := s.frame.warnings ++ [error] }
      notices := s.notices.push (.directiveSkipped error) }
  else s

end Session

/-- The file of a name: relative names are taken from the directory for output. -/
def Settings.outputPath
    (settings : Settings)
    (name : Text) :
    Path :=
  Path.join (Path.ofText settings.output.directory) (Path.ofText name)

/-- A vector multiplied by the value of a knob, if there is one. -/
def Vec3.stretch
    (v : Vec3 Float)
    (factor : Option Float) :
    Vec3 Float :=
  match factor with
  | some k => v.map (· * k)
  | none => v

/-- A number multiplied by the value of a knob, if there is one. -/
def stretch
    (x : Float)
    (factor : Option Float) :
    Float :=
  match factor with
  | some k => x * k
  | none => x

namespace Drawing

variable {σ : Type}

/-- Stop with a fault. -/
def fail
    {β : Type}
    (fault : Fault) :
    Drawing σ β :=
  throw (.ofFault fault)

/-- Go on with a result, or stop with its crash. -/
def orCrash
    {β : Type} :
    Except Crash β → Drawing σ β
  | .ok b => pure b
  | .error cause => throw (.crash cause)

/-- Change the frame. -/
def modifyFrame
    (change : Frame → Frame) :
    Drawing σ Unit :=
  modify fun s => { s with frame := change s.frame }

/-- The value of a knob on this frame; a knob without one is reported. -/
def knobValue
    (knob : Option Text) :
    Drawing σ (Option Float) := fun s =>
  match knob with
  | none => .ok none s
  | some name =>
      match s.frame.knobs.find? name with
      | some value => .ok (some value) s
      | none => .ok none (s.note (.knobUnset s.frame.index name))

/-- Change the stack of transforms. -/
def takeStep
    (line : Int)
    (step : ScopeStep Float) :
    Drawing σ Unit := fun s =>
  match s.frame.stack.step? step with
  | some stack => .ok () { s with frame := { s.frame with stack } }
  | none => .error (.script (.onLine .stackUnderflow line)) s

/-- The material of a name. -/
def material
    (line : Int)
    (name : Option Text) :
    Drawing σ (Material (Vec3 Float)) := fun s =>
  match s.frame.materials.resolve name (some line) with
  | .ok m => .ok m s
  | .error e => .error (.script e) s

/-- Shade and draw triangles under the current transform. -/
def triangles
    (lighting : Lighting (Vec3 Float))
    (material : Material (Vec3 Float))
    (ts : List (Vec3 Float × Vec3 Float × Vec3 Float)) :
    Drawing σ Unit := fun s =>
  let buffer : TriangleBuffer Float :=
    PointBuffer.transform (TriangleBuffer.addTriangles s.frame.triangles ts) s.frame.stack.top
  match Draw.triangles buffer lighting material s.frame.canvas with
  | .ok drawn canvas =>
      .ok () (({ s with frame := { s.frame with canvas, triangles := PointBuffer.empty } }).note
        (.trianglesFilled drawn buffer.size material.name))
  | .error cause canvas =>
      .error (.crash cause)
        { s with frame := { s.frame with canvas, triangles := PointBuffer.empty } }

/-- Draw an edge under the current transform. -/
def edge
    (colour : Colour)
    (start stop : Vec3 Float) :
    Drawing σ Unit := fun s =>
  let buffer : EdgeBuffer Float :=
    PointBuffer.transform (EdgeBuffer.addEdge s.frame.edges start stop) s.frame.stack.top
  match Draw.lines buffer colour s.frame.canvas with
  | .ok notices canvas =>
      .ok () { s with
        frame := { s.frame with canvas, edges := PointBuffer.empty }
        notices := s.notices ++ notices }
  | .error cause canvas =>
      .error (.crash cause)
        { s with frame := { s.frame with canvas, edges := PointBuffer.empty } }

/-- Show the canvas; a viewer that fails is reported and passed over. -/
def present
    (outlet : Outlet σ)
    (line : Int) :
    Drawing σ Unit := fun s =>
  match outlet.present s.frame.canvas s.outside with
  | (.ok (), outside) => .ok () { s with outside }
  | (.error text, outside) => .ok () ({ s with outside }.note (.displayFailed line text))

/-- Save the canvas under a path. -/
def save
    (outlet : Outlet σ)
    (path : Path) :
    Drawing σ Unit := fun s =>
  match outlet.save s.frame.canvas path s.outside with
  | (.ok saved, outside) =>
      .ok () ({ s with
        frame := { s.frame with written := s.frame.written ++ [saved] }
        outside }.note (.imageSaved saved.toText))
  | (.error failure, outside) => .error (Failure.ofSave path failure) { s with outside }

/-- What a directive does. -/
def perform
    (settings : Settings)
    (outlet : Outlet σ)
    (line : Int) :
    Directive → Drawing σ Unit
  | .constants name coefficients color =>
      modifyFrame fun f =>
        { f with materials := f.materials.register (.ofCoefficients name coefficients color) }
  | .push => takeStep line .enter
  | .pop => takeStep line .leave
  | .move offset knob => do
      let factor ← knobValue knob
      takeStep line (.move (offset.stretch factor))
  | .scale factors knob => do
      let factor ← knobValue knob
      takeStep line (.scale (factors.stretch factor))
  | .rotate name degrees knob => do
      let factor ← knobValue knob
      match Axis.ofName? name with
      | none => fail (.invalidAxis name)
      | some axis =>
          let (cosine, sine) ← orCrash (cosineSine (stretch degrees factor))
          takeStep line (.turn axis cosine sine)
  | .sphere name center radius => do
      let m ← material line name
      let ts ← orCrash (Sphere.triangles? center radius settings.shading.steps)
      triangles settings.lighting.toLighting m ts
  | .box name corner size => do
      let m ← material line name
      triangles settings.lighting.toLighting m (Box.triangles corner size)
  | .torus name center tube ring => do
      let m ← material line name
      let ts ← orCrash (Torus.triangles? center tube ring settings.shading.steps)
      triangles settings.lighting.toLighting m ts
  | .line start stop => edge settings.shading.drawColor start stop
  | .display => present outlet line
  | .save name => save outlet (settings.outputPath name)
  | .unknown keyword _ => throw (.script (.onLine (.unsupportedDirective keyword) line))
  | .frames _ | .basename _ | .vary .. | .finish => pure ()

/-- Perform a statement; a fault that is not fatal becomes a warning. -/
def execute
    (settings : Settings)
    (outlet : Outlet σ)
    (statement : Statement) :
    Drawing σ Unit := fun s =>
  match
    perform settings outlet statement.line statement.directive
      (s.note (.executing s.frame.index statement))
  with
  | .ok () s => .ok () s
  | .error (.crash cause) s => .error (.crash cause) s
  | .error (.script error) s =>
      let error := error.withLine statement.line
      if error.fault.kind.isFatal then .error (.script error) s
      else .ok () (s.warn error)

/-- Perform the statements of a script up to its end marker. -/
def replay
    (settings : Settings)
    (outlet : Outlet σ) :
    List Statement → Drawing σ Unit
  | [] => pure ()
  | statement :: rest =>
      match statement.directive with
      | .finish => pure ()
      | _ => do
          execute settings outlet statement
          replay settings outlet rest

end Drawing
end Diorama
