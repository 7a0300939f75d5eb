import Diorama.Animation.FrameName
import Diorama.Animation.Plan
import Diorama.Render.Perform
import Diorama.Script

/-!
# Runs

A run settles the animation of a script and then draws its frames one after another.  Every frame
performs all statements on a state of its own; the frames of an animation are saved under numbered
names.  The first failure ends the run, and what was written up to then is kept in its result.
-/

namespace Diorama

/-- What a run has achieved. -/
structure RunResult where
  animation : Animation
  knobs : KnobTable
  frameCount : Nat
  written : List Path
  warnings : List ScriptError

/-- The state of a run between two frames. -/
structure Progress (σ : Type) where
  result : RunResult
  outside : σ
  notices : Array Notice

/-- How a run ended: its result, if it came to drawing at all, and why it failed, if it did. -/
structure RunOutcome (σ : Type) where
  result : Option RunResult
  failure : Option Failure
  outside : σ
  notices : Array Notice

/-- A part of a run; a failure keeps the progress made before it. -/
abbrev Running (σ : Type) := EStateM Failure (Progress σ)

namespace Progress

variable {σ : Type}

/-- Take over what a frame wrote, warned of and changed, whether it was finished or not. -/
def collect
    (p : Progress σ)
    (s : Session σ) :
    Progress σ where
  result :=
    { p.result with
      written := p.result.written ++ s.frame.written
      warnings := p.result.warnings ++ s.frame.warnings }
  outside := s.outside
  notices := p.notices ++ s.notices

/-- Count a finished frame. -/
def finishFrame
    (p : Progress σ)
    (index : Nat) :
    Progress σ :=
  { p with
    result := { p.result with frameCount := p.result.frameCount + 1 }
    notices := p.notices.push (.frameDone index) }

end Progress

/-- The knob values of a frame; a still script has none. -/
def KnobTable.valuesOn
    (t : KnobTable)
    (index : Nat) :
    Named Float :=
  t.frames[index]?.getD []

/-- The file of a frame of an animation. -/
def Settings.framePath
    (settings : Settings)
    (animation : Animation)
    (index : Nat) :
    Path :=
  settings.outputPath
    (frameName animation.basename index animation.framesToRender settings.output.frameSuffix)

namespace Running

variable {σ : Type}

/-- Perform all statements, and save the picture under the name of the frame. -/
def drawing
    (settings : Settings)
    (outlet : Outlet σ)
    (statements : List Statement)
    (animation : Animation)
    (index : Nat) :
    Drawing σ Unit := do
  Drawing.replay settings outlet statements
  if animation.isAnimated then Drawing.save outlet (settings.framePath animation index)

/-- Draw one frame. -/
def frame
    (settings : Settings)
    (outlet : Outlet σ)
    (statements : List Statement)
    (index : Nat) :
    Running σ Unit := fun p =>
  let animation := p.result.animation
  let start := Frame.start settings index (p.result.knobs.valuesOn index)
  match drawing settings outlet statements animation index ⟨start, p.outside, #[]⟩ with
  | .ok () s => .ok () ((p.collect s).finishFrame index)
  | .error failure s =>
      .error (if animation.isAnimated then failure.withFrame index else failure) (p.collect s)

/-- Draw frames in order. -/
def frames
    (settings : Settings)
    (outlet : Outlet σ)
    (statements : List Statement) :
    List Nat → Running σ Unit
  | [] => pure ()
  | index :: rest => do
      frame settings outlet statements index
      frames settings outlet statements rest

end Running

/-- Draw the frames of a script. -/
def run
    {σ : Type}
    (settings : Settings)
    (outlet : Outlet σ)
    (statements : List Statement)
    (outside : σ) :
    RunOutcome σ :=
  let animation := Animation.scan statements settings.output.basename
  match animation.knobTable statements with
  | .error error => ⟨none, some (.script error), outside, animation.warnings.toArray⟩
  | .ok knobs =>
      let total := animation.framesToRender
      let notices :=
        animation.warnings ++ animation.tableNotices knobs
          ++ [.rendering total statements.length]
      let start : Progress σ := ⟨⟨animation, knobs, 0, [], []⟩, outside, notices.toArray⟩
      match Running.frames settings outlet statements (List.range total) start with
      | .ok () p => ⟨some p.result, none, p.outside, p.notices⟩
      | .error failure p => ⟨some p.result, some failure, p.outside, p.notices⟩

/-- Read a script and draw its frames. -/
def runText
    {σ : Type}
    (settings : Settings)
    (outlet : Outlet σ)
    (text : Text)
    (outside : σ) :
    RunOutcome σ :=
  match Script.read text with
  | .error error => ⟨none, some (.script error), outside, #[]⟩
  | .ok statements => run settings outlet statements outside

end Diorama
