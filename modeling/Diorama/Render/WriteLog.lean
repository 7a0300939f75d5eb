import Diorama.Render.Run

/-!
# The write log

Which files a run writes is settled by the script and the settings alone: for every frame those of
its `save` directives in order, and then, in an animation, the numbered file of the frame.
-/

namespace Diorama

/-- The statements in front of the end marker. -/
def Script.body : List Statement → List Statement
  | [] => []
  | statement :: rest =>
      match statement.directive with
      | .finish => []
      | _ => statement :: Script.body rest

namespace Settings

/-- The file that a statement saves, if it saves one. -/
def savePath?
    (settings : Settings)
    (statement : Statement) :
    Option Path :=
  match statement.directive with
  | .save name => some (settings.outputPath name)
  | _ => none

/-- The files of one frame. -/
def framePaths
    (settings : Settings)
    (statements : List Statement)
    (animation : Animation)
    (index : Nat) :
    List Path :=
  (Script.body statements).filterMap settings.savePath?
    ++ (if animation.isAnimated then [settings.framePath animation index] else [])

/-- The files of a run that nothing stops. -/
def writeLog
    (settings : Settings)
    (statements : List Statement) :
    List Path :=
  let animation := Animation.scan statements settings.output.basename
  (List.range animation.framesToRender).flatMap (settings.framePaths statements animation)

end Settings
end Diorama
