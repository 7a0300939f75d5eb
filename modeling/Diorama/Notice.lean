import Diorama.Directive
import Diorama.Fault
import Diorama.Json.Value

/-!
# Notices

What a run reports while it goes on.  A notice is a fact about the run; its level, the channel it
belongs to and its wording are functions of it, so that nothing is worded before it is shown.
-/

namespace Diorama

/-- How important a notice is. -/
inductive Level
  | debug
  | info
  | warning
  | error
  deriving DecidableEq

namespace Level

/-- The rank of a level; a higher one is more important. -/
def rank : Level → Nat
  | debug => 10
  | info => 20
  | warning => 30
  | error => 40

/-- The name of a level. -/
def name : Level → String
  | debug => "DEBUG"
  | info => "INFO"
  | warning => "WARNING"
  | error => "ERROR"

end Level

/-- A fact about a run that is reported. -/
inductive Notice
  | framesOverridden (line : Int) (count earlier : Nat)
  | basenameKept (line : Int) (basename : Text)
  | knobsResolved (knobs : List Text) (frames : Nat)
  | rendering (frames statements : Nat)
  | executing (frame : Int) (statement : Statement)
  | knobUnset (frame : Int) (knob : Text)
  | lineSkipped
  | trianglesFilled (drawn total : Nat) (material : Text)
  | imageSaved (path : Text)
  | displayFailed (line : Int) (text : Text)
  | directiveSkipped (error : ScriptError)
  | frameDone (frame : Int)
  | badConfiguration (text : Text)
  | scriptMissing (path : Text)
  | scriptUnreadable (path text : Text)
  | runFailed (error : ScriptError)
  | imagesKept (count : Nat)
  | runFinished (frames images : Nat)
  | warningKept (error : ScriptError)

namespace Notice

/-- The importance of a notice. -/
def level : Notice → Level
  | framesOverridden .. | basenameKept .. | displayFailed .. | directiveSkipped _ => .warning
  | rendering .. | imageSaved _ | runFinished .. => .info
  | badConfiguration _ | scriptMissing _ | scriptUnreadable .. | runFailed _ | imagesKept _ =>
      .error
  | _ => .debug

/-- The channel a notice is reported on. -/
def channel : Notice → String
  | framesOverridden .. | basenameKept .. | knobsResolved .. => "scenescript.animation"
  | lineSkipped | trianglesFilled .. => "scenescript.raster"
  | imageSaved _ => "scenescript.persist"
  | rendering .. | executing .. | knobUnset .. | displayFailed .. | directiveSkipped _
  | frameDone _ => "scenescript.interpreter"
  | _ => "scenescript"

/-- A list of texts in square brackets, each in quotes. -/
def textListing
    (texts : List Text) :
    String :=
  (Json.list (texts.map .text)).quotedDisplay

/-- The wording of a notice. -/
def message : Notice → Text
  | framesOverridden line count earlier =>
      "line " ++ Number.intText line ++ ": frames " ++ Number.intText count
        ++ " overrides earlier frames " ++ Number.intText earlier
  | basenameKept line basename =>
      "line " ++ Number.intText line ++ ": basename without a name, keeping "
        ++ Text.quoted basename
  | knobsResolved knobs frames =>
      "Resolved knobs " ++ textListing knobs ++ " over " ++ Number.intText frames ++ " frames"
  | rendering frames statements =>
      "Rendering " ++ Number.intText frames ++ " frame(s) from " ++ Number.intText statements
        ++ " directives"
  | executing frame statement =>
      "frame " ++ Number.intText frame ++ " line " ++ Number.intText statement.line ++ ": "
        ++ statement.directive.keyword ++ " "
        ++ Directive.operandListing statement.directive.operands
  | knobUnset frame knob =>
      "frame " ++ Number.intText frame ++ ": knob " ++ Text.quoted knob
        ++ " has no value, using 1.0"
  | lineSkipped => "Skipping line with non-finite coordinates"
  | trianglesFilled drawn total material =>
      "Filled " ++ Number.intText drawn ++ "/" ++ Number.intText total
        ++ " triangles with material " ++ Text.quoted material
  | imageSaved path => "Saved image: " ++ path
  | displayFailed line text => "line " ++ Number.intText line ++ ": display failed: " ++ text
  | directiveSkipped error => error.message
  | frameDone frame => "Frame " ++ Number.intText frame ++ " done"
  | badConfiguration text => "invalid configuration: " ++ text
  | scriptMissing path => "script not found: " ++ path
  | scriptUnreadable path text => "could not read script " ++ path ++ ": " ++ text
  | runFailed error => error.message
  | imagesKept count => Number.intText count ++ " image(s) were written before the failure"
  | runFinished frames images =>
      "Rendered " ++ Number.intText frames ++ " frame(s), wrote " ++ Number.intText images
        ++ " image(s)"
  | warningKept error => "warning: " ++ error.message

end Notice
end Diorama
