import Diorama.Canvas.Basic
import Diorama.Fault
import Diorama.Files.Path

/-!
# Outlets

Where the pictures of a run go: an outlet saves a canvas under a path and shows a canvas to the
viewer.  Whatever saving and showing change is a state `σ`, so that a run is a function of it.
-/

namespace Diorama

/-- Why a picture was not saved. -/
inductive SaveFailure
  | system (text : Text)
  | script (error : ScriptError)
  | crash (cause : Crash)
  deriving DecidableEq

/-- A place for pictures, whose state is a `σ`. -/
structure Outlet (σ : Type) where
  save : Canvas Float → Path → σ → Except SaveFailure Path × σ
  present : Canvas Float → σ → Except Text Unit × σ

/-- Why a run stopped before its end. -/
inductive Failure
  | script (error : ScriptError)
  | crash (cause : Crash)
  deriving DecidableEq

namespace Failure

/-- A fault whose place is not known yet. -/
def ofFault
    (fault : Fault) :
    Failure :=
  .script (.ofFault fault)

/-- The failure of a run whose picture was not saved under a path. -/
def ofSave
    (path : Path) :
    SaveFailure → Failure
  | .system text => ofFault (.notSaved (.notSaved path.toText text))
  | .script error => .script error
  | .crash cause => .crash cause

/-- Supply the frame of an error in the script unless it is known. -/
def withFrame
    (frame : Int) :
    Failure → Failure
  | script error => script (error.withFrame frame)
  | crash cause => crash cause

end Failure
end Diorama
