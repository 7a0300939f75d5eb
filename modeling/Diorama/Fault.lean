import Diorama.Files.SystemError
import Diorama.Number.Scientific

/-!
# Faults of scene scripts

Everything that can be wrong with a scene script, from a line that cannot be read to an image
that cannot be saved.  A fault is a cause; its wording is `Fault.message`, and a `ScriptError`
adds the script line and the animation frame at which it arose, as far as they are known.
-/

namespace Diorama

/-- The kinds of script errors. -/
inductive ErrorKind
  | scriptError
  | parseFailure
  | invalidAxis
  | stackUnderflow
  | unknownMaterial
  | frameRangeError
  | varyWithoutFrames
  | invertedFrameRange
  | frameOutOfRange
  | unsupportedDirective
  | persistenceFailure
  deriving DecidableEq

namespace ErrorKind

/-- The name of a kind. -/
def name : ErrorKind → String
  | scriptError => "ScriptError"
  | parseFailure => "ParseFailure"
  | invalidAxis => "InvalidAxis"
  | stackUnderflow => "StackUnderflow"
  | unknownMaterial => "UnknownMaterial"
  | frameRangeError => "FrameRangeError"
  | varyWithoutFrames => "VaryWithoutFrames"
  | invertedFrameRange => "InvertedFrameRange"
  | frameOutOfRange => "FrameOutOfRange"
  | unsupportedDirective => "UnsupportedDirective"
  | persistenceFailure => "PersistenceFailure"

/-- Every kind. -/
def all : List ErrorKind :=
  [scriptError, parseFailure, invalidAxis, stackUnderflow, unknownMaterial, frameRangeError,
    varyWithoutFrames, invertedFrameRange, frameOutOfRange, unsupportedDirective,
    persistenceFailure]

/-- The next more general kind. -/
def parent? : ErrorKind → Option ErrorKind
  | scriptError => none
  | varyWithoutFrames | invertedFrameRange | frameOutOfRange => some frameRangeError
  | _ => some scriptError

/-- A kind together with all more general kinds. -/
def ancestors
    (kind : ErrorKind) :
    List ErrorKind :=
  match kind.parent? with
  | none => [kind]
  | some parent =>
      match parent.parent? with
      | none => [kind, parent]
      | some root => [kind, parent, root]

/-- Whether an error of this kind ends a run. -/
def isFatal : ErrorKind → Bool
  | unsupportedDirective => false
  | _ => true

end ErrorKind

/-- Why an image was not saved. -/
inductive SaveFault
  | refused (text : Text)
  | notSaved (path text : Text)
  | notWritten (path : Text) (error : SystemError)
  | unsupportedFormat (suffix path : Text)
  | notConverted (path format reason : Text)
  | toolMissing (tool path : Text)
  | toolFailed (tool path reason : Text)
  deriving DecidableEq

/-- What an unsaved image is reported as. -/
def SaveFault.message : SaveFault → Text
  | refused text => text
  | notSaved path text => "could not save " ++ path ++ ": " ++ text
  | notWritten path error => "could not write " ++ path ++ ": " ++ error.message
  | unsupportedFormat suffix path =>
      "unsupported image format " ++ Text.quoted suffix ++ " for " ++ path
  | notConverted path format reason =>
      "could not convert " ++ path ++ " to " ++ format ++ ": " ++ reason
  | toolMissing tool path =>
      Text.quoted tool ++ " not found on PATH; cannot convert " ++ path
  | toolFailed tool path reason => tool ++ " convert failed for " ++ path ++ ": " ++ reason

/-- A cause of a script error. -/
inductive Fault
  | operandCount (keyword : Text) (allowed : List Nat) (given : Nat)
  | notANumber (keyword token : Text)
  | notAName (keyword token : Text)
  | notWhole (keyword label : Text) (minimum : Nat) (value : Float)
  | invalidAxis (axis : Text)
  | stackUnderflow
  | unknownMaterial (name : Text)
  | varyWithoutFrames
  | invertedFrameRange (knob : Text) (first last : Nat)
  | frameOutOfRange (knob : Text) (frame frameCount : Nat)
  | unsupportedDirective (keyword : Text)
  | notSaved (fault : SaveFault)
  deriving DecidableEq

namespace Fault

/-- The kind of a fault. -/
def kind : Fault → ErrorKind
  | operandCount .. | notANumber .. | notAName .. | notWhole .. => .parseFailure
  | invalidAxis _ => .invalidAxis
  | stackUnderflow => .stackUnderflow
  | unknownMaterial _ => .unknownMaterial
  | varyWithoutFrames => .varyWithoutFrames
  | invertedFrameRange .. => .invertedFrameRange
  | frameOutOfRange .. => .frameOutOfRange
  | unsupportedDirective _ => .unsupportedDirective
  | notSaved _ => .persistenceFailure

/-- The wording of a fault. -/
def message : Fault → Text
  | operandCount keyword allowed given =>
      keyword ++ ": expected " ++ " or ".intercalate (allowed.map fun (n : Nat) => Number.intText n)
        ++ " operands, got " ++ Number.intText given
  | notANumber keyword token =>
      keyword ++ ": expected a finite number, got " ++ Text.quoted token
  | notAName keyword token =>
      keyword ++ ": expected a name, got " ++ Text.quoted token
  | notWhole keyword label minimum value =>
      keyword ++ ": " ++ label ++ " must be an integer >= " ++ Number.intText minimum ++ ", got "
        ++ Number.general value
  | invalidAxis axis => "invalid rotation axis " ++ Text.quoted axis ++ ": use x, y or z"
  | stackUnderflow => "pop with no pushed transform to remove"
  | unknownMaterial name => "material " ++ Text.quoted name ++ " is not defined"
  | varyWithoutFrames => "vary requires a frames directive"
  | invertedFrameRange knob first last =>
      "vary " ++ knob ++ ": end frame " ++ Number.intText last ++ " is before start frame "
        ++ Number.intText first
  | frameOutOfRange knob frame frameCount =>
      "vary " ++ knob ++ ": frame " ++ Number.intText frame ++ " is outside 0.."
        ++ Number.intText (frameCount - 1)
  | unsupportedDirective keyword => Text.quoted keyword ++ " is not supported, skipping"
  | notSaved fault => fault.message

end Fault

/-- A text with the line and the frame it refers to, as far as they are known. -/
def locate
    (text : Text)
    (line frame : Option Int) :
    Text :=
  let places :=
    (line.map fun n => "line " ++ Number.intText n).toList
      ++ (frame.map fun n => "frame " ++ Number.intText n).toList
  if places.isEmpty then text else text ++ " (" ++ ", ".intercalate places ++ ")"

/-- A fault and where it arose. -/
structure ScriptError where
  fault : Fault
  line : Option Int
  frame : Option Int
  deriving DecidableEq

namespace ScriptError

/-- A fault on a script line. -/
def onLine
    (fault : Fault)
    (line : Int) :
    ScriptError :=
  ⟨fault, some line, none⟩

/-- A fault whose place is not known yet. -/
def ofFault
    (fault : Fault) :
    ScriptError :=
  ⟨fault, none, none⟩

/-- The whole text of an error. -/
def message
    (e : ScriptError) :
    Text :=
  locate e.fault.message e.line e.frame

/-- Supply the line unless it is known. -/
def withLine
    (e : ScriptError)
    (line : Int) :
    ScriptError :=
  { e with line := some (e.line.getD line) }

/-- Supply the frame unless it is known. -/
def withFrame
    (e : ScriptError)
    (frame : Int) :
    ScriptError :=
  { e with frame := some (e.frame.getD frame) }

end ScriptError
end Diorama
