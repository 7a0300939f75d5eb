import Diorama.Animation.KnobTable
import Diorama.Notice

/-!
# Animation plans

An animation is settled before anything is drawn.  `Animation.scan` finds the number of frames and
the stem of their names; `Animation.knobTable` expands every `vary` directive into values for the
frames of its range, a later directive taking precedence over an earlier one.
-/

namespace Diorama

/-- What a script says about its animation as a whole. -/
structure Animation where
  frameCount : Option Nat
  basename : Text
  varies : Bool
  warnings : List Notice

namespace Animation

/-- Whether a script is animated. -/
def isAnimated
    (a : Animation) :
    Bool :=
  a.frameCount.isSome

/-- The number of frames to draw: a still script is one frame. -/
def framesToRender
    (a : Animation) :
    Nat :=
  a.frameCount.getD 1

/-- What one statement adds to a plan. -/
def observe
    (a : Animation)
    (s : Statement) :
    Animation :=
  match s.directive with
  | .frames count =>
      let warnings :=
        match a.frameCount with
        | some earlier =>
            if count.value = earlier then a.warnings
            else a.warnings ++ [.framesOverridden s.line count.value earlier]
        | none => a.warnings
      { a with frameCount := some count.value, warnings }
  | .basename none => { a with warnings := a.warnings ++ [.basenameKept s.line a.basename] }
  | .basename (some name) => { a with basename := name }
  | .vary .. => { a with varies := true }
  | _ => a

/-- The plan of a script; the last number of frames and the last stem given count. -/
def scan
    (statements : List Statement)
    (defaultBasename : Text) :
    Animation :=
  statements.foldl observe ⟨none, defaultBasename, false, []⟩

/-- The value of a ramp `offset` frames after its first one. -/
def rampValue
    (start stop : Float)
    (frames offset : Nat) :
    Float :=
  if frames = 0 then start
  else start + (stop - start) / Number.ofInt frames * Number.ofInt offset

/-- Enter a ramp from `start` to `stop` into the frames `first` to `last`. -/
def enterRamp
    (t : KnobTable)
    (knob : Text)
    (first last : Nat)
    (start stop : Float) :
    KnobTable :=
  (List.range (last + 1 - first)).foldl
    (fun t offset => t.assign (first + offset) knob (rampValue start stop (last - first) offset))
    t

/-- Enter the ramp of a statement, if it is one, into a table of `frameCount` frames. -/
def enterStatement
    (frameCount : Nat)
    (t : KnobTable)
    (s : Statement) :
    Except ScriptError KnobTable :=
  match s.directive with
  | .vary knob first last start stop =>
      if last.value < first.value then
        .error (.onLine (.invertedFrameRange knob first.value last.value) s.line)
      else if frameCount ≤ last.value then
        .error (.onLine (.frameOutOfRange knob last.value frameCount) s.line)
      else .ok (enterRamp t knob first.value last.value start stop)
  | _ => .ok t

/-- The line of the first `vary` directive. -/
def firstVaryLine? : List Statement → Option Int
  | [] => none
  | s :: rest =>
      match s.directive with
      | .vary .. => some s.line
      | _ => firstVaryLine? rest

/-- The knob values of every frame, no longer to be changed. -/
def knobTable
    (a : Animation)
    (statements : List Statement) :
    Except ScriptError KnobTable :=
  match firstVaryLine? statements, a.frameCount with
  | none, frameCount => .ok (KnobTable.empty (frameCount.getD 0)).freeze
  | some line, none => .error (.onLine .varyWithoutFrames line)
  | some _, some frameCount => do
      let t ← statements.foldlM (enterStatement frameCount) (KnobTable.empty frameCount)
      return t.freeze

/-- The report on a finished knob table; a script without ramps has none. -/
def tableNotices
    (a : Animation)
    (t : KnobTable) :
    List Notice :=
  if a.varies then [.knobsResolved t.knobs t.size] else []

end Animation
end Diorama
