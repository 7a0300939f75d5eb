import Diorama.Named
import Diorama.Json.Value

/-!
# Knob tables

The values of the knobs on every frame of an animation.  A frame lists its knobs in the order in
which they first got a value; a knob without a value on a frame is missing there.  Once frozen, a
table no longer changes.

**Main statement.**
* `value?_assign`: assigning gives one knob a value on one frame, and changes nothing else.
-/

namespace Diorama

/-- Knob values frame by frame. -/
structure KnobTable where
  frames : Array (Named Float)
  frozen : Bool
  deriving DecidableEq

namespace KnobTable

/-- Why a table refuses an operation. -/
inductive Refusal
  | frozen
  | noSuchFrame
  deriving DecidableEq

/-- A table of frames without values; a negative number of frames counts as none. -/
def empty
    (frameCount : Int) :
    KnobTable :=
  ⟨Array.replicate frameCount.toNat [], false⟩

/-- The number of frames. -/
def size
    (t : KnobTable) :
    Nat :=
  t.frames.size

/-- The position of a frame; negative frames count from the end. -/
def position?
    (t : KnobTable)
    (frame : Int) :
    Option Nat :=
  let index := if frame < 0 then frame + t.size else frame
  if 0 ≤ index ∧ index < t.size then some index.toNat else none

/-- Give a knob a value at a position of the table, whether frozen or not. -/
def assign
    (t : KnobTable)
    (position : Nat)
    (knob : Text)
    (value : Float) :
    KnobTable :=
  { t with frames := t.frames.modify position (Named.insert knob value) }

/-- Give a knob a value on a frame. -/
def set
    (t : KnobTable)
    (frame : Int)
    (knob : Text)
    (value : Float) :
    Except Refusal KnobTable :=
  if t.frozen then .error .frozen
  else
    match t.position? frame with
    | none => .error .noSuchFrame
    | some position => .ok (t.assign position knob value)

/-- The table that no longer changes. -/
def freeze
    (t : KnobTable) :
    KnobTable :=
  { t with frozen := true }

/-- The values of a frame; negative frames count from the end. -/
def frame?
    (t : KnobTable)
    (frame : Int) :
    Except Refusal (Named Float) :=
  match t.position? frame >>= fun position => t.frames[position]? with
  | some values => .ok values
  | none => .error .noSuchFrame

/-- The value of a knob on a frame from zero on. -/
def value?
    (t : KnobTable)
    (frame : Int)
    (knob : Text) :
    Option Float :=
  if 0 ≤ frame then t.frames[frame.toNat]? >>= Named.find? knob else none

/-- The knobs in the order in which they first occur, frame by frame. -/
def knobs
    (t : KnobTable) :
    List Text :=
  (t.frames.toList.flatMap Named.names).foldl
    (fun seen knob => if seen.contains knob then seen else seen ++ [knob]) []

/-- A one-line description. -/
def display
    (t : KnobTable) :
    String :=
  "KnobFrameTable(frames=" ++ Number.intText t.size ++ ", knobs="
    ++ (Json.list (t.knobs.map .text)).quotedDisplay ++ ")"

/-- What a refusal says, where it says anything. -/
def Refusal.message? : Refusal → Option String
  | .frozen => some "knob table is read-only once rendering starts"
  | .noSuchFrame => none

section Laws

variable (t : KnobTable) (position : Nat) (knob : Text) (value : Float)

@[simp]
theorem size_assign :
    (t.assign position knob value).size = t.size := by
  simp [assign, size]

@[simp]
theorem size_freeze :
    t.freeze.size = t.size :=
  rfl

@[simp]
theorem size_empty
    (frameCount : Nat) :
    (empty frameCount).size = frameCount := by
  simp [empty, size]

/-- Assigning touches one frame only. -/
theorem frames_assign_of_ne
    {frame : Nat}
    (hne : frame ≠ position) :
    (t.assign position knob value).frames[frame]? = t.frames[frame]? := by
  simp [assign, Array.getElem?_modify, Ne.symm hne]

theorem value?_eq
    (frame : Nat) :
    t.value? frame knob = (t.frames[frame]?).bind (Named.find? knob) := by
  simp [value?]

@[simp]
theorem value?_freeze
    (frame : Int) :
    t.freeze.value? frame knob = t.value? frame knob :=
  rfl

@[simp]
theorem value?_empty
    (frameCount frame : Nat) :
    (empty frameCount).value? frame knob = none := by
  rw [value?_eq]
  cases hframe : (empty frameCount).frames[frame]? with
  | none => rfl
  | some values =>
      obtain rfl : values = [] := by
        simp only [empty, Array.getElem?_replicate] at hframe
        split at hframe
        · exact (Option.some.inj hframe).symm
        · cases hframe
      rfl

/-- Assigning gives one knob a value on one frame, and changes nothing else. -/
theorem value?_assign
    (frame : Nat)
    (name : Text) :
    (t.assign position knob value).value? frame name
      = if frame = position ∧ name = knob ∧ frame < t.size then some value
        else t.value? frame name := by
  by_cases hframe : frame = position
  · subst hframe
    rw [value?_eq, value?_eq]
    simp only [assign, Array.getElem?_modify, if_true]
    by_cases hin : frame < t.size
    · rw [Array.getElem?_eq_getElem hin]
      by_cases hname : name = knob
      · subst hname
        simp [hin]
      · simp [hname, Named.find?_insert_of_ne hname]
    · have hnone : t.frames[frame]? = none := Array.getElem?_eq_none (Nat.le_of_not_lt hin)
      simp [hnone, hin]
  · rw [value?_eq, value?_eq, frames_assign_of_ne t position knob value hframe]
    simp [hframe]

end Laws

end KnobTable
end Diorama
