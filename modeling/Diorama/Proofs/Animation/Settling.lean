import Diorama.Render.Run

/-!
# Settling an animation

Whether the animation of a script can be settled is said on the list of its statements alone: the
last number of frames counts wherever it stands, ramps need one, and the first ramp whose range is
inverted or reaches past the last frame is refused.  A script whose animation is refused is not
drawn at all.

**Main statements.**
* `frameCount_scan`, `basename_scan`: the plan of a script, by the last directives that settle it.
* `foldlM_enterStatement`: entering all ramps, by the first statement that is refused.
* `knobTable_eq_error_iff`: the refusals of an animation.
* `animation_settled`: which animations are refused, and what a run then comes to.
-/

namespace Diorama

namespace Directive

/-- The number of frames that a directive asks for. -/
def frameCount? : Directive → Option Nat
  | frames count => some count.value
  | _ => none

/-- The stem that a directive gives to the names of frames. -/
def stem? : Directive → Option Text
  | basename name => name
  | _ => none

/-- Whether a directive varies a knob. -/
def varies : Directive → Bool
  | vary .. => true
  | _ => false

/-- The range of a directive is in order and ends in front of a number of frames. -/
def InRange
    (frameCount : Nat) :
    Directive → Prop
  | vary _ first last _ _ => first.value ≤ last.value ∧ last.value < frameCount
  | _ => True

/-- What is wrong with the range of a directive among so many frames. -/
def rangeFault?
    (frameCount : Nat) :
    Directive → Option Fault
  | vary knob first last _ _ =>
      if last.value < first.value then some (.invertedFrameRange knob first.value last.value)
      else if frameCount ≤ last.value then some (.frameOutOfRange knob last.value frameCount)
      else none
  | _ => none

theorem rangeFault?_eq_none_iff
    (frameCount : Nat)
    (directive : Directive) :
    directive.rangeFault? frameCount = none ↔ directive.InRange frameCount := by
  cases directive with
  | vary knob first last start stop =>
      simp only [rangeFault?, InRange]
      split
      · simp
        omega
      · split
        · simp
          omega
        · simp
          omega
  | _ => simp [rangeFault?, InRange]

/-- Only a ramp has a range that can be wrong. -/
theorem rangeFault?_eq_some_iff
    (frameCount : Nat)
    (directive : Directive)
    (fault : Fault) :
    directive.rangeFault? frameCount = some fault ↔
      ∃ knob first last start stop, directive = .vary knob first last start stop
        ∧ ((last.value < first.value
              ∧ fault = .invertedFrameRange knob first.value last.value)
            ∨ (first.value ≤ last.value ∧ frameCount ≤ last.value
              ∧ fault = .frameOutOfRange knob last.value frameCount)) := by
  constructor
  · intro h
    cases directive with
    | vary knob first last start stop =>
        refine ⟨knob, first, last, start, stop, rfl, ?_⟩
        simp only [rangeFault?] at h
        split at h
        · rename_i hinverted
          cases h
          exact .inl ⟨hinverted, rfl⟩
        · rename_i hordered
          split at h
          · rename_i hbeyond
            cases h
            exact .inr ⟨Nat.le_of_not_lt hordered, hbeyond, rfl⟩
          · cases h
    | _ => cases h
  · rintro ⟨knob, first, last, start, stop, rfl, ⟨hinverted, rfl⟩ | ⟨hordered, hbeyond, rfl⟩⟩
    · simp [rangeFault?, hinverted]
    · simp [rangeFault?, Nat.not_lt.mpr hordered, hbeyond]

end Directive

namespace Script

/-- The numbers of frames that statements ask for, in order. -/
def frameCounts
    (statements : List Statement) :
    List Nat :=
  statements.filterMap fun statement => statement.directive.frameCount?

/-- The stems that statements give, in order. -/
def stems
    (statements : List Statement) :
    List Text :=
  statements.filterMap fun statement => statement.directive.stem?

end Script

/-- The refusals of an animation, said on the statements of a script. -/
inductive Animation.Refused
    (statements : List Statement) :
    ScriptError → Prop
  | unframed
      {earlier later : List Statement}
      {statement : Statement}
      (hcounts : Script.frameCounts statements = [])
      (hsplit : statements = earlier ++ statement :: later)
      (hearlier : ∀ other ∈ earlier, other.directive.varies = false)
      (hvaries : statement.directive.varies = true) :
      Refused statements (.onLine .varyWithoutFrames statement.line)
  | inverted
      {frameCount : Nat}
      {earlier later : List Statement}
      {line : Int}
      {knob : Text}
      {first last : WholeNumber}
      {start stop : Float}
      (hcount : (Script.frameCounts statements).getLast? = some frameCount)
      (hsplit : statements = earlier ++ ⟨line, .vary knob first last start stop⟩ :: later)
      (hearlier : ∀ other ∈ earlier, other.directive.InRange frameCount)
      (hinverted : last.value < first.value) :
      Refused statements (.onLine (.invertedFrameRange knob first.value last.value) line)
  | outOfRange
      {frameCount : Nat}
      {earlier later : List Statement}
      {line : Int}
      {knob : Text}
      {first last : WholeNumber}
      {start stop : Float}
      (hcount : (Script.frameCounts statements).getLast? = some frameCount)
      (hsplit : statements = earlier ++ ⟨line, .vary knob first last start stop⟩ :: later)
      (hearlier : ∀ other ∈ earlier, other.directive.InRange frameCount)
      (hordered : first.value ≤ last.value)
      (hbeyond : frameCount ≤ last.value) :
      Refused statements (.onLine (.frameOutOfRange knob last.value frameCount) line)

namespace Animation

section Plans

theorem frameCount_observe
    (a : Animation)
    (s : Statement) :
    (a.observe s).frameCount = s.directive.frameCount?.or a.frameCount := by
  obtain ⟨line, directive⟩ := s
  cases directive with
  | basename name => cases name <;> rfl
  | _ => rfl

theorem basename_observe
    (a : Animation)
    (s : Statement) :
    (a.observe s).basename = s.directive.stem?.getD a.basename := by
  obtain ⟨line, directive⟩ := s
  cases directive with
  | basename name => cases name <;> rfl
  | _ => rfl

/-- A plan keeps the last number of frames. -/
theorem frameCount_foldl
    (a : Animation)
    (statements : List Statement) :
    (statements.foldl observe a).frameCount
      = (Script.frameCounts statements).getLast?.or a.frameCount := by
  induction statements generalizing a with
  | nil => rfl
  | cons s rest ih =>
      rw [List.foldl_cons, ih, frameCount_observe]
      cases hcount : s.directive.frameCount? with
      | none => simp [Script.frameCounts, hcount]
      | some count =>
          simp only [Script.frameCounts, List.filterMap_cons, hcount, List.getLast?_cons]
          cases (rest.filterMap fun s => s.directive.frameCount?).getLast? <;> rfl

/-- A plan keeps the last stem. -/
theorem basename_foldl
    (a : Animation)
    (statements : List Statement) :
    (statements.foldl observe a).basename
      = (Script.stems statements).getLast?.getD a.basename := by
  induction statements generalizing a with
  | nil => rfl
  | cons s rest ih =>
      rw [List.foldl_cons, ih, basename_observe]
      cases hstem : s.directive.stem? with
      | none => simp [Script.stems, hstem]
      | some stem =>
          simp only [Script.stems, List.filterMap_cons, hstem, List.getLast?_cons]
          cases (rest.filterMap fun s => s.directive.stem?).getLast? <;> rfl

/-- The last number of frames counts. -/
theorem frameCount_scan
    (statements : List Statement)
    (defaultBasename : Text) :
    (scan statements defaultBasename).frameCount = (Script.frameCounts statements).getLast? := by
  rw [scan, frameCount_foldl]
  simp

/-- The last stem counts, and the default where none is given. -/
theorem basename_scan
    (statements : List Statement)
    (defaultBasename : Text) :
    (scan statements defaultBasename).basename
      = (Script.stems statements).getLast?.getD defaultBasename := by
  rw [scan, basename_foldl]

/-- The line of the first ramp is that of the first statement that varies a knob. -/
theorem firstVaryLine?_eq
    (statements : List Statement) :
    firstVaryLine? statements
      = (statements.find? fun s => s.directive.varies).map Statement.line := by
  induction statements with
  | nil => rfl
  | cons s rest ih =>
      obtain ⟨line, directive⟩ := s
      cases directive with
      | vary knob first last start stop => rfl
      | _ => exact ih

end Plans

section Ramps

/-- The error of a statement whose range is wrong among so many frames. -/
def rangeError?
    (frameCount : Nat)
    (s : Statement) :
    Option ScriptError :=
  (s.directive.rangeFault? frameCount).map fun fault => .onLine fault s.line

/-- Enter the ramp of a statement, if it is one, whatever its range. -/
def enter
    (t : KnobTable)
    (s : Statement) :
    KnobTable :=
  match s.directive with
  | .vary knob first last start stop => enterRamp t knob first.value last.value start stop
  | _ => t

theorem enterStatement_eq
    (frameCount : Nat)
    (t : KnobTable)
    (s : Statement) :
    enterStatement frameCount t s
      = match rangeError? frameCount s with
        | some error => .error error
        | none => .ok (enter t s) := by
  obtain ⟨line, directive⟩ := s
  cases directive with
  | vary knob first last start stop =>
      simp only [enterStatement, rangeError?, Directive.rangeFault?, enter]
      split
      · rfl
      · split <;> rfl
  | _ => rfl

/-- The first statement that is refused refuses all; else all ramps are entered in order. -/
theorem foldlM_enterStatement
    (frameCount : Nat)
    (t : KnobTable)
    (statements : List Statement) :
    statements.foldlM (enterStatement frameCount) t
      = match statements.findSome? (rangeError? frameCount) with
        | some error => .error error
        | none => .ok (statements.foldl enter t) := by
  induction statements generalizing t with
  | nil => rfl
  | cons s rest ih =>
      rw [List.foldlM_cons, enterStatement_eq, List.findSome?_cons, List.foldl_cons]
      cases hs : rangeError? frameCount s with
      | some error => rfl
      | none => exact ih (enter t s)

/-- All ranges are in order where no statement is refused. -/
theorem findSome?_rangeError?_eq_none_iff
    (frameCount : Nat)
    (statements : List Statement) :
    statements.findSome? (rangeError? frameCount) = none
      ↔ ∀ s ∈ statements, s.directive.InRange frameCount := by
  simp only [List.findSome?_eq_none_iff, rangeError?, Option.map_eq_none_iff,
    Directive.rangeFault?_eq_none_iff]

/-- The first error is that of a statement behind others whose ranges are in order. -/
theorem findSome?_rangeError?_eq_some_iff
    (frameCount : Nat)
    (statements : List Statement)
    (error : ScriptError) :
    statements.findSome? (rangeError? frameCount) = some error
      ↔ ∃ earlier s later fault, statements = earlier ++ s :: later
          ∧ (∀ other ∈ earlier, other.directive.InRange frameCount)
          ∧ s.directive.rangeFault? frameCount = some fault
          ∧ error = .onLine fault s.line := by
  simp only [List.findSome?_eq_some_iff, rangeError?, Option.map_eq_none_iff,
    Option.map_eq_some_iff, Directive.rangeFault?_eq_none_iff]
  constructor
  · rintro ⟨earlier, s, later, hsplit, ⟨fault, hfault, rfl⟩, hearlier⟩
    exact ⟨earlier, s, later, fault, hsplit, hearlier, hfault, rfl⟩
  · rintro ⟨earlier, s, later, fault, hsplit, hearlier, hfault, rfl⟩
    exact ⟨earlier, s, later, hsplit, ⟨fault, hfault, rfl⟩, hearlier⟩

theorem rangeError?_of_not_varies
    {s : Statement}
    (h : s.directive.varies = false)
    (frameCount : Nat) :
    rangeError? frameCount s = none := by
  obtain ⟨line, directive⟩ := s
  cases directive <;> first | rfl | cases h

theorem enter_of_not_varies
    {s : Statement}
    (h : s.directive.varies = false)
    (t : KnobTable) :
    enter t s = t := by
  obtain ⟨line, directive⟩ := s
  cases directive <;> first | rfl | cases h

theorem foldl_enter_of_not_varies
    {statements : List Statement}
    (h : ∀ s ∈ statements, s.directive.varies = false)
    (t : KnobTable) :
    statements.foldl enter t = t := by
  induction statements with
  | nil => rfl
  | cons s rest ih =>
      rw [List.foldl_cons, enter_of_not_varies (h s List.mem_cons_self)]
      exact ih fun other hother => h other (List.mem_cons_of_mem _ hother)

end Ramps

variable {a : Animation} {statements : List Statement}

/-- The table of a script that asks for frames, whether it varies knobs or not. -/
theorem knobTable_of_frames
    {frameCount : Nat}
    (hcount : a.frameCount = some frameCount) :
    a.knobTable statements
      = match statements.findSome? (rangeError? frameCount) with
        | some error => .error error
        | none => .ok (statements.foldl enter (KnobTable.empty frameCount)).freeze := by
  rw [knobTable, firstVaryLine?_eq, hcount]
  cases hfirst : statements.find? fun s => s.directive.varies with
  | some s =>
      simp only [Option.map_some, foldlM_enterStatement]
      cases statements.findSome? (rangeError? frameCount) <;> rfl
  | none =>
      -- without ramps no statement is refused and none is entered, so the table stays empty
      have hstill : ∀ s ∈ statements, s.directive.varies = false := by
        simpa using List.find?_eq_none.mp hfirst
      have hsound : statements.findSome? (rangeError? frameCount) = none :=
        List.findSome?_eq_none_iff.mpr fun s hs => rangeError?_of_not_varies (hstill s hs) _
      rw [hsound, foldl_enter_of_not_varies hstill]
      rfl

/-- The table of a script that asks for no frames: it may not vary any knob. -/
theorem knobTable_of_no_frames
    (hcount : a.frameCount = none) :
    a.knobTable statements
      = match statements.find? fun s => s.directive.varies with
        | some s => .error (.onLine .varyWithoutFrames s.line)
        | none => .ok (KnobTable.empty 0).freeze := by
  rw [knobTable, firstVaryLine?_eq, hcount]
  cases statements.find? fun s => s.directive.varies <;> rfl

/-- An animation without a number of frames is refused at its first ramp. -/
theorem knobTable_eq_error_iff_of_no_frames
    {defaultBasename : Text}
    (hcounts : Script.frameCounts statements = [])
    (error : ScriptError) :
    (scan statements defaultBasename).knobTable statements = .error error
      ↔ Refused statements error := by
  have hcount : (Script.frameCounts statements).getLast? = none := by rw [hcounts]; rfl
  rw [knobTable_of_no_frames ((frameCount_scan _ _).trans hcount)]
  constructor
  · intro h
    split at h
    · rename_i s hfirst
      cases h
      obtain ⟨hvaries, earlier, later, hsplit, hearlier⟩ :=
        List.find?_eq_some_iff_append.mp hfirst
      exact .unframed hcounts hsplit (by simpa using hearlier) hvaries
    · cases h
  · intro h
    cases h with
    | @unframed earlier later s _ hsplit hearlier hvaries =>
        have hfirst : (statements.find? fun s => s.directive.varies) = some s :=
          List.find?_eq_some_iff_append.mpr
            ⟨hvaries, earlier, later, hsplit, by simpa using hearlier⟩
        rw [hfirst]
    | inverted hsome => cases hcount.symm.trans hsome
    | outOfRange hsome => cases hcount.symm.trans hsome

/-- An animation with a number of frames is refused at its first ramp out of range. -/
theorem knobTable_eq_error_iff_of_frames
    {defaultBasename : Text}
    {frameCount : Nat}
    (hcount : (Script.frameCounts statements).getLast? = some frameCount)
    (error : ScriptError) :
    (scan statements defaultBasename).knobTable statements = .error error
      ↔ Refused statements error := by
  have htable : (scan statements defaultBasename).knobTable statements = .error error
      ↔ statements.findSome? (rangeError? frameCount) = some error := by
    rw [knobTable_of_frames ((frameCount_scan _ _).trans hcount)]
    cases statements.findSome? (rangeError? frameCount) <;> simp
  rw [htable, findSome?_rangeError?_eq_some_iff]
  constructor
  · rintro ⟨earlier, ⟨line, directive⟩, later, fault, hsplit, hearlier, hfault, rfl⟩
    obtain ⟨knob, first, last, start, stop, rfl, hwrong⟩ :=
      (Directive.rangeFault?_eq_some_iff _ _ _).mp hfault
    rcases hwrong with ⟨hinverted, rfl⟩ | ⟨hordered, hbeyond, rfl⟩
    · exact .inverted hcount hsplit hearlier hinverted
    · exact .outOfRange hcount hsplit hearlier hordered hbeyond
  · intro h
    cases h with
    | unframed hcounts => simp [hcounts] at hcount
    | inverted hsome hsplit hearlier hinverted =>
        cases hcount.symm.trans hsome
        refine ⟨_, _, _, _, hsplit, hearlier, ?_, rfl⟩
        exact (Directive.rangeFault?_eq_some_iff _ _ _).mpr
          ⟨_, _, _, _, _, rfl, .inl ⟨hinverted, rfl⟩⟩
    | outOfRange hsome hsplit hearlier hordered hbeyond =>
        cases hcount.symm.trans hsome
        refine ⟨_, _, _, _, hsplit, hearlier, ?_, rfl⟩
        exact (Directive.rangeFault?_eq_some_iff _ _ _).mpr
          ⟨_, _, _, _, _, rfl, .inr ⟨hordered, hbeyond, rfl⟩⟩

/-- The animation of a script is refused as its statements say. -/
theorem knobTable_eq_error_iff
    (statements : List Statement)
    (defaultBasename : Text)
    (error : ScriptError) :
    (scan statements defaultBasename).knobTable statements = .error error
      ↔ Refused statements error := by
  cases hcount : (Script.frameCounts statements).getLast? with
  | none => exact knobTable_eq_error_iff_of_no_frames (List.getLast?_eq_none_iff.mp hcount) error
  | some frameCount => exact knobTable_eq_error_iff_of_frames hcount error

/-- A refusal does not know of any frame. -/
theorem Refused.frame_eq_none
    {error : ScriptError}
    (h : Refused statements error) :
    error.frame = none := by
  cases h <;> rfl

end Animation

/-- The result that is remembered after a run: its own, once it has come to drawing. -/
def RunOutcome.lastResult
    {σ : Type}
    (outcome : RunOutcome σ)
    (previous : Option RunResult) :
    Option RunResult :=
  outcome.result <|> previous

/--
The animation of a script is refused exactly for ramps without a number of frames, and for the
first ramp whose range is inverted or ends behind the last frame; otherwise it is settled, with the
last number of frames and the last stem.  A refusal is all that comes of a run: no picture is saved
or shown, which leaves the outlet as it was, and the result of an earlier run is kept.
-/
theorem animation_settled
    {σ : Type}
    (settings : Settings)
    (outlet : Outlet σ)
    (statements : List Statement)
    (outside : σ)
    (previous : Option RunResult) :
    let plan := Animation.scan statements settings.output.basename
    let outcome := run settings outlet statements outside
    (∀ error, plan.knobTable statements = .error error ↔ Animation.Refused statements error)
      ∧ ((¬∃ error, Animation.Refused statements error) ↔
          ∃ knobs, plan.knobTable statements = .ok knobs)
      ∧ plan.frameCount = (Script.frameCounts statements).getLast?
      ∧ plan.basename = (Script.stems statements).getLast?.getD settings.output.basename
      ∧ ∀ error, Animation.Refused statements error →
          outcome.failure = some (.script error)
            ∧ error.frame = none
            ∧ outcome.outside = outside
            ∧ outcome.lastResult previous = previous := by
  intro plan outcome
  have hrefused := Animation.knobTable_eq_error_iff statements settings.output.basename
  refine ⟨hrefused, ?_, Animation.frameCount_scan _ _, Animation.basename_scan _ _, ?_⟩
  · simp only [← hrefused]
    cases plan.knobTable statements <;> simp
  · intro error herror
    have htable : plan.knobTable statements = .error error := (hrefused error).mpr herror
    have houtcome : outcome = ⟨none, some (.script error), outside, plan.warnings.toArray⟩ := by
      simp only [outcome, run]
      rw [htable]
    rw [houtcome]
    exact ⟨rfl, herror.frame_eq_none, rfl, rfl⟩

end Diorama
