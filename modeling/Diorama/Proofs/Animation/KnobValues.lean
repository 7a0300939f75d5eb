import Diorama.Proofs.Animation.Settling
import Mathlib.Control.Monad.Basic

/-!
# Knob values

What a settled animation gives a knob on a frame: the value of the last ramp of that knob whose
range holds the frame, and nothing where there is no such ramp.

**Main statements.**
* `value?_enterRamp`: a ramp gives its knob a value on the frames of its range, and only there.
* `value?_foldl_enter`: of several ramps, the last one that holds the frame decides.
* `knobTable_contents`: the contents of the table of a settled animation.
-/

namespace Diorama

/-- A directive varies a knob over a range that holds a frame. -/
def Directive.Covers
    (knob : Text)
    (frame : Nat) :
    Directive → Prop
  | .vary name first last _ _ => name = knob ∧ first.value ≤ frame ∧ frame ≤ last.value
  | _ => False

namespace Animation

/-- The value that a directive gives a knob on a frame. -/
def valueOn?
    (knob : Text)
    (frame : Nat) :
    Directive → Option Float
  | .vary name first last start stop =>
      if name = knob ∧ first.value ≤ frame ∧ frame ≤ last.value then
        some (rampValue start stop (last.value - first.value) (frame - first.value))
      else none
  | _ => none

theorem isSome_valueOn?_iff
    (knob : Text)
    (frame : Nat)
    (directive : Directive) :
    (valueOn? knob frame directive).isSome ↔ directive.Covers knob frame := by
  cases directive with
  | vary name first last start stop =>
      simp only [valueOn?, Directive.Covers]
      split <;> simp_all
  | _ => simp [valueOn?, Directive.Covers]

instance
    (knob : Text)
    (frame : Nat)
    (directive : Directive) :
    Decidable (directive.Covers knob frame) :=
  decidable_of_iff _ (isSome_valueOn?_iff knob frame directive)

section Ramps

variable (t : KnobTable) (knob : Text) (first last : Nat) (start stop : Float)

/-- The first frames of a ramp from `first` to `last`. -/
def enterFrames
    (count : Nat) :
    KnobTable :=
  (List.range count).foldl
    (fun t offset => t.assign (first + offset) knob (rampValue start stop (last - first) offset)) t

theorem enterFrames_succ
    (count : Nat) :
    enterFrames t knob first last start stop (count + 1)
      = (enterFrames t knob first last start stop count).assign (first + count) knob
          (rampValue start stop (last - first) count) := by
  simp only [enterFrames, List.range_succ, List.foldl_append, List.foldl_cons, List.foldl_nil]

@[simp]
theorem size_enterFrames
    (count : Nat) :
    (enterFrames t knob first last start stop count).size = t.size := by
  induction count with
  | zero => rfl
  | succ count ih => rw [enterFrames_succ, KnobTable.size_assign, ih]

/-- Frames outside of those entered stay as they are. -/
theorem frames_enterFrames_of_outside
    {count frame : Nat}
    (houtside : frame < first ∨ first + count ≤ frame) :
    (enterFrames t knob first last start stop count).frames[frame]? = t.frames[frame]? := by
  induction count with
  | zero => rfl
  | succ count ih =>
      rw [enterFrames_succ, KnobTable.frames_assign_of_ne _ _ _ _ (by omega)]
      exact ih (by omega)

/-- The frames entered so far hold the values of the ramp. -/
theorem value?_enterFrames
    {count : Nat}
    (hcount : first + count ≤ t.size)
    (frame : Nat)
    (name : Text) :
    (enterFrames t knob first last start stop count).value? frame name
      = if name = knob ∧ first ≤ frame ∧ frame < first + count then
          some (rampValue start stop (last - first) (frame - first))
        else t.value? frame name := by
  induction count with
  | zero =>
      rw [if_neg (by omega)]
      rfl
  | succ count ih =>
      rw [enterFrames_succ, KnobTable.value?_assign, size_enterFrames, ih (by omega)]
      by_cases hframe : frame = first + count
      · subst hframe
        have hsize : first + count < t.size := by omega
        by_cases hname : name = knob
        · simp [hname, hsize]
        · simp [hname]
      · have hbefore : frame < first + (count + 1) ↔ frame < first + count := by omega
        simp [hframe, hbefore]

theorem enterRamp_eq :
    enterRamp t knob first last start stop
      = enterFrames t knob first last start stop (last + 1 - first) :=
  rfl

@[simp]
theorem size_enterRamp :
    (enterRamp t knob first last start stop).size = t.size := by
  rw [enterRamp_eq, size_enterFrames]

/-- A ramp leaves the frames outside of its range as they are. -/
theorem frames_enterRamp_of_outside
    {frame : Nat}
    (houtside : ¬(first ≤ frame ∧ frame ≤ last)) :
    (enterRamp t knob first last start stop).frames[frame]? = t.frames[frame]? := by
  rw [enterRamp_eq]
  exact frames_enterFrames_of_outside t knob first last start stop (by omega)

/-- A ramp gives its knob a value on every frame of its range, and nothing else any value. -/
theorem value?_enterRamp
    (hordered : first ≤ last)
    (hlast : last < t.size)
    (frame : Nat)
    (name : Text) :
    (enterRamp t knob first last start stop).value? frame name
      = if name = knob ∧ first ≤ frame ∧ frame ≤ last then
          some (rampValue start stop (last - first) (frame - first))
        else t.value? frame name := by
  rw [enterRamp_eq, value?_enterFrames t knob first last start stop (by omega)]
  have hend : frame < first + (last + 1 - first) ↔ frame ≤ last := by omega
  simp only [hend]

end Ramps

variable {statements : List Statement}

@[simp]
theorem size_enter
    (t : KnobTable)
    (s : Statement) :
    (enter t s).size = t.size := by
  unfold enter
  split
  · exact size_enterRamp _ _ _ _ _ _
  · rfl

@[simp]
theorem size_foldl_enter
    (t : KnobTable)
    (statements : List Statement) :
    (statements.foldl enter t).size = t.size := by
  induction statements generalizing t with
  | nil => rfl
  | cons s rest ih => rw [List.foldl_cons, ih, size_enter]

/-- A statement in range gives the value that its directive says, or leaves what is there. -/
theorem value?_enter
    {t : KnobTable}
    {s : Statement}
    (hrange : s.directive.InRange t.size)
    (frame : Nat)
    (knob : Text) :
    (enter t s).value? frame knob
      = (valueOn? knob frame s.directive).or (t.value? frame knob) := by
  obtain ⟨line, directive⟩ := s
  cases directive with
  | vary name first last start stop =>
      simp only [enter, valueOn?]
      rw [value?_enterRamp t name first.value last.value start stop hrange.1 hrange.2]
      by_cases hname : knob = name
      · subst hname
        split <;> simp_all
      · simp [hname, Ne.symm hname]
  | _ => rfl

/-- Of statements in range, the last one that gives a value decides. -/
theorem value?_foldl_enter
    {t : KnobTable}
    (hrange : ∀ s ∈ statements, s.directive.InRange t.size)
    (frame : Nat)
    (knob : Text) :
    (statements.foldl enter t).value? frame knob
      = ((statements.filterMap fun s => valueOn? knob frame s.directive).getLast?).or
          (t.value? frame knob) := by
  induction statements generalizing t with
  | nil => rfl
  | cons s rest ih =>
      have hrest : ∀ other ∈ rest, other.directive.InRange (enter t s).size := by
        intro other hother
        rw [size_enter]
        exact hrange other (List.mem_cons_of_mem _ hother)
      rw [List.foldl_cons, ih hrest, value?_enter (hrange s List.mem_cons_self)]
      cases hvalue : valueOn? knob frame s.directive with
      | none => simp [hvalue]
      | some value =>
          simp only [List.filterMap_cons, hvalue, List.getLast?_cons]
          cases (rest.filterMap fun s => valueOn? knob frame s.directive).getLast? <;> rfl

/-- A statement that is entered leaves the frames that it does not cover as they are. -/
theorem frames_enterStatement_of_not_covers
    {frameCount frame : Nat}
    {t next : KnobTable}
    {s : Statement}
    (h : enterStatement frameCount t s = .ok next)
    (hcovers : ∀ knob, ¬s.directive.Covers knob frame) :
    next.frames[frame]? = t.frames[frame]? := by
  rw [enterStatement_eq] at h
  split at h
  · cases h
  · cases h
    obtain ⟨line, directive⟩ := s
    cases directive with
    | vary knob first last start stop =>
        apply frames_enterRamp_of_outside
        intro hin
        exact hcovers knob ⟨rfl, hin⟩
    | _ => rfl

/-- Some statement gives a knob a value on a frame exactly if some statement covers the frame. -/
theorem isSome_lastValue_iff
    (knob : Text)
    (frame : Nat)
    (statements : List Statement) :
    (statements.filterMap fun s => valueOn? knob frame s.directive).getLast?.isSome
      ↔ ∃ s ∈ statements, s.directive.Covers knob frame := by
  simp only [← isSome_valueOn?_iff]
  rw [List.getLast?_isSome]
  constructor
  · intro hne
    obtain ⟨value, hvalue⟩ := List.exists_mem_of_ne_nil _ hne
    obtain ⟨s, hs, hgives⟩ := List.mem_filterMap.mp hvalue
    exact ⟨s, hs, by rw [hgives]; rfl⟩
  · rintro ⟨s, hs, hsome⟩
    obtain ⟨value, hvalue⟩ := Option.isSome_iff_exists.mp hsome
    exact List.ne_nil_of_mem (List.mem_filterMap.mpr ⟨s, hs, hvalue⟩)

/-- The value of a ramp on a frame of its range, computed as the line through its ends. -/
theorem valueOn?_of_mem_range
    {first last : WholeNumber}
    {frame : Nat}
    (hfirst : first.value ≤ frame)
    (hlast : frame ≤ last.value)
    (knob : Text)
    (start stop : Float) :
    valueOn? knob frame (.vary knob first last start stop)
      = some (if first.value = last.value then start
          else start + (stop - start) / Number.ofInt ((last.value : Int) - first.value)
            * Number.ofInt ((frame : Int) - first.value)) := by
  have hin : knob = knob ∧ first.value ≤ frame ∧ frame ≤ last.value := ⟨rfl, hfirst, hlast⟩
  rw [valueOn?, if_pos hin, rampValue, Int.natCast_sub (Nat.le_trans hfirst hlast),
    Int.natCast_sub hfirst]
  have hsingle : last.value - first.value = 0 ↔ first.value = last.value := by omega
  simp only [hsingle]

/-- The last value that is given is that of the last statement that covers the frame. -/
theorem getLast?_valueOn?_of_split
    {earlier later : List Statement}
    {s : Statement}
    {knob : Text}
    {frame : Nat}
    {value : Float}
    (hvalue : valueOn? knob frame s.directive = some value)
    (hlater : ∀ other ∈ later, ¬other.directive.Covers knob frame) :
    ((earlier ++ s :: later).filterMap fun s => valueOn? knob frame s.directive).getLast?
      = some value := by
  have hnone : (later.filterMap fun s => valueOn? knob frame s.directive) = [] := by
    rw [List.filterMap_eq_nil_iff]
    intro other hother
    rw [← Option.not_isSome_iff_eq_none, isSome_valueOn?_iff]
    exact hlater other hother
  rw [List.filterMap_append, List.filterMap_cons, hvalue, hnone, List.getLast?_append,
    List.getLast?_singleton]
  rfl

/-- What is known of the table of a settled animation. -/
theorem knobTable_eq_ok
    {defaultBasename : Text}
    {table : KnobTable}
    (h : (scan statements defaultBasename).knobTable statements = .ok table) :
    table.frozen = true
      ∧ table.size = (scan statements defaultBasename).frameCount.getD 0
      ∧ ∀ frame : Nat, frame < table.size → ∀ knob, table.value? frame knob
          = (statements.filterMap fun s => valueOn? knob frame s.directive).getLast? := by
  cases hcount : (scan statements defaultBasename).frameCount with
  | none =>
      rw [knobTable_of_no_frames hcount] at h
      split at h
      · cases h
      · cases h
        refine ⟨rfl, KnobTable.size_empty 0, fun frame hframe => ?_⟩
        exact absurd hframe (Nat.not_lt_zero frame)
  | some frameCount =>
      rw [knobTable_of_frames hcount] at h
      split at h
      · cases h
      · rename_i hsound
        cases h
        have hrange := (findSome?_rangeError?_eq_none_iff _ _).mp hsound
        refine ⟨rfl, by simp, fun frame _ knob => ?_⟩
        have hvalue := value?_foldl_enter (t := KnobTable.empty frameCount)
          (by simpa using hrange) frame knob
        rw [KnobTable.value?_freeze, hvalue, KnobTable.value?_empty, Option.or_none]

/-- Every range of a settled animation ends in front of the end of its table. -/
theorem inRange_of_knobTable_eq_ok
    {defaultBasename : Text}
    {table : KnobTable}
    (h : (scan statements defaultBasename).knobTable statements = .ok table) :
    ∀ s ∈ statements, s.directive.InRange table.size := by
  cases hcount : (scan statements defaultBasename).frameCount with
  | none =>
      rw [knobTable_of_no_frames hcount] at h
      split at h
      · cases h
      · rename_i hstill
        rintro ⟨line, directive⟩ hs
        have hvaries := List.find?_eq_none.mp hstill _ hs
        cases directive with
        | vary knob first last start stop => exact absurd rfl hvaries
        | _ => trivial
  | some frameCount =>
      rw [knobTable_of_frames hcount] at h
      split at h
      · cases h
      · rename_i hsound
        cases h
        simpa using (findSome?_rangeError?_eq_none_iff _ _).mp hsound

end Animation

/--
The table of a settled animation has as many frames as the animation, and takes no further value.
A knob has a value on a frame exactly if some ramp of the knob covers the frame; the last such ramp
decides the value, which lies on the line from its first to its last frame.  Entering a ramp leaves
every frame outside of its range as it is.
-/
theorem knobTable_contents
    {statements : List Statement}
    {defaultBasename : Text}
    {table : KnobTable}
    (h : (Animation.scan statements defaultBasename).knobTable statements = .ok table) :
    table.size = (Animation.scan statements defaultBasename).frameCount.getD 0
      ∧ (∀ frame knob value, table.set frame knob value = .error .frozen)
      ∧ (∀ frame : Nat, frame < table.size → ∀ knob : Text,
          ((table.value? frame knob).isSome ↔
              ∃ s ∈ statements, s.directive.Covers knob frame)
          ∧ ∀ earlier later line first last start stop,
              statements = earlier ++ ⟨line, .vary knob first last start stop⟩ :: later →
              first.value ≤ frame → frame ≤ last.value →
              (∀ s ∈ later, ¬s.directive.Covers knob frame) →
              table.value? frame knob = some
                (if first.value = last.value then start
                else start + (stop - start) / Number.ofInt ((last.value : Int) - first.value)
                  * Number.ofInt ((frame : Int) - first.value)))
      ∧ ∀ (frameCount : Nat) (t next : KnobTable) (s : Statement) (frame : Nat),
          Animation.enterStatement frameCount t s = .ok next →
          (∀ knob, ¬s.directive.Covers knob frame) →
          next.frames[frame]? = t.frames[frame]? := by
  obtain ⟨hfrozen, hsize, hvalue⟩ := Animation.knobTable_eq_ok h
  refine ⟨hsize, ?_, ?_, ?_⟩
  · intro frame knob value
    simp [KnobTable.set, hfrozen]
  · intro frame hframe knob
    rw [hvalue frame hframe knob]
    refine ⟨Animation.isSome_lastValue_iff knob frame statements, ?_⟩
    intro earlier later line first last start stop hsplit hfirst hlast hlater
    rw [hsplit]
    exact Animation.getLast?_valueOn?_of_split
      (Animation.valueOn?_of_mem_range hfirst hlast knob start stop) hlater
  · intro frameCount t next s frame hnext hcovers
    exact Animation.frames_enterStatement_of_not_covers hnext hcovers

/-- Of two ramps that overlap, the later one decides where both cover a frame. -/
theorem knobTable_contents_overlap :
    let statements : List Statement :=
      [⟨1, .vary "k" ⟨0, 0⟩ ⟨4, 4⟩ 0 8⟩, ⟨2, .frames ⟨6, 6⟩⟩, ⟨3, .vary "h" ⟨1, 1⟩ ⟨1, 1⟩ 3 3⟩,
        ⟨4, .vary "k" ⟨3, 3⟩ ⟨5, 5⟩ 1 5⟩, ⟨5, .finish⟩]
    let table : KnobTable :=
      ⟨#[[("k", 0)], [("k", 2), ("h", 3)], [("k", 4)], [("k", 1)], [("k", 3)], [("k", 5)]], true⟩
    (Animation.scan statements "output").knobTable statements = .ok table
      ∧ table.size = 6
      ∧ table.value? 2 "k" = some (0 + (8 - 0) / Number.ofInt 4 * Number.ofInt 2)
      ∧ table.value? 4 "k" = some (1 + (5 - 1) / Number.ofInt 2 * Number.ofInt 1)
      ∧ table.value? 1 "h" = some 3
      ∧ (table.value? 2 "h").isSome = false := by
  intro statements table
  have htable : (Animation.scan statements "output").knobTable statements = .ok table := by
    decide +kernel
  obtain ⟨hsize, _, hvalue, _⟩ := knobTable_contents htable
  refine ⟨htable, hsize, ?_, ?_, ?_, ?_⟩
  · exact (hvalue 2 (by decide) "k").2 [] (statements.drop 1) 1 ⟨0, 0⟩ ⟨4, 4⟩ 0 8 rfl
      (by decide) (by decide) (by decide +kernel)
  · exact (hvalue 4 (by decide) "k").2 (statements.take 3) [⟨5, .finish⟩] 4 ⟨3, 3⟩ ⟨5, 5⟩ 1 5 rfl
      (by decide) (by decide) (by decide +kernel)
  · exact (hvalue 1 (by decide) "h").2 (statements.take 2) (statements.drop 3) 3 ⟨1, 1⟩ ⟨1, 1⟩ 3 3
      rfl (by decide) (by decide) (by decide +kernel)
  · have huncovered : ¬∃ s ∈ statements, s.directive.Covers "h" 2 := by decide +kernel
    exact Bool.eq_false_iff.mpr fun hsome => huncovered ((hvalue 2 (by decide) "h").1.mp hsome)

end Diorama
