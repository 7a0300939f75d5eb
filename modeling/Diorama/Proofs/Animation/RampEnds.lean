import Diorama.Proofs.Animation.KnobValues
import Diorama.Proofs.Animation.Ramps
import Diorama.Proofs.Script.Stream

/-!
# The ends of a ramp in a script

A script is read with finite numbers only, so the ends of its ramps are finite and the length of a
range is not too large for a double.  On the frames of a ramp that no later one overwrites the knob
has the values of the ramp, and these go from one of its ends to the other if the last of them does
not miss its end.

**Main statements.**
* `Script.rampsFinitely_of_read`: the operands of ramps that are read.
* `Animation.value?_of_split`: the values of a ramp in the table of a settled animation.
* `knob_ramp_ends`: when a ramp of a script goes from one of its ends to the other.
-/

namespace Diorama

open Double

/-! ## Ramps that are read -/

/-- A directive that is no ramp, or one between finite ends whose last frame is not too large for a
double. -/
def Directive.RampsFinitely : Directive → Prop
  | .vary _ _ last start stop =>
      start.isFinite = true ∧ stop.isFinite = true ∧ (last.value : ℝ) ≤ largest
  | _ => True

theorem Directive.IsCount.value_le
    {minimum : Nat}
    {token : Text}
    {count : WholeNumber}
    (h : IsCount minimum token count) :
    (count.value : ℝ) ≤ largest := by
  have hvalue := (value_of_isInteger h.whole).2
  rw [Int.cast_natCast] at hvalue
  rw [← hvalue]
  exact (le_abs_self _).trans (abs_value_le _)

theorem Directive.rampsFinitely_ofTokens
    {keyword : Text}
    {tokens : List Text}
    {directive : Directive}
    (h : ofTokens keyword tokens = .ok directive) :
    directive.RampsFinitely := by
  rcases spelled_or_unknown_of_ofTokens h with hspelled | rfl
  · cases hspelled with
    | vary _ _ hlast hstart hstop => exact ⟨hstart.2, hstop.2, hlast.value_le⟩
    | _ => trivial
  · trivial

/-- Every ramp of a script that was read is between finite ends. -/
theorem Script.rampsFinitely_of_read
    {text : Text}
    {statements : List Statement}
    (h : read text = .ok statements) :
    ∀ statement ∈ statements, statement.directive.RampsFinitely :=
  forall_of_readLines (P := Directive.RampsFinitely) trivial
    (fun _ _ _ => Directive.rampsFinitely_ofTokens) h

/-! ## The ends of a ramp in a table -/

/-- A double lies between two others, whichever of these is the smaller one. -/
def Between
    (x y z : Float) :
    Prop :=
  (x ≤ z ∧ z ≤ y) ∨ (y ≤ z ∧ z ≤ x)

/-- A value on a frame of a range over which a knob goes from one number to another. -/
structure OnWay
    (first last : Nat)
    (start stop : Float)
    (frame : Nat)
    (y : Float) : Prop where
  finite : y.isFinite = true
  atFirst : frame = first → (y == start) = true
  atLast : frame = last → (y == stop) = true
  between : Between start stop y

/-- A knob goes from one number to another over the frames of a range. -/
def KnobTable.HitsEnds
    (t : KnobTable)
    (knob : Text)
    (first last : Nat)
    (start stop : Float) :
    Prop :=
  ∀ frame : Nat, first ≤ frame → frame ≤ last →
    ∃ y, t.value? frame knob = some y ∧ OnWay first last start stop frame y

theorem between_iff_value
    {x y z : Float}
    (hx : x.isFinite = true)
    (hy : y.isFinite = true)
    (hz : z.isFinite = true) :
    Between x y z ↔ value z ∈ Set.uIcc (value x) (value y) := by
  rw [Between, le_iff_value hx hz, le_iff_value hz hy, le_iff_value hy hz, le_iff_value hz hx,
    Set.mem_uIcc]

namespace Animation

/-- What the values of a ramp are like over the frames of its range. -/
structure Course
    (first last : Nat)
    (start stop : Float)
    (values : Nat → Float) : Prop where
  atFirst : (stop - start).isFinite = true → (values first == start) = true
  number : (stop - start).isFinite = true → ∀ frame, first ≤ frame → frame ≤ last →
    (values frame).isNaN = false
  between : ∀ frame next, first ≤ frame → frame ≤ next → next ≤ last →
    (values next).isFinite = true →
      (values frame).isFinite = true ∧ Between start (values next) (values frame)
  atLast : (stop - start).isFinite = true → ExactRamp start stop (last - first) →
    (values last == stop) = true
  finite : Bounded start (2 ^ (1020 : Int)) → Bounded stop (2 ^ (1020 : Int)) →
    (values last).isFinite = true
  near : (values last).isFinite = true →
    |value (values last) - value stop|
      ≤ 8 * (roundoff * max |value start| |value stop|)
        + 8 * (underflow * (last - first : Nat))
  overflow : ¬(stop - start).isFinite = true →
    (values first).isNaN = true
      ∧ ∀ frame, first < frame → frame ≤ last → (values frame).isInf = true

section Ends

variable {start stop : Float} {first last : Nat}

theorem course_rampValue
    (hframes : RampLength (last - first))
    (hstart : start.isFinite = true)
    (hstop : stop.isFinite = true) :
    Course first last start stop
      (fun frame => rampValue start stop (last - first) (frame - first)) where
  atFirst hdifference := by
    rw [Nat.sub_self]
    exact (beq_iff_value hstart).mpr (rampValue_first hframes hstart hdifference)
  number hdifference frame _ hle :=
    rampValue_number hframes hstart hdifference (Nat.sub_le_sub_right hle first)
  between frame next _ hle _ hnext := by
    obtain ⟨hfinite, hbetween⟩ :=
      rampValue_between hframes.pos hstart (Nat.sub_le_sub_right hle first) hnext
    exact ⟨hfinite, (between_iff_value hstart hnext hfinite).mpr hbetween⟩
  atLast hdifference hexact :=
    (beq_iff_value hstop).mpr (rampValue_last hframes hstart hstop hdifference hexact)
  finite hstart hstop := by
    refine (rampValue_last_bounded (one_le_zpow₀ one_le_two (by norm_num)) ?_ hframes hstart
      hstop).finite
    intro k hk
    rw [← zpow_natCast, ← zpow_add₀ two_ne_zero]
    exact .zpow (by omega) (by omega)
  near hlast := rampValue_last_near hframes hstart hstop hlast
  overflow hdifference := by
    obtain ⟨hfirst, hlater⟩ := rampValue_overflow hframes hstart hstop hdifference
    rw [Nat.sub_self]
    exact ⟨hfirst, fun frame hlow hhigh => hlater _ (by omega) (by omega)⟩

/-- A ramp whose last value is its end goes there from its start. -/
theorem Course.onWay
    {values : Nat → Float}
    (h : Course first last start stop values)
    (hordered : first < last)
    (hstart : start.isFinite = true)
    (hstop : stop.isFinite = true)
    (hlast : (values last == stop) = true)
    {frame : Nat}
    (hfirst : first ≤ frame)
    (hle : frame ≤ last) :
    OnWay first last start stop frame (values frame) := by
  obtain ⟨hend, hvalue⟩ := (beq_iff_value hstop).mp hlast
  obtain ⟨hfinite, hbetween⟩ := h.between frame last hfirst hle le_rfl hend
  rw [between_iff_value hstart hend hfinite, hvalue] at hbetween
  have hdifference : (stop - start).isFinite = true := by
    by_contra hlarge
    exact not_isFinite_of_isInf ((h.overflow hlarge).2 last hordered le_rfl) hend
  refine ⟨hfinite, ?_, ?_, (between_iff_value hstart hstop hfinite).mpr hbetween⟩
  · rintro rfl
    exact h.atFirst hdifference
  · rintro rfl
    exact hlast

/-- The range of a ramp that is read has a length. -/
theorem rampLength_of_rampsFinitely
    {knob : Text}
    {first last : WholeNumber}
    (h : (Directive.vary knob first last start stop).RampsFinitely)
    (hordered : first.value < last.value) :
    RampLength (last.value - first.value) := by
  refine ⟨Nat.sub_pos_of_lt hordered, le_trans ?_ h.2.2⟩
  exact_mod_cast Nat.sub_le _ _

/-- A ramp that no later one overwrites gives its values to the frames of its range. -/
theorem value?_of_split
    {statements earlier later : List Statement}
    {defaultBasename : Text}
    {table : KnobTable}
    (h : (scan statements defaultBasename).knobTable statements = .ok table)
    {line : Int}
    {knob : Text}
    {first last : WholeNumber}
    (hsplit : statements = earlier ++ ⟨line, .vary knob first last start stop⟩ :: later)
    {frame : Nat}
    (hfirst : first.value ≤ frame)
    (hlast : frame ≤ last.value)
    (hlater : ∀ s ∈ later, ¬s.directive.Covers knob frame) :
    table.value? frame knob
      = some (rampValue start stop (last.value - first.value) (frame - first.value)) := by
  have hrange := inRange_of_knobTable_eq_ok h ⟨line, .vary knob first last start stop⟩
    (by rw [hsplit]; exact List.mem_append_right _ List.mem_cons_self)
  rw [(knobTable_eq_ok h).2.2 frame (hlast.trans_lt hrange.2) knob, hsplit]
  exact getLast?_valueOn?_of_split (if_pos ⟨rfl, hfirst, hlast⟩) hlater

end Ends
end Animation

/--
The values that a ramp of a script gives its knob where no later ramp overwrites them.  They go from
one end of the ramp to the other exactly if the last of them is the end, as it is where the number
of frames, the difference of the ends and the step need no rounding.  The first value is the start,
all values are numbers, and every value lies between the start and each later finite value.  The
last value is finite if the ends are not very large, and then it misses the end by a few roundings
at most.  But where the difference of the ends is too large for a double, the first value is not a
number and all others are infinite.
-/
theorem knob_ramp_ends
    {text : Text}
    {statements : List Statement}
    {defaultBasename : Text}
    {table : KnobTable}
    (hread : Script.read text = .ok statements)
    (htable : (Animation.scan statements defaultBasename).knobTable statements = .ok table)
    {earlier later : List Statement}
    {line : Int}
    {knob : Text}
    {first last : WholeNumber}
    {start stop : Float}
    (hsplit : statements = earlier ++ ⟨line, .vary knob first last start stop⟩ :: later)
    (hordered : first.value < last.value)
    (hlater : ∀ frame, first.value ≤ frame → frame ≤ last.value →
      ∀ s ∈ later, ¬s.directive.Covers knob frame) :
    ∃ values : Nat → Float,
      (∀ frame : Nat, first.value ≤ frame → frame ≤ last.value →
        table.value? frame knob = some (values frame))
      ∧ Animation.Course first.value last.value start stop values
      ∧ (table.HitsEnds knob first.value last.value start stop
          ↔ (values last.value == stop) = true) := by
  have hramp := Script.rampsFinitely_of_read hread ⟨line, .vary knob first last start stop⟩
    (by rw [hsplit]; exact List.mem_append_right _ List.mem_cons_self)
  have hcourse := Animation.course_rampValue
    (Animation.rampLength_of_rampsFinitely hramp hordered) hramp.1 hramp.2.1
  have hvalue {frame : Nat} (hfirst : first.value ≤ frame) (hlast : frame ≤ last.value) :=
    Animation.value?_of_split htable hsplit hfirst hlast (hlater frame hfirst hlast)
  refine ⟨_, fun frame hfirst hlast => hvalue hfirst hlast, hcourse, ?_⟩
  constructor
  · intro h
    obtain ⟨y, hy, hway⟩ := h last.value hordered.le le_rfl
    obtain rfl := Option.some.inj ((hvalue hordered.le le_rfl).symm.trans hy)
    exact hway.atLast rfl
  · intro h frame hfirst hlast
    exact ⟨_, hvalue hfirst hlast, hcourse.onWay hordered hramp.1 hramp.2.1 h hfirst hlast⟩

/-- A ramp may end with its end although its step is rounded. -/
theorem knob_ramp_ends_thirds :
    let text : Text := "frames 6\nvary k 0 3 0 1\nvary k 4 5 7 5"
    let statements : List Statement :=
      [⟨1, .frames ⟨6, 6⟩⟩, ⟨2, .vary "k" ⟨0, 0⟩ ⟨3, 3⟩ 0 1⟩, ⟨3, .vary "k" ⟨4, 4⟩ ⟨5, 5⟩ 7 5⟩,
        ⟨4, .finish⟩]
    let table : KnobTable :=
      ⟨#[[("k", 0)], [("k", 1 / 3)], [("k", 2 / 3)], [("k", 1)], [("k", 7)], [("k", 5)]], true⟩
    Script.read text = .ok statements
      ∧ (Animation.scan statements "output").knobTable statements = .ok table
      ∧ table.HitsEnds "k" 0 3 0 1 := by
  intro text statements table
  have hread : Script.read text = .ok statements := by decide +kernel
  have htable : (Animation.scan statements "output").knobTable statements = .ok table := by
    decide +kernel
  have hsplit : statements
      = statements.take 1 ++ ⟨2, .vary "k" ⟨0, 0⟩ ⟨3, 3⟩ 0 1⟩ :: statements.drop 2 := rfl
  have hlater : ∀ frame, 0 ≤ frame → frame ≤ 3 →
      ∀ s ∈ statements.drop 2, ¬s.directive.Covers "k" frame := by
    intro frame _ hle
    simp [statements, Directive.Covers]
    omega
  obtain ⟨values, hvalues, -, hends⟩ := knob_ramp_ends hread htable hsplit (by decide) hlater
  have hlast : table.value? 3 "k" = some 1 := by decide +kernel
  have hvalue := Option.some.inj (hlast.symm.trans (hvalues 3 (by decide) le_rfl))
  refine ⟨hread, htable, hends.mpr ?_⟩
  rw [← hvalue]
  decide +kernel

/-- A ramp may miss its end by the whole of it, and one between finite ends may have no finite value
at all. -/
theorem knob_ramp_ends_missed :
    let text : Text := "frames 2\nvary a 0 1 1e16 1\nvary b 0 1 -1e308 1e308\n"
    let statements : List Statement :=
      [⟨1, .frames ⟨2, 2⟩⟩, ⟨2, .vary "a" ⟨0, 0⟩ ⟨1, 1⟩ 1e16 1⟩,
        ⟨3, .vary "b" ⟨0, 0⟩ ⟨1, 1⟩ (-1e308) 1e308⟩, ⟨4, .finish⟩]
    let table : KnobTable :=
      ⟨#[[("a", 1e16), ("b", 0 / 0)], [("a", 0), ("b", 1 / 0)]], true⟩
    Script.read text = .ok statements
      ∧ (Animation.scan statements "output").knobTable statements = .ok table
      ∧ (1e16 : Float).isFinite = true
      ∧ (-1e308 : Float).isFinite = true
      ∧ (1e308 : Float).isFinite = true
      ∧ ¬table.HitsEnds "a" 0 1 1e16 1
      ∧ ¬table.HitsEnds "b" 0 1 (-1e308) 1e308 := by
  intro text statements table
  refine ⟨by decide +kernel, by decide +kernel, by decide +kernel, by decide +kernel,
    by decide +kernel, ?_, ?_⟩
  · intro h
    obtain ⟨y, hy, hway⟩ := h 1 (by decide) le_rfl
    obtain rfl : 0 = y := Option.some.inj hy
    exact absurd (hway.atLast rfl) (by decide +kernel)
  · intro h
    obtain ⟨y, hy, hway⟩ := h 0 le_rfl (by decide)
    obtain rfl : 0 / 0 = y := Option.some.inj hy
    exact absurd hway.finite (by decide +kernel)

end Diorama
