import Diorama.Animation.Plan
import Diorama.Proofs.Number.FloatMonotone

/-!
# The values of a ramp

The values of a ramp are computed from a rounded step, one multiple of it after the other.  Every
operation rounds, but none of them turns the order around: each value lies between the first one and
every later finite one.  What may be missed is the end.  The last value is as near to it as four
roundings allow, or it is an infinity; and where the difference of the ends is too large for a
double, no value of the ramp is finite and the first is not even a number.

**Main statements.**
* `rampValue_between`: a value lies between the start and every later finite value.
* `rampValue_overflow`: a ramp whose ends are too far apart.
* `rampValue_last`, `rampValue_last_near`: the end of a ramp without rounding, and with it.
-/

namespace Diorama

open Double

namespace Animation

/-! ## One ramp -/

section Ramp

variable {start stop : Float} {frames : Nat}

/-- The length of a ramp: a positive number of frames that is not too large for a double. -/
structure RampLength
    (frames : Nat) : Prop where
  pos : 0 < frames
  small : (frames : ℝ) ≤ largest

theorem rampValue_eq
    (hpos : 0 < frames)
    (start stop : Float)
    (offset : Nat) :
    rampValue start stop frames offset
      = start + (stop - start) / Number.ofInt frames * Number.ofInt offset :=
  if_neg hpos.ne'

/-- Numbers of frames are converted to doubles that are one at least. -/
theorem RampLength.divisor
    (h : RampLength frames) :
    (Number.ofInt frames).isFinite = true ∧ 1 ≤ value (Number.ofInt frames) := by
  have hrounds := rounds_ofInt frames
  have hfinite := hrounds.finite (by
    rw [Int.cast_natCast, Nat.abs_cast]
    linarith [h.small, overflowGap_pos])
  have hone : Representable 1 := by exact_mod_cast representable_intCast (k := 1) (by norm_num)
  refine ⟨hfinite, (hrounds.nearest hfinite).ge hone ?_⟩
  exact_mod_cast h.pos

theorem value_ofInt_zero :
    (Number.ofInt (0 : Nat)).isFinite = true ∧ value (Number.ofInt (0 : Nat)) = 0 := by
  have hrounds := rounds_ofInt 0
  rw [Int.cast_zero] at hrounds
  exact hrounds.exact representable_zero (by simpa using largest_nonneg)

/-- A part of a difference that is not too large is not too large. -/
theorem step_finite
    (hframes : RampLength frames)
    (hdifference : (stop - start).isFinite = true) :
    ((stop - start) / Number.ofInt frames).isFinite = true := by
  obtain ⟨hfinite, hone⟩ := hframes.divisor
  refine (rounds_div hdifference hfinite (by linarith)).finite ?_
  rw [abs_div, abs_of_pos (by linarith : (0 : ℝ) < value (Number.ofInt frames))]
  have hle := div_le_self (abs_nonneg (value (stop - start))) hone
  linarith [abs_value_le (stop - start), overflowGap_pos]

/-- A ramp starts with its start, unless the difference of its ends is too large. -/
theorem rampValue_first
    (hframes : RampLength frames)
    (hstart : start.isFinite = true)
    (hdifference : (stop - start).isFinite = true) :
    (rampValue start stop frames 0).isFinite = true
      ∧ value (rampValue start stop frames 0) = value start := by
  obtain ⟨hzero, hvalue⟩ := value_ofInt_zero
  obtain ⟨hproduct, hproduct'⟩ :=
    mul_of_value_eq_zero (step_finite hframes hdifference) hzero (by rw [hvalue, mul_zero])
  have hsum := rounds_add hstart hproduct
  rw [hproduct', add_zero] at hsum
  rw [rampValue_eq hframes.pos]
  exact hsum.exact (representable_value start) (abs_value_le start)

/-- A value lies between the start and every later finite value. -/
theorem rampValue_between
    (hpos : 0 < frames)
    (hstart : start.isFinite = true)
    {offset later : Nat}
    (hle : offset ≤ later)
    (hlater : (rampValue start stop frames later).isFinite = true) :
    (rampValue start stop frames offset).isFinite = true
      ∧ value (rampValue start stop frames offset)
        ∈ Set.uIcc (value start) (value (rampValue start stop frames later)) := by
  rw [rampValue_eq hpos] at hlater ⊢
  rw [rampValue_eq hpos]
  have hproduct := (isFinite_of_add hlater).2
  obtain ⟨hstep, hcount⟩ := isFinite_of_mul hproduct
  obtain ⟨hoffset, hoffsets⟩ := ofInt_between hle hcount
  obtain ⟨hbefore, hproducts⟩ := mul_between hstep hoffset hoffsets hproduct
  exact add_between hstart hbefore hproducts hlater

/-- The values of a ramp are numbers, unless the difference of its ends is too large. -/
theorem rampValue_number
    (hframes : RampLength frames)
    (hstart : start.isFinite = true)
    (hdifference : (stop - start).isFinite = true)
    {offset : Nat}
    (hle : offset ≤ frames) :
    (rampValue start stop frames offset).isNaN = false := by
  have hoffset := (ofInt_between hle hframes.divisor.1).1
  have hproduct := (rounds_mul (step_finite hframes hdifference) hoffset).isNaN_eq_false
  rw [rampValue_eq hframes.pos]
  rcases isFinite_or_isInf hproduct with hfinite | hinfinite
  · exact (rounds_add hstart hfinite).isNaN_eq_false
  · exact isNaN_of_isInf (isInf_add hstart hinfinite)

/-- A ramp whose ends are too far apart starts with no number and goes on with infinities. -/
theorem rampValue_overflow
    (hframes : RampLength frames)
    (hstart : start.isFinite = true)
    (hstop : stop.isFinite = true)
    (hdifference : ¬(stop - start).isFinite = true) :
    (rampValue start stop frames 0).isNaN = true
      ∧ ∀ offset, 0 < offset → offset ≤ frames →
        (rampValue start stop frames offset).isInf = true := by
  have hinfinite := (isFinite_or_isInf (rounds_sub hstop hstart).isNaN_eq_false).resolve_left
    hdifference
  have hstep := isInf_div hinfinite hframes.divisor.1
  constructor
  · obtain ⟨hzero, hvalue⟩ := value_ofInt_zero
    rw [rampValue_eq hframes.pos, isNaN_add_iff, isNaN_mul_iff]
    exact .inr (.inl (.inr (.inr (.inl ⟨hstep, (beq_zero_iff_value hzero).mpr hvalue⟩))))
  · intro offset hpos hle
    have hoffset : RampLength offset := ⟨hpos, by
      have hle : (offset : ℝ) ≤ frames := by exact_mod_cast hle
      linarith [hframes.small]⟩
    obtain ⟨hfinite, hone⟩ := hoffset.divisor
    rw [rampValue_eq hframes.pos]
    refine isInf_add hstart (isInf_mul hstep hfinite ?_)
    rw [beq_zero_iff_value hfinite]
    linarith

/-- The difference of the ends is finite if any value is. -/
theorem difference_finite
    (hframes : RampLength frames)
    (hstart : start.isFinite = true)
    (hstop : stop.isFinite = true)
    {offset : Nat}
    (hle : offset ≤ frames)
    (h : (rampValue start stop frames offset).isFinite = true) :
    (stop - start).isFinite = true := by
  by_contra hdifference
  obtain ⟨hfirst, hlater⟩ := rampValue_overflow hframes hstart hstop hdifference
  rcases offset.eq_zero_or_pos with rfl | hpos
  · rw [isNaN_of_isFinite h] at hfirst
    cases hfirst
  · exact not_isFinite_of_isInf (hlater offset hpos hle) h

/-- A ramp whose number of frames, difference and step are not rounded. -/
structure ExactRamp
    (start stop : Float)
    (frames : Nat) : Prop where
  count : Representable frames
  difference : Representable (value stop - value start)
  step : Representable ((value stop - value start) / frames)

/-- Without rounding a ramp ends with its end. -/
theorem rampValue_last
    (hframes : RampLength frames)
    (hstart : start.isFinite = true)
    (hstop : stop.isFinite = true)
    (hdifference : (stop - start).isFinite = true)
    (hexact : ExactRamp start stop frames) :
    (rampValue start stop frames frames).isFinite = true
      ∧ value (rampValue start stop frames frames) = value stop := by
  obtain ⟨hcount, hone⟩ := hframes.divisor
  have hstep := step_finite hframes hdifference
  have hdvalue := ((rounds_sub hstop hstart).nearest hdifference).eq hexact.difference
  have hcvalue : value (Number.ofInt frames) = frames :=
    ((rounds_ofInt frames).nearest hcount).eq (by exact_mod_cast hexact.count)
  have hpos : (0 : ℝ) < frames := by exact_mod_cast hframes.pos
  have hsvalue : value ((stop - start) / Number.ofInt frames)
      = (value stop - value start) / frames := by
    have hquotient := (rounds_div hdifference hcount (by linarith)).nearest hstep
    rw [hdvalue, hcvalue] at hquotient
    exact hquotient.eq hexact.step
  have hproduct := rounds_mul hstep hcount
  rw [hsvalue, hcvalue, div_mul_cancel₀ _ hpos.ne', ← hdvalue] at hproduct
  obtain ⟨hpfinite, hpvalue⟩ := hproduct.exact (representable_value _) (abs_value_le _)
  have hsum := rounds_add hstart hpfinite
  rw [hpvalue, hdvalue, add_sub_cancel] at hsum
  rw [rampValue_eq hframes.pos]
  exact hsum.exact (representable_value stop) (abs_value_le stop)

end Ramp

/-! ## The distance from the end -/

section Distance

variable {start stop : Float} {frames : Nat}

/-- Four roundings on the way from one number to another miss it by a few relative errors. -/
theorem four_roundings
    {a b d q p v count m u η : ℝ}
    (hu : 0 ≤ u)
    (hu' : u ≤ 1 / 100)
    (hη : 0 ≤ η)
    (hcount : 0 ≤ count)
    (ha : |a| ≤ m)
    (hb : |b| ≤ m)
    (hd : |d - (b - a)| ≤ u * |b - a| + η)
    (hq : |q - d| ≤ u * |d| + η * count)
    (hp : |p - q| ≤ u * |q| + η)
    (hv : |v - (a + p)| ≤ u * |a + p| + η) :
    |v - b| ≤ 8 * (u * m) + (4 * η + 2 * (η * count)) := by
  -- a relative error of a term and of its bound; an error of an error is a hundredth of it at most
  have hrelative {x y e : ℝ} (hx : |x - y| ≤ e) : u * |x| ≤ u * |y| + e / 100 := by
    have he := mul_le_mul_of_nonneg_right hu' ((abs_nonneg (x - y)).trans hx)
    have hle := mul_le_mul_of_nonneg_left
      ((sub_le_iff_le_add'.mp (abs_sub_abs_le_abs_sub x y)).trans (add_le_add_right hx |y|)) hu
    rw [mul_add] at hle
    linarith
  have hum : 0 ≤ u * m := mul_nonneg hu ((abs_nonneg a).trans ha)
  have hηcount : 0 ≤ η * count := mul_nonneg hη hcount
  have hdistance : u * |b - a| ≤ 2 * (u * m) := by
    have hle := mul_le_mul_of_nonneg_left ((abs_sub b a).trans (add_le_add hb ha)) hu
    linarith
  have hdu := hrelative hd
  have hqu := hrelative hq
  have hmissed : |a + p - b| ≤ u * |q| + u * |d| + u * |b - a| + (2 * η + η * count) := by
    have hsum : a + p - b = p - q + (q - d) + (d - (b - a)) := by ring
    rw [hsum]
    linarith [abs_add_three (p - q) (q - d) (d - (b - a))]
  have hbu : u * |b| ≤ u * m := mul_le_mul_of_nonneg_left hb hu
  have hsumu := hrelative hmissed
  linarith [abs_sub_le v (a + p) b]

/-- A number of frames that is converted is not much greater. -/
theorem value_ofInt_le
    (hframes : RampLength frames) :
    value (Number.ofInt frames) ≤ 2 * frames := by
  have hmissed := ((rounds_ofInt frames).nearest hframes.divisor.1).abs_sub_le_roundoff
  have hone : (1 : ℝ) ≤ frames := by exact_mod_cast hframes.pos
  rw [Int.cast_natCast, abs_of_pos (by linarith : (0 : ℝ) < frames)] at hmissed
  have hrelative := mul_le_mul_of_nonneg_right roundoff_le (by linarith : (0 : ℝ) ≤ frames)
  have htiny := le_mul_of_one_le_right underflow_pos.le one_le_largest
  linarith [(abs_le.mp hmissed).2, underflow_mul_largest_le]

/-- All steps together miss the difference by what one of them misses in every frame. -/
theorem abs_steps_sub_le
    (hframes : RampLength frames)
    (hdifference : (stop - start).isFinite = true) :
    |value ((stop - start) / Number.ofInt frames) * value (Number.ofInt frames)
        - value (stop - start)|
      ≤ roundoff * |value (stop - start)| + underflow * value (Number.ofInt frames) := by
  obtain ⟨hcount, hone⟩ := hframes.divisor
  have hpos : 0 < value (Number.ofInt frames) := by linarith
  have hrounds := rounds_div hdifference hcount hpos.ne'
  have hmissed := (hrounds.nearest (step_finite hframes hdifference)).abs_sub_le_roundoff
  generalize value (Number.ofInt frames) = n at *
  have hscaled := mul_le_mul_of_nonneg_right hmissed hpos.le
  rwa [← abs_of_pos hpos, ← abs_mul, sub_mul, add_mul, mul_assoc, ← abs_mul, abs_of_pos hpos,
    div_mul_cancel₀ _ hpos.ne'] at hscaled

/-- Eight times what bounds both ends bounds the last value. -/
theorem rampValue_last_bounded
    {r : ℝ}
    (hr : 1 ≤ r)
    (hbound : ∀ k : Nat, k ≤ 3 → Bound (2 ^ k * r))
    (hframes : RampLength frames)
    (hstart : Bounded start r)
    (hstop : Bounded stop r) :
    Bounded (rampValue start stop frames frames) (2 ^ 3 * r) := by
  have hdifference : Bounded (stop - start) (2 ^ 1 * r) :=
    hstop.sub hstart (hbound 1 (by norm_num)) (by linarith)
  have hsteps : |value ((stop - start) / Number.ofInt frames) * value (Number.ofInt frames)|
      ≤ 2 ^ 2 * r := by
    have hmissed := abs_steps_sub_le hframes hdifference.finite
    have hle := (abs_sub_abs_le_abs_sub _ _).trans hmissed
    have hrelative := mul_le_mul_of_nonneg_right roundoff_le (abs_nonneg (value (stop - start)))
    have hcount := mul_le_mul_of_nonneg_left (value_ofInt_le hframes) underflow_pos.le
    have htiny := mul_le_mul_of_nonneg_left hframes.small underflow_pos.le
    linarith [hdifference.abs_le, underflow_mul_largest_le]
  have hproduct := (rounds_mul (step_finite hframes hdifference.finite) hframes.divisor.1).bounded
    (hbound 2 (by norm_num)).representable (hbound 2 (by norm_num)).le_largest hsteps
  rw [rampValue_eq hframes.pos]
  exact hstart.add hproduct (hbound 3 le_rfl) (by linarith)

/-- A finite last value misses the end by a few roundings. -/
theorem rampValue_last_near
    (hframes : RampLength frames)
    (hstart : start.isFinite = true)
    (hstop : stop.isFinite = true)
    (hlast : (rampValue start stop frames frames).isFinite = true) :
    |value (rampValue start stop frames frames) - value stop|
      ≤ 8 * (roundoff * max |value start| |value stop|) + 8 * (underflow * frames) := by
  have hdifference := difference_finite hframes hstart hstop le_rfl hlast
  have hstep := step_finite hframes hdifference
  obtain ⟨hcount, hone⟩ := hframes.divisor
  rw [rampValue_eq hframes.pos] at hlast ⊢
  have hproduct := (isFinite_of_add hlast).2
  have htotal := four_roundings roundoff_pos.le roundoff_le underflow_pos.le (by linarith)
    (le_max_left _ _) (le_max_right _ _)
    ((rounds_sub hstop hstart).nearest hdifference).abs_sub_le_roundoff
    (abs_steps_sub_le hframes hdifference)
    ((rounds_mul hstep hcount).nearest hproduct).abs_sub_le_roundoff
    ((rounds_add hstart hproduct).nearest hlast).abs_sub_le_roundoff
  have hpos : (1 : ℝ) ≤ frames := by exact_mod_cast hframes.pos
  have hcounts := mul_le_mul_of_nonneg_left (value_ofInt_le hframes) underflow_pos.le
  have hones := mul_le_mul_of_nonneg_left hpos underflow_pos.le
  linarith

end Distance
end Animation
end Diorama
