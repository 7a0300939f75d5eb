import Diorama.Proofs.Number.FloatBounds
import Diorama.Shading.Phong

/-!
# Vectors divided by their length

A vector is divided by the rounded length of itself.  Its squares may vanish or become infinite on
the way, but the length that comes out is never much below any of its numbers.  Hence all that
shading computes from directions alone is finite, whatever finite directions it is given.

**Main statements.**
* `bounded_normalize`: the numbers of a normalized vector are at most two.
* `bounded_facing`, `bounded_toward`: so the scalar products of shading are bounded.
-/

namespace Diorama

open Double

/-- All three numbers of a vector have a bound. -/
structure Vec3.Bounded
    (v : Vec3 Float)
    (r : ℝ) : Prop where
  x : Double.Bounded v.x r
  y : Double.Bounded v.y r
  z : Double.Bounded v.z r

theorem Vec3.isFinite_iff
    {v : Vec3 Float} :
    v.isFinite = true ↔ ∀ c ∈ v.toList, c.isFinite = true := by
  simp only [Vec3.isFinite, Vec3.toList, Bool.and_eq_true, List.forall_mem_cons, List.not_mem_nil,
    false_implies, implies_true, and_true, and_assoc]
  rfl

section Length

variable {v : Vec3 Float} {c : Float} {r : ℝ}

/-- The sum of the squares is at least each of the squares, up to rounding. -/
theorem atLeast_dot_self
    (hv : v.isFinite = true)
    (hc : c ∈ v.toList)
    (hr : Representable r)
    (hnonneg : 0 ≤ r)
    (h : r ≤ value c * value c) :
    AtLeast (v.dot v) r := by
  rw [Vec3.isFinite_iff] at hv
  have hsquare (d : Float) (hd : d ∈ v.toList) : AtLeast (d * d) 0 :=
    atLeast_mul_self (hv d hd) representable_zero le_rfl (mul_self_nonneg _)
  have hlarge : AtLeast (c * c) r := atLeast_mul_self (hv c hc) hr hnonneg h
  obtain ⟨a, b, d⟩ := v
  simp only [Vec3.toList, List.mem_cons, List.not_mem_nil, or_false] at hc hsquare
  change AtLeast (a * a + b * b + d * d) r
  have ha := hsquare a (by simp)
  have hb := hsquare b (by simp)
  have hd := hsquare d (by simp)
  rcases hc with rfl | rfl | rfl
  · exact (hlarge.add hb hr hnonneg (by simp)).add hd hr hnonneg (by simp)
  · exact (ha.add hlarge hr hnonneg (by simp)).add hd hr hnonneg (by simp)
  · exact (ha.add hb representable_zero le_rfl (by simp)).add hlarge hr hnonneg (by simp)

/-- The length is not below a power of two that one of the numbers is not below. -/
theorem atLeast_length
    {k : Int}
    (hv : v.isFinite = true)
    (hc : c ∈ v.toList)
    (hk : -537 ≤ k)
    (h : 2 ^ k ≤ |value c|) :
    AtLeast (v.dot v).sqrt (2 ^ k) := by
  have hpos := two_zpow_pos k
  refine AtLeast.sqrt ?_ (representable_zpow (by omega)) hpos.le
  refine atLeast_dot_self hv hc ?_ (mul_pos hpos hpos).le ?_
  · rw [← zpow_add₀ two_ne_zero]
    exact representable_zpow (by omega)
  · rw [← abs_mul_abs_self (value c)]
    exact mul_self_le_mul_self hpos.le h

/-- A length that does not vanish is not below the root of the smallest double. -/
theorem atLeast_length_of_ne_zero
    (hv : v.isFinite = true)
    (hlength : ¬((v.dot v).sqrt == 0) = true) :
    AtLeast (v.dot v).sqrt (2 ^ (-537 : Int)) := by
  have hnonneg : AtLeast (v.dot v) 0 :=
    atLeast_dot_self (c := v.x) hv (by simp [Vec3.toList]) representable_zero le_rfl
      (mul_self_nonneg _)
  refine AtLeast.sqrt ?_ (representable_zpow (by decide)) (two_zpow_pos _).le
  rw [← zpow_add₀ two_ne_zero]
  rcases hnonneg with ⟨hfinite, hnonneg⟩ | hinfinite
  · refine .inl ⟨hfinite, (representable_value _).two_zpow_le (hnonneg.lt_of_ne fun hzero => ?_)⟩
    have hroot := rounds_sqrt hfinite hnonneg
    rw [← hzero, Real.sqrt_zero] at hroot
    have hbounded := hroot.bounded representable_zero largest_nonneg (by simp)
    rw [beq_zero_iff_value hbounded.finite] at hlength
    exact hlength (abs_nonpos_iff.mp hbounded.abs_le)
  · exact .inr hinfinite

/-- No number of a vector is much above its length. -/
theorem exists_atLeast_length
    (hv : v.isFinite = true)
    (hc : c ∈ v.toList)
    (hlength : ¬((v.dot v).sqrt == 0) = true) :
    ∃ r : ℝ, 0 < r ∧ AtLeast (v.dot v).sqrt r ∧ |value c| ≤ 2 * r := by
  by_cases hsmall : |value c| < 2 ^ (-537 : Int)
  · have hpos := two_zpow_pos (-537)
    exact ⟨2 ^ (-537 : Int), hpos, atLeast_length_of_ne_zero hv hlength, by linarith⟩
  · have hlarge := not_lt.mp hsmall
    obtain ⟨k, hlow, hhigh⟩ :=
      exists_mem_Ico_zpow ((two_zpow_pos (-537)).trans_le hlarge) (one_lt_two (α := ℝ))
    have hk : -537 < k + 1 := (zpow_lt_zpow_iff_right₀ one_lt_two).mp (hlarge.trans_lt hhigh)
    rw [zpow_add_one₀ two_ne_zero, mul_comm] at hhigh
    exact ⟨2 ^ k, two_zpow_pos k, atLeast_length hv hc (by omega) hlow, hhigh.le⟩

theorem abs_le_of_length_zero
    (hv : v.isFinite = true)
    (hc : c ∈ v.toList)
    (hlength : ((v.dot v).sqrt == 0) = true) :
    |value c| ≤ 2 := by
  by_contra hlarge
  have hone : (2 : ℝ) ^ (0 : Int) ≤ |value c| := by
    rw [zpow_zero]
    linarith
  exact (atLeast_length hv hc (by decide) hone).not_beq_zero (two_zpow_pos 0) hlength

/-- Dividing by the length leaves numbers that are at most two. -/
theorem bounded_normalize
    (hv : v.isFinite = true) :
    (normalize v).Bounded (2 : Nat) := by
  have hcomponent := Vec3.isFinite_iff.mp hv
  unfold normalize
  simp only
  split
  · rename_i hlength
    have hbound (d : Float) (hd : d ∈ v.toList) : Double.Bounded d (2 : Nat) :=
      ⟨hcomponent d hd, by exact_mod_cast abs_le_of_length_zero hv hd hlength⟩
    simp only [Vec3.toList, List.forall_mem_cons] at hbound
    exact ⟨hbound.1, hbound.2.1, hbound.2.2.1⟩
  · rename_i hlength
    have hbound (d : Float) (hd : d ∈ v.toList) :
        Double.Bounded (d / (v.dot v).sqrt) (2 : Nat) := by
      obtain ⟨r, hpos, hlarge, hle⟩ := exists_atLeast_length hv hd hlength
      exact hlarge.bounded_div hpos (hcomponent d hd) (.natCast (by norm_num)) (by exact_mod_cast hle)
    simp only [Vec3.toList, List.forall_mem_cons] at hbound
    exact ⟨hbound.1, hbound.2.1, hbound.2.2.1⟩

end Length

/-! ## Scalar products -/

theorem Vec3.Bounded.dot
    {v w : Vec3 Float}
    {m n : Nat}
    (hv : v.Bounded m)
    (hw : w.Bounded n)
    (h : 3 * (m * n) ≤ 2 ^ 53) :
    Double.Bounded (v.dot w) (3 * (m * n) : Nat) := by
  have hx := hv.x.mul hw.x (.natCast (n := m * n) (by omega)) (by push_cast; rfl)
  have hy := hv.y.mul hw.y (.natCast (n := m * n) (by omega)) (by push_cast; rfl)
  have hz := hv.z.mul hw.z (.natCast (n := m * n) (by omega)) (by push_cast; rfl)
  have hxy := hx.add hy (.natCast (n := 2 * (m * n)) (by omega)) (by push_cast; linarith)
  exact hxy.add hz (.natCast h) (by push_cast; linarith)

section Directions

/-- How much a surface faces the light. -/
def facing
    (normal : Vec3 Float)
    (scene : Lighting (Vec3 Float)) :
    Float :=
  (normalize normal).dot (normalize scene.position)

/-- How much the reflected light goes toward the viewer. -/
def toward
    (normal : Vec3 Float)
    (scene : Lighting (Vec3 Float)) :
    Float :=
  (((normalize normal).map (2 * ·)).map (· * facing normal scene) - normalize scene.position).dot
    (normalize scene.view)

variable {normal : Vec3 Float} {scene : Lighting (Vec3 Float)}

theorem bounded_facing
    (hnormal : normal.isFinite = true)
    (hposition : scene.position.isFinite = true) :
    Double.Bounded (facing normal scene) (12 : Nat) :=
  (bounded_normalize hnormal).dot (bounded_normalize hposition) (by norm_num)

theorem bounded_two :
    Double.Bounded 2 (2 : Nat) := by
  have hexact : Number.Exact.ofFloat 2 = .finite false (2 ^ 52) (-51) := by decide +kernel
  obtain ⟨hfinite, hvalue⟩ := value_of_exact hexact
  refine ⟨hfinite, ?_⟩
  rw [hvalue]
  norm_num [abs_of_pos]

theorem bounded_toward
    (hnormal : normal.isFinite = true)
    (hposition : scene.position.isFinite = true)
    (hview : scene.view.isFinite = true) :
    Double.Bounded (toward normal scene) (300 : Nat) := by
  have hn := bounded_normalize hnormal
  have hl := bounded_normalize hposition
  have hfacing := bounded_facing hnormal hposition
  have hreflected {n l : Float} (hn : Double.Bounded n (2 : Nat)) (hl : Double.Bounded l (2 : Nat)) :
      Double.Bounded (2 * n * facing normal scene - l) (50 : Nat) := by
    have htwice := bounded_two.mul hn (.natCast (n := 4) (by norm_num)) (by norm_num)
    have hscaled := htwice.mul hfacing (.natCast (n := 48) (by norm_num)) (by norm_num)
    exact hscaled.sub hl (.natCast (by norm_num)) (by norm_num)
  have hdifference : (((normalize normal).map (2 * ·)).map (· * facing normal scene)
      - normalize scene.position).Bounded (50 : Nat) :=
    ⟨hreflected hn.x hl.x, hreflected hn.y hl.y, hreflected hn.z hl.z⟩
  exact hdifference.dot (bounded_normalize hview) (by norm_num)

end Directions

end Diorama
