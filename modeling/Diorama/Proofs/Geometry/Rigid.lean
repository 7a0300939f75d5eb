import Mathlib.LinearAlgebra.Matrix.Adjugate
import Mathlib.Tactic.LinearCombination
import Diorama.Proofs.Geometry.ExactRing
import Diorama.Shading.Phong

/-!
# Affine and rigid transforms

A transform is affine if its last column is that of the identity: it takes points to points.  It is
rigid if moreover the rows of its upper left block have length one, are perpendicular to each other
and form a right-handed frame.  In exact arithmetic products of affine transforms are affine and
products of rigid ones are rigid, so that it suffices to look at the elementary transforms, and a
stack of transforms keeps what every step keeps.

**Main statements.**
* `IsAffine.apply_w`: an affine transform keeps the fourth coordinate of a point.
* `IsRigid.distance` and `IsRigid.orientation`: a rigid one keeps distances and the side from which
  a triangle is seen counter-clockwise.
* `affine_of_elementary?` and `rigid_of_elementary?`: the elementary transforms are affine, and
  those that do not scale are rigid.
* `TransformStack.forall_step`: a stack keeps what products keep.
-/

namespace Diorama

open scoped Matrix

section

variable {α : Type} [Scalar α] [RingScalar α]

attribute [local instance] RingScalar.commRing

theorem Scalar.zero_eq :
    (Scalar.zero : α) = 0 :=
  rfl

theorem Scalar.one_eq :
    (Scalar.one : α) = 1 :=
  rfl

namespace Vec3

omit [RingScalar α] in
theorem sub_eq
    (u v : Vec3 α) :
    u - v = ⟨u.x - v.x, u.y - v.y, u.z - v.z⟩ :=
  rfl

/-- Vectors as the rows of a matrix. -/
def frame
    (u v w : Vec3 α) :
    Matrix (Fin 3) (Fin 3) α :=
  !![u.x, u.y, u.z; v.x, v.y, v.z; w.x, w.y, w.z]

/-- The scalar products of vectors are the entries of a product of matrices. -/
theorem dot_eq
    (u v : Vec3 α) :
    u.dot v = (frame u v v * (frame u v v)ᵀ) 0 1 := by
  simp [frame, dot, Matrix.mul_apply, Fin.sum_univ_three]

/-- A vector product multiplied by a third vector is a determinant. -/
theorem cross_dot
    (u v w : Vec3 α) :
    (u.cross v).dot w = (frame u v w).det := by
  simp only [frame, Matrix.det_fin_three, dot, cross, Matrix.of_apply, Matrix.cons_val]
  ring

end Vec3

namespace Transform

/-- The upper left three by three block. -/
def block
    (m : Transform α) :
    Matrix (Fin 3) (Fin 3) α :=
  !![m.row0.x, m.row0.y, m.row0.z;
    m.row1.x, m.row1.y, m.row1.z;
    m.row2.x, m.row2.y, m.row2.z]

/-- The last column is that of the identity. -/
structure IsAffine
    (m : Transform α) : Prop where
  column : m.transpose.row3 = ⟨Scalar.zero, Scalar.zero, Scalar.zero, Scalar.one⟩

/-- The block is a rotation. -/
structure IsRigid
    (m : Transform α) : Prop extends IsAffine m where
  orthogonal : m.block * m.blockᵀ = 1
  proper : m.block.det = 1

/-- The image of a direction, on which moving has no effect. -/
def direction
    (m : Transform α)
    (v : Vec3 α) :
    Vec3 α :=
  (m.apply ⟨v.x, v.y, v.z, Scalar.zero⟩).xyz

theorem isAffine_iff
    {m : Transform α} :
    m.IsAffine ↔ m.row0.w = 0 ∧ m.row1.w = 0 ∧ m.row2.w = 0 ∧ m.row3.w = 1 := by
  constructor
  · rintro ⟨h⟩
    simpa [transpose, Scalar.zero_eq, Scalar.one_eq] using h
  · intro h
    exact ⟨by simpa [transpose, Scalar.zero_eq, Scalar.one_eq] using h⟩

theorem direction_eq
    (m : Transform α)
    (v : Vec3 α) :
    m.direction v =
      ⟨v.x * m.row0.x + v.y * m.row1.x + v.z * m.row2.x,
        v.x * m.row0.y + v.y * m.row1.y + v.z * m.row2.y,
        v.x * m.row0.z + v.y * m.row1.z + v.z * m.row2.z⟩ := by
  simp only [direction, apply, transpose, Point.xyz, Point.dot, Scalar.zero_eq, zero_mul, add_zero]

/-- Directions are multiplied by the block. -/
theorem frame_direction
    (m : Transform α)
    (u v w : Vec3 α) :
    Vec3.frame (m.direction u) (m.direction v) (m.direction w) = Vec3.frame u v w * m.block := by
  ext i j
  fin_cases i <;> fin_cases j <;>
    simp [Vec3.frame, direction_eq, block, Matrix.mul_apply, Fin.sum_univ_three]

/-- The difference of two points is a direction, and its image is that of the difference. -/
theorem sub_apply
    (m : Transform α)
    {p q : Point α}
    (hp : p.w = Scalar.one)
    (hq : q.w = Scalar.one) :
    (m.apply p).xyz - (m.apply q).xyz = m.direction (p.xyz - q.xyz) := by
  simp only [Vec3.sub_eq, direction_eq, apply, transpose, Point.xyz, Point.dot, hp, hq,
    Vec3.mk.injEq]
  refine ⟨?_, ?_, ?_⟩ <;> ring

namespace IsAffine

variable {first second m : Transform α}

/-- An affine transform keeps the fourth coordinate. -/
theorem apply_w
    (h : m.IsAffine)
    (p : Point α) :
    (m.apply p).w = p.w := by
  obtain ⟨h0, h1, h2, h3⟩ := isAffine_iff.mp h
  simp only [apply, transpose, Point.dot, h0, h1, h2, h3]
  ring

theorem compose
    (hfirst : first.IsAffine)
    (hsecond : second.IsAffine) :
    (first.compose second).IsAffine := by
  rw [isAffine_iff] at hfirst ⊢
  simpa only [Transform.compose, hsecond.apply_w] using hfirst

/-- Rows without a fourth coordinate are not moved, so blocks are multiplied. -/
theorem block_compose
    (h : first.IsAffine) :
    (first.compose second).block = first.block * second.block := by
  obtain ⟨h0, h1, h2, -⟩ := isAffine_iff.mp h
  ext i j
  fin_cases i <;> fin_cases j <;>
    simp [block, Transform.compose, apply, transpose, Point.dot, Matrix.mul_apply,
      Fin.sum_univ_three, h0, h1, h2]

end IsAffine

section Elementary

omit [RingScalar α] in
theorem isAffine_identity :
    (identity : Transform α).IsAffine :=
  ⟨rfl⟩

omit [RingScalar α] in
theorem isAffine_translate
    (offset : Vec3 α) :
    (translate offset).IsAffine :=
  ⟨rfl⟩

omit [RingScalar α] in
theorem isAffine_scale
    (factors : Vec3 α) :
    (scale factors).IsAffine :=
  ⟨rfl⟩

omit [RingScalar α] in
theorem isAffine_turn
    (axis : Axis)
    (c s : α) :
    (axis.turn c s).IsAffine := by
  cases axis <;> exact ⟨rfl⟩

theorem block_identity :
    (identity : Transform α).block = 1 := by
  ext i j
  fin_cases i <;> fin_cases j <;> rfl

theorem isRigid_identity :
    (identity : Transform α).IsRigid where
  toIsAffine := isAffine_identity
  orthogonal := by rw [block_identity, Matrix.transpose_one, mul_one]
  proper := by rw [block_identity, Matrix.det_one]

/-- Moving does not turn. -/
theorem isRigid_translate
    (offset : Vec3 α) :
    (translate offset).IsRigid :=
  { isRigid_identity with toIsAffine := isAffine_translate offset }

/-- Nine entries for each axis: their rows are orthonormal and right-handed. -/
theorem isRigid_turn
    (axis : Axis)
    {c s : α}
    (h : c * c + s * s = 1) :
    (axis.turn c s).IsRigid where
  toIsAffine := isAffine_turn axis c s
  orthogonal := by
    ext i j
    cases axis <;> fin_cases i <;> fin_cases j <;>
      simp [Axis.turn, turnX, turnY, turnZ, block, Matrix.mul_apply, Fin.sum_univ_three,
        Scalar.zero_eq, Scalar.one_eq, mul_comm s c] <;>
      linear_combination h
  proper := by
    cases axis <;>
      simp [Axis.turn, turnX, turnY, turnZ, block, Matrix.det_fin_three,
        Scalar.zero_eq, Scalar.one_eq] <;>
      linear_combination h

end Elementary

namespace IsRigid

variable {first second m : Transform α}

theorem compose
    (hfirst : first.IsRigid)
    (hsecond : second.IsRigid) :
    (first.compose second).IsRigid where
  toIsAffine := hfirst.toIsAffine.compose hsecond.toIsAffine
  orthogonal := by
    have hblock : (first.compose second).block = first.block * second.block :=
      hfirst.toIsAffine.block_compose
    calc
      _ = first.block * (second.block * second.blockᵀ) * first.blockᵀ := by
        rw [hblock, Matrix.transpose_mul, Matrix.mul_assoc, Matrix.mul_assoc, Matrix.mul_assoc]
      _ = 1 := by rw [hsecond.orthogonal, Matrix.mul_one, hfirst.orthogonal]
  proper := by
    rw [hfirst.toIsAffine.block_compose, Matrix.det_mul, hfirst.proper, hsecond.proper, mul_one]

/-- A rigid transform keeps lengths and angles. -/
theorem dot_direction
    (h : m.IsRigid)
    (u v : Vec3 α) :
    (m.direction u).dot (m.direction v) = u.dot v := by
  have hframe : Vec3.frame u v v * m.block * (Vec3.frame u v v * m.block)ᵀ
      = Vec3.frame u v v * (Vec3.frame u v v)ᵀ := by
    rw [Matrix.transpose_mul, Matrix.mul_assoc, ← Matrix.mul_assoc m.block, h.orthogonal,
      Matrix.one_mul]
  rw [Vec3.dot_eq, Vec3.dot_eq, frame_direction, hframe]

/-- It keeps the volume between three directions, and with it their sense of rotation. -/
theorem cross_dot_direction
    (h : m.IsRigid)
    (u v w : Vec3 α) :
    ((m.direction u).cross (m.direction v)).dot (m.direction w) = (u.cross v).dot w := by
  rw [Vec3.cross_dot, Vec3.cross_dot, frame_direction, Matrix.det_mul, h.proper, mul_one]

end IsRigid

/-- A rigid transform keeps the distance of two points. -/
theorem IsRigid.distance
    {m : Transform α}
    (h : m.IsRigid)
    {p q : Point α}
    (hp : p.w = Scalar.one)
    (hq : q.w = Scalar.one) :
    let offset := p.xyz - q.xyz
    let image := (m.apply p).xyz - (m.apply q).xyz
    image.dot image = offset.dot offset := by
  intro offset image
  rw [show image = m.direction offset from m.sub_apply hp hq, h.dot_direction]

/-- Seen from the image of a place, the image of a triangle is turned as the triangle is. -/
theorem IsRigid.orientation
    {m : Transform α}
    (h : m.IsRigid)
    {p q r place : Point α}
    (hp : p.w = Scalar.one)
    (hq : q.w = Scalar.one)
    (hr : r.w = Scalar.one)
    (hplace : place.w = Scalar.one) :
    (surfaceNormal (m.apply p).xyz (m.apply q).xyz (m.apply r).xyz).dot
        ((m.apply place).xyz - (m.apply p).xyz)
      = (surfaceNormal p.xyz q.xyz r.xyz).dot (place.xyz - p.xyz) := by
  simp only [surfaceNormal]
  rw [m.sub_apply hq hp, m.sub_apply hr hp, m.sub_apply hplace hp, h.cross_dot_direction]

end Transform

/-- The elementary transform that a step composes. -/
def ScopeStep.elementary? : ScopeStep α → Option (Transform α)
  | .enter | .leave => none
  | .move offset => some (.translate offset)
  | .scale factors => some (.scale factors)
  | .turn axis cosine sine => some (axis.turn cosine sine)

namespace ScopeStep

variable {first : Transform α} {step : ScopeStep α}

omit [RingScalar α] in
/-- Every step composes an affine transform, if any. -/
theorem affine_of_elementary?
    (h : step.elementary? = some first) :
    first.IsAffine := by
  cases step with
  | enter | leave => cases h
  | move offset =>
      cases h
      exact Transform.isAffine_translate offset
  | scale factors =>
      cases h
      exact Transform.isAffine_scale factors
  | turn axis c s =>
      cases h
      exact Transform.isAffine_turn axis c s

/-- Every step but a scaling one composes a rigid transform, if any. -/
theorem rigid_of_elementary?
    (hscale : ∀ factors, step ≠ .scale factors)
    (hturn : ∀ axis c s, step = .turn axis c s → c * c + s * s = Scalar.one)
    (h : step.elementary? = some first) :
    first.IsRigid := by
  cases step with
  | enter | leave => cases h
  | move offset =>
      cases h
      exact Transform.isRigid_translate offset
  | scale factors => exact absurd rfl (hscale factors)
  | turn axis c s =>
      cases h
      exact Transform.isRigid_turn axis (hturn axis c s rfl)

end ScopeStep

omit [RingScalar α] in
/-- A stack keeps what products keep, if the elementary transform of a step has it. -/
theorem TransformStack.forall_step
    {P : Transform α → Prop}
    {s t : TransformStack α}
    {step : ScopeStep α}
    (hcompose : ∀ {first second}, P first → P second → P (first.compose second))
    (hstep : ∀ first, step.elementary? = some first → P first)
    (h : ∀ m ∈ s.toList, P m)
    (htaken : s.step? step = some t) :
    ∀ m ∈ t.toList, P m := by
  have htop : P s.top := h s.top List.mem_cons_self
  have hcomposed : ∀ first, step.elementary? = some first → ∀ m ∈ (s.compose first).toList, P m := by
    intro first hfirst m hm
    rcases List.mem_cons.mp hm with rfl | henclosing
    · exact hcompose (hstep first hfirst) htop
    · exact h m (List.mem_cons_of_mem _ henclosing)
  cases step with
  | enter =>
      cases htaken
      rw [toList_push]
      exact List.forall_mem_cons.mpr ⟨htop, h⟩
  | leave =>
      have henclosing : s.enclosing = t.toList := enclosing_of_pop? htaken
      exact fun m hm => h m (List.mem_cons_of_mem _ (henclosing ▸ hm))
  | move offset | scale factors | turn axis c s =>
      cases htaken
      exact hcomposed _ rfl

end
end Diorama
