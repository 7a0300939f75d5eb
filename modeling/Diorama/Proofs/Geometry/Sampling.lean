import Diorama.Geometry.Mesh
import Diorama.Proofs.Fallible
import Mathlib.Tactic.Ring

/-!
# When a surface can be built

A sphere and a torus need a few steps, and an array has to hold their samples and after that the
corners of their triangles.  There are more corners than samples, so the corners decide.

**Main statements.**
* `Sphere.triangles?_eq_ok_iff`, `Torus.triangles?_eq_ok_iff`: when there are triangles, and which.
-/

namespace Diorama

/-- What the check of an array comes to. -/
theorem checkArray_eq_ok_iff
    {bytes : Nat} :
    checkArray bytes = .ok () ↔ bytes ≤ maxArrayBytes := by
  rw [← Nat.not_lt]
  unfold checkArray
  split <;> simp_all

/-- What the check of samples comes to. -/
theorem checkSamples_eq_ok_iff
    {minimum count : Nat}
    {steps : Int} :
    checkSamples minimum steps count = .ok ()
      ↔ minimum ≤ steps ∧ sampleBytes * count ≤ maxArrayBytes := by
  rw [← Int.not_lt, ← checkArray_eq_ok_iff]
  unfold checkSamples
  split <;> simp_all

/-- What is built after both checks, where the samples take no more bytes than the corners. -/
theorem surface_eq_ok_iff
    {β γ : Type}
    {minimum count corners : Nat}
    {steps : Int}
    {samples : β}
    {build : β → γ}
    {result : γ}
    (hbytes : minimum ≤ steps → sampleBytes * count ≤ corners) :
    (do
      let samples ← (do
        checkSamples minimum steps count
        return samples)
      checkArray corners
      return build samples : Except Crash γ) = .ok result
      ↔ minimum ≤ steps ∧ corners ≤ maxArrayBytes ∧ build samples = result := by
  simp only [bind_eq_ok_iff, pure, Except.pure, Except.ok.injEq]
  constructor
  · rintro ⟨_, ⟨⟨⟩, hsamples, rfl⟩, ⟨⟩, hcorners, hresult⟩
    exact ⟨(checkSamples_eq_ok_iff.mp hsamples).1, checkArray_eq_ok_iff.mp hcorners, hresult⟩
  · rintro ⟨hsteps, hcorners, hresult⟩
    have hsamples := checkSamples_eq_ok_iff.mpr ⟨hsteps, Nat.le_trans (hbytes hsteps) hcorners⟩
    exact ⟨_, ⟨(), hsamples, rfl⟩, (), checkArray_eq_ok_iff.mpr hcorners, hresult⟩

/-- A sphere has triangles if it has two steps and an array can hold their corners. -/
theorem Sphere.triangles?_eq_ok_iff
    {center : Vec3 Float}
    {radius : Float}
    {steps : Int}
    {triangles : List (Vec3 Float × Vec3 Float × Vec3 Float)} :
    Sphere.triangles? center radius steps = .ok triangles
      ↔ 2 ≤ steps ∧ cornerBytes * (2 * steps.toNat * (steps.toNat - 1)) ≤ maxArrayBytes
        ∧ faceCorners (samples center radius steps.toNat).toArray (faces steps.toNat)
          = triangles := by
  refine surface_eq_ok_iff fun hsteps => ?_
  obtain ⟨n, hn⟩ : ∃ n, steps.toNat = n + 2 := ⟨steps.toNat - 2, by omega⟩
  have hfour : n + 2 + 1 ≤ 8 * (n + 1) := by omega
  rw [hn, sampleBytes, cornerBytes, show n + 2 - 1 = n + 1 from rfl]
  calc
    24 * ((n + 2) * (n + 2 + 1)) ≤ 24 * ((n + 2) * (8 * (n + 1))) :=
      Nat.mul_le_mul_left _ (Nat.mul_le_mul_left _ hfour)
    _ = 96 * (2 * (n + 2) * (n + 1)) := by ring

/-- A torus has triangles if it has three steps and an array can hold their corners. -/
theorem Torus.triangles?_eq_ok_iff
    {center : Vec3 Float}
    {tube ring : Float}
    {steps : Int}
    {triangles : List (Vec3 Float × Vec3 Float × Vec3 Float)} :
    Torus.triangles? center tube ring steps = .ok triangles
      ↔ 3 ≤ steps ∧ cornerBytes * (2 * steps.toNat * steps.toNat) ≤ maxArrayBytes
        ∧ faceCorners (samples center tube ring steps.toNat).toArray (faces steps.toNat)
          = triangles := by
  refine surface_eq_ok_iff fun _ => ?_
  rw [sampleBytes, cornerBytes, Nat.mul_assoc 2, ← Nat.mul_assoc 96]
  exact Nat.mul_le_mul_right _ (by decide)

end Diorama
