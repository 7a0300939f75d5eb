import Diorama.Canvas.Line
import Diorama.Canvas.Triangle
import Diorama.Geometry.Mesh

/-!
# What drawing can crash with

A computation that draws is built from steps that crash for reasons of their own.  `FailsWithin`
says that all crashes of a step lie within a kind of causes; it is kept by everything that puts
steps together.  With it the causes of a whole drawing are read off its parts.

**Main statements.**
* `failsWithin_bind`, `failsWithin_forM`, `failsWithin_foldlM`: steps put together.
* `Draw.triangles_sparesAngle`, `Draw.lines_sparesAngle`: drawing never crashes with an infinite
  angle, which only a rotation has.
-/

namespace Diorama

namespace Crash

variable {β γ : Type} {P : Crash → Prop}

/-- All crashes of a computation lie within a kind of causes. -/
def Within
    (P : Crash → Prop)
    (x : Except Crash β) :
    Prop :=
  ∀ cause, x = .error cause → P cause

theorem within_ok
    (b : β) :
    Within P (.ok b) := by
  intro cause h
  cases h

theorem within_error
    {cause : Crash}
    (h : P cause) :
    Within P (.error cause : Except Crash β) := by
  intro other hother
  cases hother
  exact h

theorem within_bind
    {x : Except Crash β}
    {next : β → Except Crash γ}
    (hx : Within P x)
    (hnext : ∀ b, Within P (next b)) :
    Within P (x >>= next) := by
  intro cause h
  cases x with
  | ok b => exact hnext b cause h
  | error other =>
      obtain rfl : other = cause := by
        simpa only [bind, Except.bind, Except.error.injEq] using h
      exact hx other rfl

theorem within_mapM
    {f : β → Except Crash γ}
    (hf : ∀ b, Within P (f b))
    (bs : List β) :
    Within P (bs.mapM f) := by
  induction bs with
  | nil => exact within_ok []
  | cons b bs ih =>
      rw [List.mapM_cons]
      exact within_bind (hf b) fun c => within_bind ih fun cs => within_ok (c :: cs)

theorem within_whole
    (hundefined : P .undefinedToInteger)
    (hinfinite : P .infiniteToInteger)
    (x : Except Number.Unroundable Int) :
    Within P (whole x) := by
  cases x with
  | ok n => exact within_ok n
  | error e =>
      cases e with
      | notANumber => exact within_error hundefined
      | infinite => exact within_error hinfinite

end Crash

namespace Draw

variable {α β γ : Type} {P : Crash → Prop}

/-- All crashes of a step of drawing lie within a kind of causes. -/
def FailsWithin
    (P : Crash → Prop)
    (step : Draw α β) :
    Prop :=
  ∀ c cause d, step c = .error cause d → P cause

theorem failsWithin_pure
    (b : β) :
    FailsWithin P (pure b : Draw α β) := by
  intro c cause d h
  cases h

theorem failsWithin_get :
    FailsWithin P (get : Draw α (Canvas α)) := by
  intro c cause d h
  cases h

theorem failsWithin_lift
    {x : Except Crash β}
    (hx : Crash.Within P x) :
    FailsWithin P (lift x : Draw α β) := by
  intro c cause d h
  cases x with
  | ok b => cases h
  | error other =>
      cases h
      exact hx _ rfl

theorem failsWithin_bind
    {step : Draw α β}
    {next : β → Draw α γ}
    (hstep : FailsWithin P step)
    (hnext : ∀ b, FailsWithin P (next b)) :
    FailsWithin P (step >>= next) := by
  intro c cause d h
  simp only [bind, EStateM.bind] at h
  split at h
  · exact hnext _ _ cause d h
  · rename_i other d' hcrash
    cases h
    exact hstep c _ _ hcrash

theorem failsWithin_forM
    {step : β → Draw α PUnit}
    (hstep : ∀ b, FailsWithin P (step b))
    (bs : List β) :
    FailsWithin P (bs.forM step) := by
  induction bs with
  | nil => exact failsWithin_pure PUnit.unit
  | cons b bs ih => exact failsWithin_bind (hstep b) fun _ => ih

theorem failsWithin_foldlM
    {step : γ → β → Draw α γ}
    (hstep : ∀ a b, FailsWithin P (step a b))
    (bs : List β)
    (a : γ) :
    FailsWithin P (bs.foldlM step a) := by
  induction bs generalizing a with
  | nil => exact failsWithin_pure a
  | cons b bs ih =>
      rw [List.foldlM_cons]
      exact failsWithin_bind (hstep a b) fun c => ih c

end Draw

section Angles

/-- A crash that is not an infinite angle. -/
def Crash.SparesAngle
    (cause : Crash) :
    Prop :=
  cause ≠ .infiniteAngle

variable {α : Type} [Scalar α]

theorem Crash.within_whole_sparesAngle
    (x : Except Number.Unroundable Int) :
    Crash.Within Crash.SparesAngle (Crash.whole x) :=
  Crash.within_whole (by simp [SparesAngle]) (by simp [SparesAngle]) x

theorem spanDepth_sparesAngle
    (a b : SpanEnd α)
    (first last column : Int) :
    Crash.Within Crash.SparesAngle (spanDepth a b first last column) := by
  unfold spanDepth
  split
  · split
    · exact Crash.within_ok _
    · exact Crash.within_error (by simp [Crash.SparesAngle])
  · exact Crash.within_ok _

theorem spanFragments_sparesAngle
    (width : Nat)
    (y : Int)
    (a b : SpanEnd α) :
    Crash.Within Crash.SparesAngle (spanFragments width y a b) := by
  refine Crash.within_bind (Crash.within_whole_sparesAngle _) fun first => ?_
  refine Crash.within_bind (Crash.within_whole_sparesAngle _) fun last => ?_
  refine Crash.within_mapM (fun x => ?_) _
  exact Crash.within_bind (spanDepth_sparesAngle _ _ first last x) fun z => Crash.within_ok _

theorem triangleRows_sparesAngle
    (height : Nat)
    (bottom top : Vec3 α) :
    Crash.Within Crash.SparesAngle (triangleRows height bottom top) := by
  refine Crash.within_bind (Crash.within_whole_sparesAngle _) fun first => ?_
  exact Crash.within_bind (Crash.within_whole_sparesAngle _) fun last => Crash.within_ok _

theorem lineFragments_sparesAngle
    (width height : Nat)
    (s : Segment α) :
    Crash.Within Crash.SparesAngle (lineFragments width height s) := by
  unfold lineFragments
  split
  · exact Crash.within_ok []
  · refine Crash.within_bind (Crash.within_whole_sparesAngle _) fun xa => ?_
    refine Crash.within_bind (Crash.within_whole_sparesAngle _) fun ya => ?_
    refine Crash.within_bind (Crash.within_whole_sparesAngle _) fun xb => ?_
    refine Crash.within_bind (Crash.within_whole_sparesAngle _) fun yb => ?_
    dsimp only
    split
    · exact Crash.within_ok _
    · split
      · exact Crash.within_ok _
      · exact Crash.within_error (by simp [Crash.SparesAngle])

theorem power_sparesAngle
    (base exponent : Float) :
    Crash.Within Crash.SparesAngle (power base exponent) := by
  unfold power
  dsimp only
  split
  · exact Crash.within_error (by simp [Crash.SparesAngle])
  · split
    · exact Crash.within_error (by simp [Crash.SparesAngle])
    · exact Crash.within_ok _

/-- Shading has no angle of its own. -/
theorem phong_sparesAngle
    (normal : Vec3 Float)
    (scene : Lighting (Vec3 Float))
    (material : Material (Vec3 Float)) :
    Crash.Within Crash.SparesAngle (phong normal scene material) := by
  unfold phong
  dsimp only
  split
  · refine Crash.within_bind (power_sparesAngle _ _) fun strength => ?_
    exact Crash.within_ok _
  · exact Crash.within_ok _

namespace Draw

theorem plot_sparesAngle
    (x y : Int)
    (z : α)
    (colour : Colour) :
    FailsWithin Crash.SparesAngle (plot x y z colour) := by
  intro c cause d h
  unfold plot at h
  split at h
  · cases h
  · split at h
    · cases h
    · split at h
      · cases h
      · split at h
        · cases h
          simp [Crash.SparesAngle]
        · cases h

theorem plotAll_sparesAngle
    (fragments : List (Fragment α))
    (colour : Colour) :
    FailsWithin Crash.SparesAngle (plotAll fragments colour) := by
  intro c cause d h
  unfold plotAll at h
  split at h
  · cases h
  · exact failsWithin_forM (fun f => plot_sparesAngle f.x f.y f.depth colour) fragments c cause d h

theorem span_sparesAngle
    (y : Int)
    (a b : SpanEnd α)
    (colour : Colour) :
    FailsWithin Crash.SparesAngle (span y a b colour) := by
  refine failsWithin_bind failsWithin_get fun c => ?_
  dsimp only
  split
  · refine failsWithin_bind (failsWithin_lift (spanFragments_sparesAngle _ y a b)) fun fs => ?_
    split
    · exact failsWithin_pure _
    · split
      · intro c cause d h
        cases h
      · intro c cause d h
        cases h
        simp [Crash.SparesAngle]
  · exact failsWithin_pure _

theorem triangle_sparesAngle
    (p q r : Vec3 α)
    (colour : Colour) :
    FailsWithin Crash.SparesAngle (triangle p q r colour) := by
  refine failsWithin_bind failsWithin_get fun c => ?_
  refine failsWithin_bind (failsWithin_lift (triangleRows_sparesAngle _ _ _)) fun rows => ?_
  exact failsWithin_forM (fun y => span_sparesAngle y _ _ colour) rows

/-- Drawing shaded triangles never crashes with an infinite angle. -/
theorem triangles_sparesAngle
    (buffer : TriangleBuffer Float)
    (scene : Lighting (Vec3 Float))
    (material : Material (Vec3 Float)) :
    FailsWithin Crash.SparesAngle (triangles buffer scene material) := by
  refine failsWithin_foldlM (fun drawn t => ?_) _ _
  obtain ⟨p, q, r⟩ := t
  dsimp only
  split
  · refine failsWithin_bind (failsWithin_lift (Crash.within_ok _)) fun toward => ?_
    split
    · exact failsWithin_pure _
    · refine failsWithin_bind ?_ fun colour => ?_
      · exact failsWithin_lift (phong_sparesAngle _ scene material)
      · exact failsWithin_bind (triangle_sparesAngle _ _ _ colour) fun _ => failsWithin_pure _
  · exact failsWithin_pure _

/-- Drawing lines never crashes with an infinite angle. -/
theorem lines_sparesAngle
    (edges : EdgeBuffer α)
    (colour : Colour) :
    FailsWithin Crash.SparesAngle (lines edges colour) := by
  refine failsWithin_foldlM (fun notices edge => ?_) _ _
  obtain ⟨p, q⟩ := edge
  dsimp only
  split
  · refine failsWithin_bind ?_ fun _ => failsWithin_pure _
    refine failsWithin_bind failsWithin_get fun c => ?_
    refine failsWithin_bind (failsWithin_lift (lineFragments_sparesAngle _ _ _)) fun fs => ?_
    exact plotAll_sparesAngle fs colour
  · exact failsWithin_pure _

end Draw

theorem checkArray_sparesAngle
    (bytes : Nat) :
    Crash.Within Crash.SparesAngle (checkArray bytes) := by
  unfold checkArray
  split
  · exact Crash.within_error (by simp [Crash.SparesAngle])
  · exact Crash.within_ok _

theorem checkSamples_sparesAngle
    (minimum : Nat)
    (steps : Int)
    (count : Nat) :
    Crash.Within Crash.SparesAngle (checkSamples minimum steps count) := by
  unfold checkSamples
  split
  · exact Crash.within_error (by simp [Crash.SparesAngle])
  · exact checkArray_sparesAngle _

/-- The samples of a sphere have no angle that is not finite. -/
theorem Sphere.triangles?_sparesAngle
    (center : Vec3 Float)
    (radius : Float)
    (steps : Int) :
    Crash.Within Crash.SparesAngle (Sphere.triangles? center radius steps) := by
  refine Crash.within_bind ?_ fun samples => ?_
  · exact Crash.within_bind (checkSamples_sparesAngle _ _ _) fun _ => Crash.within_ok _
  · exact Crash.within_bind (checkArray_sparesAngle _) fun _ => Crash.within_ok _

/-- The samples of a torus have no angle that is not finite. -/
theorem Torus.triangles?_sparesAngle
    (center : Vec3 Float)
    (tube ring : Float)
    (steps : Int) :
    Crash.Within Crash.SparesAngle (Torus.triangles? center tube ring steps) := by
  refine Crash.within_bind ?_ fun samples => ?_
  · exact Crash.within_bind (checkSamples_sparesAngle _ _ _) fun _ => Crash.within_ok _
  · exact Crash.within_bind (checkArray_sparesAngle _) fun _ => Crash.within_ok _

end Angles
end Diorama
