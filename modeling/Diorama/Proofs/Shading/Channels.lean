import Diorama.Proofs.Config.RoundTrip
import Diorama.Proofs.Shading.Lengths

/-!
# The range of shading

The channels of a shaded surface are cut off at 0 and 255, but what is undefined is not cut off: it
becomes the smallest 64-bit integer.  Directions cannot lead to that.  Colours can, since the
products of a colour with the coefficients of a material may be infinite: an infinite product is
undefined where it is multiplied by zero, on the side that is turned away from the light, and
infinite parts of different signs have an undefined sum.

**Main statements.**
* `fitsByte_channelOf_iff`: a channel is in range unless its intensity is undefined.
* `isNaN_intensity_iff`: when an intensity is defined.
* `phong_in_range`: shading stays in range exactly where all its intensities are defined, as they
  are for colours and coefficients of a moderate size.
-/

namespace Diorama

open Double
open Number (Exact)

/-! ## Channels -/

/-- Whatever is a number is cut off at 0 and 255. -/
theorem fitsByte_channelOf_iff
    (x : Float) :
    Colour.fitsByte (channelOf x) = true ↔ x.isNaN = false := by
  change _ ↔ x.toModel.unpack.isNaN = false
  simp only [Colour.fitsByte, Bool.and_eq_true, decide_eq_true_iff]
  unfold channelOf Exact.ofFloat
  cases x.toModel.unpack with
  | notANumber =>
      refine iff_of_false (fun h => ?_) (by decide)
      simp only [Exact.nearest, Exact.toInt, halfWord] at h
      omega
  | infinity s =>
      refine iff_of_true ?_ rfl
      simp only [Exact.nearest, Exact.toInt]
      split <;> omega
  | _ =>
      refine iff_of_true ?_ rfl
      simp only [Exact.nearest, Exact.toInt]
      omega

/-- The intensity of a channel from how much the surface faces the light, how strong the reflection
toward the viewer is, and the light of the channel that the material reflects in each way. -/
def intensity
    (facing strength ambient diffuse specular : Float) :
    Float :=
  if facing > 0 then ambient + diffuse * facing + specular * strength
  else ambient + diffuse * 0 + 0

/-- No part of an intensity is undefined, and no two of its parts are opposite infinities. -/
def IsShaded
    (facing strength ambient diffuse specular : Float) :
    Prop :=
  if facing > 0 then
    strength.isFinite = true
      ∧ ¬(specular.isInf = true ∧ (strength == 0) = true)
      ∧ ¬Opposite ambient (diffuse * facing)
      ∧ ¬Opposite (ambient + diffuse * facing) (specular * strength)
  else diffuse.isFinite = true

section Intensity

variable {facing strength ambient diffuse specular : Float}

theorem isFinite_iff_of_isNaN_eq_false
    {x : Float}
    (hx : x.isNaN = false) :
    x.isFinite = true ↔ x.isInf = false := by
  constructor
  · exact isInf_of_isFinite
  · intro hinf
    exact (isFinite_or_isInf hx).resolve_right (by simp [hinf])

/-- An intensity is defined unless one of its parts or of their sums is not. -/
theorem isNaN_intensity_iff
    (hfacing : facing.isFinite = true)
    (hstrength : facing > 0 → strength.isInf = false)
    (hambient : ambient.isNaN = false)
    (hdiffuse : diffuse.isNaN = false)
    (hspecular : specular.isNaN = false) :
    (intensity facing strength ambient diffuse specular).isNaN = false
      ↔ IsShaded facing strength ambient diffuse specular := by
  rw [← Bool.not_eq_true]
  unfold intensity IsShaded
  have hfacing' := isInf_of_isFinite hfacing
  split
  · rename_i hpos
    have hinf := hstrength hpos
    have hzero : ¬(facing == 0) = true := by
      rw [beq_zero_iff_value hfacing]
      exact ((pos_iff_value hfacing).mp hpos).ne'
    have hlit : (diffuse * facing).isNaN = false := by
      rw [← Bool.not_eq_true, isNaN_mul_iff]
      simp only [hdiffuse, isNaN_of_isFinite hfacing, hfacing', hzero, Bool.false_eq_true, and_false,
        or_false, not_false_iff]
    have hfinite : strength.isFinite = true ↔ strength.isNaN = false :=
      ⟨isNaN_of_isFinite, fun hnumber => (isFinite_iff_of_isNaN_eq_false hnumber).mpr hinf⟩
    rw [isNaN_add_iff, isNaN_add_iff, isNaN_mul_iff (x := specular), hfinite]
    simp only [hambient, hlit, hspecular, hinf, Bool.false_eq_true, false_or, and_false, or_false,
      not_or, Bool.not_eq_true]
    tauto
  · have hnumber : (0 : Float).isNaN = false := rfl
    have hsum (x : Float) : (x + 0).isNaN = x.isNaN := by
      have hnot : ¬Opposite x 0 := fun h => absurd h.right (by decide)
      rw [Bool.eq_iff_iff, isNaN_add_iff]
      simp only [hnumber, hnot, Bool.false_eq_true, or_false]
    rw [hsum, isNaN_add_iff]
    constructor
    · intro h
      refine (isFinite_iff_of_isNaN_eq_false hdiffuse).mpr (Bool.eq_false_iff.mpr fun hinf => h ?_)
      exact .inr (.inl (isNaN_mul_iff.mpr (.inr (.inr (.inl ⟨hinf, rfl⟩)))))
    · intro hfinite
      have hproduct := rounds_mul hfinite value_zero.1
      rw [value_zero.2, mul_zero] at hproduct
      have hbounded := hproduct.bounded representable_zero largest_nonneg abs_zero.le
      rintro (h | h | h)
      · rw [hambient] at h
        cases h
      · rw [isNaN_of_isFinite hbounded.finite] at h
        cases h
      · have hinf := h.right
        rw [isInf_of_isFinite hbounded.finite] at hinf
        cases hinf

/-- Where the parts of an intensity are finite, it is defined. -/
theorem isShaded_of_isFinite
    (hstrength : facing > 0 → strength.isFinite = true)
    (hdiffuse : diffuse.isFinite = true)
    (hspecular : specular.isFinite = true)
    (hmatte : (ambient + diffuse * facing).isFinite = true) :
    IsShaded facing strength ambient diffuse specular := by
  unfold IsShaded
  split
  · rename_i hpos
    refine ⟨hstrength hpos, fun h => ?_, fun h => ?_, fun h => ?_⟩
    · rw [isInf_of_isFinite hspecular] at h
      cases h.1
    · have hinf := h.left
      rw [isInf_of_isFinite (isFinite_of_add hmatte).1] at hinf
      cases hinf
    · have hinf := h.left
      rw [isInf_of_isFinite hmatte] at hinf
      cases hinf
  · exact hdiffuse

end Intensity

/-! ## Surfaces -/

/-- A scene of finite directions and colours, with a finite and positive exponent. -/
structure Lighting.IsFinite
    (scene : Lighting (Vec3 Float)) : Prop where
  view : scene.view.isFinite = true
  ambient : scene.ambient.isFinite = true
  position : scene.position.isFinite = true
  color : scene.color.isFinite = true
  exponent : scene.exponent.isFinite = true
  positive : 0 < scene.exponent

/-- A material of finite coefficients. -/
structure Material.IsFinite
    (material : Material (Vec3 Float)) : Prop where
  ambient : material.ambient.isFinite = true
  diffuse : material.diffuse.isFinite = true
  specular : material.specular.isFinite = true

/-- Colours and coefficients that have products far below the largest double. -/
structure Moderate
    (scene : Lighting (Vec3 Float))
    (material : Material (Vec3 Float)) : Prop where
  light : scene.color.Bounded (2 ^ (500 : Int))
  surroundings : scene.ambient.Bounded (2 ^ (500 : Int))
  ambient : material.ambient.Bounded (2 ^ (500 : Int))
  diffuse : material.diffuse.Bounded (2 ^ (500 : Int))
  specular : material.specular.Bounded (2 ^ (500 : Int))

/-- How strong the reflection toward the viewer is. -/
def strength
    (normal : Vec3 Float)
    (scene : Lighting (Vec3 Float)) :
    Float :=
  (if toward normal scene > 0 then toward normal scene else 0).pow scene.exponent

/-- One channel of a surface is shaded with something defined. -/
def ChannelShaded
    (channel : Vec3 Float → Float)
    (normal : Vec3 Float)
    (scene : Lighting (Vec3 Float))
    (material : Material (Vec3 Float)) :
    Prop :=
  IsShaded (facing normal scene) (strength normal scene)
    (channel scene.ambient * channel material.ambient)
    (channel scene.color * channel material.diffuse)
    (channel scene.color * channel material.specular)

/-- The colour of the intensities of a surface. -/
def shade
    (normal : Vec3 Float)
    (scene : Lighting (Vec3 Float))
    (material : Material (Vec3 Float)) :
    Colour :=
  let channel (select : Vec3 Float → Float) : Int :=
    channelOf (intensity (facing normal scene) (strength normal scene)
      (select scene.ambient * select material.ambient)
      (select scene.color * select material.diffuse)
      (select scene.color * select material.specular))
  ⟨channel Vec3.x, channel Vec3.y, channel Vec3.z⟩

section Surfaces

variable {normal : Vec3 Float} {scene : Lighting (Vec3 Float)} {material : Material (Vec3 Float)}

/-- With a positive exponent only a power that is too large fails. -/
theorem power_eq
    {base exponent : Float}
    (hbase : base.isFinite = true)
    (hexponent : exponent.isFinite = true)
    (hpositive : 0 < exponent) :
    power base exponent
      = if (base.pow exponent).isInf then .error .powerTooLarge else .ok (base.pow exponent) := by
  have hnegative : ¬exponent < 0 := by
    intro hneg
    have hless := (less_iff_value hexponent value_zero.1).mp (decide_eq_true hneg)
    rw [value_zero.2] at hless
    exact hless.asymm ((pos_iff_value hexponent).mp hpositive)
  simp [power, hnegative, hbase, hexponent]

/-- Shading fails where the power of the reflection is too large, and nowhere else. -/
theorem phong_eq
    (hnormal : normal.isFinite = true)
    (hscene : scene.IsFinite) :
    phong normal scene material
      = if facing normal scene > 0 ∧ (strength normal scene).isInf = true then .error .powerTooLarge
        else .ok (shade normal scene material) := by
  have htoward := (bounded_toward hnormal hscene.position hscene.view).finite
  have hbase : (if toward normal scene > 0 then toward normal scene else 0).isFinite = true := by
    split
    · exact htoward
    · exact value_zero.1
  have hpower : power (if toward normal scene > 0 then toward normal scene else 0) scene.exponent
      = if (strength normal scene).isInf then .error .powerTooLarge else .ok (strength normal scene) :=
    power_eq hbase hscene.exponent hscene.positive
  have hunfold : phong normal scene material = (do
      let specular ←
        if facing normal scene > 0 then do
          let strength ← power (if toward normal scene > 0 then toward normal scene else 0)
            scene.exponent
          pure ((scene.color.scaleBy material.specular).map (· * strength))
        else pure (Vec3.replicate 0)
      let lit : Float := if facing normal scene > 0 then facing normal scene else 0
      let total := scene.ambient.scaleBy material.ambient
        + (scene.color.scaleBy material.diffuse).map (· * lit) + specular
      return ⟨channelOf total.x, channelOf total.y, channelOf total.z⟩) := rfl
  rw [hunfold, hpower]
  unfold shade intensity
  by_cases hfacing : facing normal scene > 0
  · simp only [hfacing, if_true, true_and]
    split <;> rfl
  · simp only [hfacing, if_false, false_and]
    rfl

/-- A channel is in range where its intensity is defined. -/
theorem fitsByte_channel_iff
    {facing strength a b c d e : Float}
    (hfacing : facing.isFinite = true)
    (hstrength : facing > 0 → strength.isInf = false)
    (ha : a.isFinite = true)
    (hb : b.isFinite = true)
    (hc : c.isFinite = true)
    (hd : d.isFinite = true)
    (he : e.isFinite = true) :
    Colour.fitsByte (channelOf (intensity facing strength (a * b) (c * d) (c * e))) = true
      ↔ IsShaded facing strength (a * b) (c * d) (c * e) :=
  (fitsByte_channelOf_iff _).trans
    (isNaN_intensity_iff hfacing hstrength (rounds_mul ha hb).isNaN_eq_false
      (rounds_mul hc hd).isNaN_eq_false (rounds_mul hc he).isNaN_eq_false)

theorem fitsBytes_shade_iff
    (hnormal : normal.isFinite = true)
    (hscene : scene.IsFinite)
    (hmaterial : material.IsFinite)
    (hstrength : facing normal scene > 0 → (strength normal scene).isInf = false) :
    (shade normal scene material).FitsBytes
      ↔ ChannelShaded Vec3.x normal scene material
        ∧ ChannelShaded Vec3.y normal scene material
        ∧ ChannelShaded Vec3.z normal scene material := by
  have hfacing := (bounded_facing hnormal hscene.position).finite
  have hambient := Vec3.isFinite_iff.mp hscene.ambient
  have hcolor := Vec3.isFinite_iff.mp hscene.color
  have ha := Vec3.isFinite_iff.mp hmaterial.ambient
  have hd := Vec3.isFinite_iff.mp hmaterial.diffuse
  have hs := Vec3.isFinite_iff.mp hmaterial.specular
  have hchannel (select : Vec3 Float → Float) (hselect : ∀ v : Vec3 Float, select v ∈ v.toList) :=
    fitsByte_channel_iff hfacing hstrength (hambient _ (hselect _)) (ha _ (hselect _))
      (hcolor _ (hselect _)) (hd _ (hselect _)) (hs _ (hselect _))
  have hred := hchannel Vec3.x fun v => by simp [Vec3.toList]
  have hgreen := hchannel Vec3.y fun v => by simp [Vec3.toList]
  have hblue := hchannel Vec3.z fun v => by simp [Vec3.toList]
  constructor
  · intro h
    exact ⟨hred.mp h.red, hgreen.mp h.green, hblue.mp h.blue⟩
  · rintro ⟨hx, hy, hz⟩
    exact ⟨hred.mpr hx, hgreen.mpr hy, hblue.mpr hz⟩

/-- Products of moderate numbers are finite. -/
theorem Moderate.bounded_mul
    {x y : Float}
    (hx : Double.Bounded x (2 ^ (500 : Int)))
    (hy : Double.Bounded y (2 ^ (500 : Int))) :
    Double.Bounded (x * y) (2 ^ (1000 : Int)) :=
  hx.mul hy (.zpow (by decide) (by decide)) (by rw [← zpow_add₀ two_ne_zero]; rfl)

/-- Moderate colours and coefficients leave no part of an intensity infinite. -/
theorem channelShaded_of_moderate
    {a b c d e : Float}
    {facing strength : Float}
    (hfacing : Double.Bounded facing (12 : Nat))
    (hstrength : facing > 0 → strength.isFinite = true)
    (ha : Double.Bounded a (2 ^ (500 : Int)))
    (hb : Double.Bounded b (2 ^ (500 : Int)))
    (hc : Double.Bounded c (2 ^ (500 : Int)))
    (hd : Double.Bounded d (2 ^ (500 : Int)))
    (he : Double.Bounded e (2 ^ (500 : Int))) :
    IsShaded facing strength (a * b) (c * d) (c * e) := by
  have hdiffuse := Moderate.bounded_mul hc hd
  have hlit : Double.Bounded (c * d * facing) (2 ^ (1004 : Int)) := by
    refine hdiffuse.mul hfacing (.zpow (by decide) (by decide)) ?_
    rw [show (1004 : Int) = 1000 + 4 from rfl, zpow_add₀ two_ne_zero]
    exact mul_le_mul_of_nonneg_left (by norm_num) (two_zpow_pos _).le
  have hmatte : Double.Bounded (a * b + c * d * facing) (2 ^ (1005 : Int)) := by
    refine (Moderate.bounded_mul ha hb).add hlit (.zpow (by decide) (by decide)) ?_
    rw [show (1005 : Int) = 1004 + 1 from rfl, zpow_add_one₀ two_ne_zero, mul_two]
    exact add_le_add (zpow_le_zpow_right₀ one_le_two (by decide)) le_rfl
  exact isShaded_of_isFinite hstrength hdiffuse.finite (Moderate.bounded_mul hc he).finite
    hmatte.finite

end Surfaces

/-- The channels of a shaded surface are in range exactly where their intensities are defined, which
they are for moderate colours and coefficients with a finite power of the reflection. -/
theorem phong_in_range
    (normal : Vec3 Float)
    (scene : Lighting (Vec3 Float))
    (material : Material (Vec3 Float))
    (hnormal : normal.isFinite = true)
    (hscene : scene.IsFinite)
    (hmaterial : material.IsFinite) :
    ((∃ c, phong normal scene material = .ok c ∧ c.FitsBytes)
        ↔ ChannelShaded Vec3.x normal scene material
          ∧ ChannelShaded Vec3.y normal scene material
          ∧ ChannelShaded Vec3.z normal scene material)
      ∧ (Moderate scene material
        → (facing normal scene > 0 → (strength normal scene).isFinite = true)
        → ∃ c, phong normal scene material = .ok c ∧ c.FitsBytes) := by
  have hfacing := bounded_facing hnormal hscene.position
  have hexact : (∃ c, phong normal scene material = .ok c ∧ c.FitsBytes)
      ↔ ChannelShaded Vec3.x normal scene material
        ∧ ChannelShaded Vec3.y normal scene material
        ∧ ChannelShaded Vec3.z normal scene material := by
    rw [phong_eq hnormal hscene]
    by_cases hlarge : facing normal scene > 0 ∧ (strength normal scene).isInf = true
    · -- an infinite power leaves no channel defined
      rw [if_pos hlarge]
      constructor
      · rintro ⟨c, hc, -⟩
        cases hc
      · rintro ⟨hred, -⟩
        unfold ChannelShaded IsShaded at hred
        rw [if_pos hlarge.1] at hred
        rw [isInf_of_isFinite hred.1] at hlarge
        cases hlarge.2
    · rw [if_neg hlarge]
      have hstrength : facing normal scene > 0 → (strength normal scene).isInf = false := by
        intro hpos
        exact Bool.eq_false_iff.mpr fun hinf => hlarge ⟨hpos, hinf⟩
      rw [← fitsBytes_shade_iff hnormal hscene hmaterial hstrength]
      constructor
      · rintro ⟨c, hc, hfits⟩
        cases hc
        exact hfits
      · intro hfits
        exact ⟨_, rfl, hfits⟩
  refine ⟨hexact, fun hmoderate hstrength => hexact.mpr ⟨?_, ?_, ?_⟩⟩
  · exact channelShaded_of_moderate hfacing hstrength hmoderate.surroundings.x hmoderate.ambient.x
      hmoderate.light.x hmoderate.diffuse.x hmoderate.specular.x
  · exact channelShaded_of_moderate hfacing hstrength hmoderate.surroundings.y hmoderate.ambient.y
      hmoderate.light.y hmoderate.diffuse.y hmoderate.specular.y
  · exact channelShaded_of_moderate hfacing hstrength hmoderate.surroundings.z hmoderate.ambient.z
      hmoderate.light.z hmoderate.diffuse.z hmoderate.specular.z

/-- A surface that is turned away from the standard light is in range, for either reason. -/
theorem phong_in_range_turned_away :
    (∃ c, phong ⟨0, 0, -1⟩ Lighting.standard (Material.plain []) = .ok c ∧ c.FitsBytes)
      ∧ Moderate Lighting.standard (Material.plain []) := by
  have hscene : Lighting.standard.IsFinite := by
    constructor <;> decide +kernel
  have hmaterial : (Material.plain []).IsFinite := by
    constructor <;> decide +kernel
  have hfacing : ¬facing ⟨0, 0, -1⟩ Lighting.standard > 0 := by decide +kernel
  have hmoderate : Moderate Lighting.standard (Material.plain []) := by
    constructor <;> constructor <;>
      exact bounded_of_less (k := 500) (by decide) (by decide +kernel)
  exact ⟨(phong_in_range ⟨0, 0, -1⟩ Lighting.standard (Material.plain []) (by decide +kernel)
    hscene hmaterial).2 hmoderate fun h => absurd h hfacing, hmoderate⟩

/-- A coefficient near the largest double leaves its channel undefined on surfaces that are turned
away from the light. -/
theorem phong_out_of_range :
    (⟨0, 0, -1⟩ : Vec3 Float).isFinite = true
      ∧ Lighting.standard.IsFinite
      ∧ ({ Material.plain [] with diffuse := ⟨1e308, 0.5, 0.5⟩ } : Material (Vec3 Float)).IsFinite
      ∧ phong ⟨0, 0, -1⟩ Lighting.standard
          { Material.plain [] with diffuse := ⟨1e308, 0.5, 0.5⟩ } = .ok ⟨-halfWord, 5, 5⟩
      ∧ ¬(⟨-halfWord, 5, 5⟩ : Colour).FitsBytes := by
  refine ⟨by decide +kernel, by constructor <;> decide +kernel, by constructor <;> decide +kernel,
    by decide +kernel, fun h => absurd h.red (by decide)⟩

end Diorama
