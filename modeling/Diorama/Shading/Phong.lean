import Diorama.Crash
import Diorama.Shading.Material

/-!
# Shading

The colour of a flat surface after Phong: ambient light, diffuse light from the angle to the
light, and specular light from the angle between the reflected light and the viewer.
-/

namespace Diorama

/-- A colour as three channels; a channel that can be stored lies between 0 and 255. -/
structure Colour where
  red : Int
  green : Int
  blue : Int
  deriving DecidableEq

/-- The light of a scene and the direction it is seen from. -/
structure Lighting (V : Type) where
  view : V
  ambient : V
  position : V
  color : V
  exponent : Float

namespace Lighting

/-- The lighting with changed directions and colours. -/
def map
    {V W : Type}
    (f : V → W)
    (s : Lighting V) :
    Lighting W :=
  ⟨f s.view, f s.ambient, f s.position, f s.color, s.exponent⟩

/-- A white light from the upper right, seen from the front. -/
def standard : Lighting (Vec3 Float) where
  view := ⟨0, 0, 1⟩
  ambient := Vec3.replicate 50
  position := ⟨0.5, 0.75, 1⟩
  color := Vec3.replicate 255
  exponent := 8

end Lighting

/-- A vector divided by its length; the zero vector is kept. -/
def normalize
    (v : Vec3 Float) :
    Vec3 Float :=
  let length := (v.dot v).sqrt
  if length == 0 then v else v.map (· / length)

/-- The normal of a counter-clockwise triangle, as long as twice its area. -/
def surfaceNormal
    {α : Type}
    [Scalar α]
    (p q r : Vec3 α) :
    Vec3 α :=
  (q - p).cross (r - p)

/-- A power of a number that is not negative. -/
def power
    (base exponent : Float) :
    Except Crash Float :=
  let result := base.pow exponent
  if base == 0 && exponent < 0 && exponent.isFinite then .error .zeroToNegativePower
  else if result.isInf && base.isFinite && exponent.isFinite then .error .powerTooLarge
  else .ok result

/-- The channel nearest to an intensity; an undefined one becomes the smallest 64-bit integer. -/
def channelOf
    (intensity : Float) :
    Int :=
  match (Number.Exact.ofFloat intensity).nearest with
  | .ok n => max 0 (min 255 n)
  | .error .infinite => if intensity < 0 then 0 else 255
  | .error .notANumber => -halfWord

/-- The colour of a surface with a normal. -/
def phong
    (normal : Vec3 Float)
    (scene : Lighting (Vec3 Float))
    (material : Material (Vec3 Float)) :
    Except Crash Colour := do
  let n := normalize normal
  let l := normalize scene.position
  let v := normalize scene.view
  let facing := n.dot l
  let lit : Float := if facing > 0 then facing else 0
  let ambient := scene.ambient.scaleBy material.ambient
  let diffuse := (scene.color.scaleBy material.diffuse).map (· * lit)
  let specular ←
    if facing > 0 then do
      let reflected := n.map (2 * ·) |>.map (· * facing)
      let toward := (reflected - l).dot v
      let strength ← power (if toward > 0 then toward else 0) scene.exponent
      pure ((scene.color.scaleBy material.specular).map (· * strength))
    else pure (Vec3.replicate 0)
  let total := ambient + diffuse + specular
  return ⟨channelOf total.x, channelOf total.y, channelOf total.z⟩

end Diorama
