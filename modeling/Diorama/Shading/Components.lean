import Diorama.Shading.Phong

/-!
# Shading with lists of components

Directions and colours may be given as lists of any length.  Lists are combined number by number;
their lengths have to agree, but a single number goes with every number of the other list.
Shading fails where two lengths do not agree and where a channel is missing in the end.

**Main statement.**
* `normalize_toList`, `surfaceNormal_toList` and `phong_toList`: for lists of three numbers this is
  the shading of vectors.
-/

namespace Diorama

/-- Numbers in order, as many as there are. -/
abbrev Components := List Float

namespace Components

/-- Combine two lists number by number. -/
def combine
    (f : Float → Float → Float) :
    Components → Components → Except Crash Components
  | [x], ys => .ok (ys.map (f x))
  | xs, [y] => .ok (xs.map (f · y))
  | xs, ys =>
      if xs.length = ys.length then .ok (List.zipWith f xs ys) else .error .lengthsDiffer

/-- The sum from left to right. -/
def sum : Components → Float
  | [] => 0
  | x :: xs => xs.foldl (· + ·) x

/-- The scalar product of two lists of the same length. -/
def dot
    (xs ys : Components) :
    Except Crash Float :=
  if xs.length = ys.length then .ok (sum (List.zipWith (· * ·) xs ys))
  else .error .lengthsDiffer

/-- The first three numbers divided by their length; zeros are kept. -/
def normalize
    (v : Components) :
    Components :=
  let front := v.take 3
  let length := (sum (List.zipWith (· * ·) front front)).sqrt
  if length == 0 then front else front.map (· / length)

/--
The vector at right angles to two others.  Two numbers are a vector of the plane, with nothing
along the third axis; what is at right angles to two of those is a plain number and no vector.
-/
def cross : Components → Components → Except Crash Components
  | [a, b, c], [d, e, f] => .ok ((⟨a, b, c⟩ : Vec3 Float).cross ⟨d, e, f⟩).toList
  | [a, b], [d, e, f] => .ok [b * f, -(a * f), a * e - b * d]
  | [a, b, c], [d, e] => .ok [-(c * e), c * d, a * e - b * d]
  | [_, _], [_, _] => .error .notAVector
  | _, _ => .error .lengthsDiffer

/-- The normal of a triangle; the first three numbers of its corners count. -/
def surfaceNormal
    (p q r : Components) :
    Except Crash Components := do
  let u ← combine (· - ·) (q.take 3) (p.take 3)
  let v ← combine (· - ·) (r.take 3) (p.take 3)
  cross u v

/-- The colour of the first three channels. -/
def colour : Components → Except Crash Colour
  | x :: y :: z :: _ => .ok ⟨channelOf x, channelOf y, channelOf z⟩
  | _ => .error .channelMissing

/-- The colour of a surface with a normal. -/
def phong
    (normal : Components)
    (scene : Lighting Components)
    (material : Material Components) :
    Except Crash Colour := do
  let n := normalize normal
  let l := normalize scene.position
  let v := normalize scene.view
  let ambient ← combine (· * ·) scene.ambient material.ambient
  let facing ← dot n l
  let lit : Float := if facing > 0 then facing else 0
  let diffuse ← combine (· * ·) scene.color material.diffuse
  let specular ←
    if facing > 0 then do
      let reflected := n.map (2 * ·) |>.map (· * facing)
      let toward ← dot (List.zipWith (· - ·) reflected l) v
      let shine ← combine (· * ·) scene.color material.specular
      let strength ← power (if toward > 0 then toward else 0) scene.exponent
      pure (shine.map (· * strength))
    else pure [0, 0, 0]
  let matte ← combine (· + ·) ambient (diffuse.map (· * lit))
  let total ← combine (· + ·) matte specular
  colour total

theorem normalize_toList
    (v : Vec3 Float) :
    normalize v.toList = (Diorama.normalize v).toList := by
  simp only [normalize, Diorama.normalize]
  change (if (v.dot v).sqrt == 0 then v.toList else _) = _
  split <;> rfl

theorem surfaceNormal_toList
    (p q r : Vec3 Float) :
    surfaceNormal p.toList q.toList r.toList
      = .ok (Diorama.surfaceNormal p q r).toList :=
  rfl

theorem phong_toList
    (normal : Vec3 Float)
    (scene : Lighting (Vec3 Float))
    (material : Material (Vec3 Float)) :
    phong normal.toList (scene.map Vec3.toList) (material.map Vec3.toList)
      = Diorama.phong normal scene material := by
  simp only [phong, Diorama.phong, Lighting.map, Material.map, normalize_toList]
  rfl

end Components
end Diorama
