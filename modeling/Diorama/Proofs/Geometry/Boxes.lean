import Diorama.Proofs.Geometry.Surfaces
import Diorama.Proofs.Number.Rational
import Diorama.Shading.Phong
import Mathlib.Tactic.Ring

/-!
# Boxes

The table of a box winds all its triangles the same way.  Whether their normals point away from the
centre is a matter of one sign, that of the three extents multiplied, so that all triangles are
turned around or none is.  A closed surface stays closed either way.

**Main statements.**
* `ClosedSurface.map_relabel`, `ClosedSurface.map_turned`: what keeps a surface closed.
* `Box.dot_normal_cornerFace`: how far the normals of the table point away from the centre.
* `Box.triangles_eq`: the triangles are those of the table, or those turned around.
* `box_closed`: a box is a closed surface whose normals point outward.
-/

namespace Diorama

variable {β γ : Type}

/-! ## Closed surfaces, relabelled and turned around -/

/-- A triangle seen from its other side. -/
def turned
    (t : β × β × β) :
    β × β × β :=
  (t.1, t.2.2, t.2.1)

theorem mem_edges_turned_iff
    {t : β × β × β}
    {e : β × β} :
    e ∈ edges (turned t) ↔ e.swap ∈ edges t := by
  obtain ⟨a, b, c⟩ := t
  obtain ⟨u, v⟩ := e
  simp only [turned, mem_edges, Prod.swap_prod_mk, Prod.mk.injEq]
  tauto

section Closed

variable [DecidableEq β]

/-- Different corners stay different under names that are not shared. -/
theorem ClosedSurface.map_relabel
    [DecidableEq γ]
    {f : β → γ}
    (hf : f.Injective)
    {ts : List (β × β × β)}
    (h : ClosedSurface ts) :
    ClosedSurface (ts.map (relabel f)) where
  proper := by
    intro u hu
    obtain ⟨t, ht, rfl⟩ := List.mem_map.mp hu
    exact (proper_relabel_iff hf).mpr (h.proper t ht)
  once := by
    intro u hu e he
    obtain ⟨t, ht, rfl⟩ := List.mem_map.mp hu
    rw [edges_relabel] at he
    obtain ⟨d, hd, rfl⟩ := List.mem_map.mp he
    rw [edgeCount_map_relabel hf]
    exact h.once t ht d hd
  matched := by
    intro u hu e he
    obtain ⟨t, ht, rfl⟩ := List.mem_map.mp hu
    rw [edges_relabel] at he
    obtain ⟨d, hd, rfl⟩ := List.mem_map.mp he
    have hswap : (Prod.map f f d).swap = Prod.map f f d.swap := rfl
    rw [hswap, edgeCount_map_relabel hf]
    exact h.matched t ht d hd

theorem edgeCount_map_turned
    (ts : List (β × β × β))
    (e : β × β) :
    edgeCount (ts.map turned) e = edgeCount ts e.swap := by
  rw [edgeCount, List.countP_map]
  refine List.countP_congr fun t _ => ?_
  rw [Function.comp_apply, decide_eq_true_eq, decide_eq_true_eq]
  exact mem_edges_turned_iff

/-- Seen from the other side, a surface has its edges in the other direction. -/
theorem ClosedSurface.map_turned
    {ts : List (β × β × β)}
    (h : ClosedSurface ts) :
    ClosedSurface (ts.map turned) where
  proper := by
    intro u hu
    obtain ⟨t, ht, rfl⟩ := List.mem_map.mp hu
    obtain ⟨hab, hbc, hca⟩ := h.proper t ht
    exact ⟨hca.symm, hbc.symm, hab.symm⟩
  once := by
    intro u hu e he
    obtain ⟨t, ht, rfl⟩ := List.mem_map.mp hu
    rw [edgeCount_map_turned]
    exact h.once t ht _ (mem_edges_turned_iff.mp he)
  matched := by
    intro u hu e he
    obtain ⟨t, ht, rfl⟩ := List.mem_map.mp hu
    rw [edgeCount_map_turned]
    exact h.matched t ht _ (mem_edges_turned_iff.mp he)

end Closed

/-! ## Buffers of triangles -/

theorem map_flattenTriples
    (f : β → γ)
    (ts : List (β × β × β)) :
    (flattenTriples ts).map f = flattenTriples (ts.map (relabel f)) := by
  simp [flattenTriples, List.map_flatMap, List.flatMap_map, relabel]

/-- Appended triangles come after those of the buffer, which stay as they are. -/
theorem TriangleBuffer.triangles_addTriangles
    {α : Type}
    [Scalar α]
    (b : TriangleBuffer α)
    (ts : List (Vec3 α × Vec3 α × Vec3 α)) :
    TriangleBuffer.triangles (TriangleBuffer.addTriangles b ts)
      = TriangleBuffer.triangles b ++ ts.map (relabel Point.ofVec) := by
  unfold TriangleBuffer.triangles TriangleBuffer.addTriangles
  rw [triples_append _ _ b.whole, map_flattenTriples, triples_flattenTriples]

/-! ## Normals -/

section Normals

variable (p q r place : Vec3 Rat)

theorem Vec3.sub_rat
    (a b : Vec3 Rat) :
    a - b = ⟨a.x - b.x, a.y - b.y, a.z - b.z⟩ :=
  rfl

/-- A normal is at right angles to its triangle, so that it does not matter from which corner one
looks at a place. -/
theorem dot_surfaceNormal_of_mem
    {v : Vec3 Rat}
    (hv : v ∈ [p, q, r]) :
    (surfaceNormal p q r).dot (v - place) = (surfaceNormal p q r).dot (p - place) := by
  simp only [List.mem_cons, List.not_mem_nil, or_false] at hv
  simp only [surfaceNormal, Vec3.dot, Vec3.cross, Vec3.sub_rat]
  rcases hv with rfl | rfl | rfl
  · rfl
  · ring
  · ring

theorem dot_surfaceNormal_turned :
    (surfaceNormal p r q).dot (p - place) = -(surfaceNormal p q r).dot (p - place) := by
  simp only [surfaceNormal, Vec3.dot, Vec3.cross, Vec3.sub_rat]
  ring

end Normals

/-! ## The triangles of a box -/

namespace Box

/-- The table of a box closes up. -/
theorem closedSurface_cornerFaces :
    ClosedSurface cornerFaces where
  proper := by decide
  once := by decide
  matched := by decide

/-- The extents of a box multiplied, with their signs. -/
def signedVolume
    (size : Vec3 Rat) :
    Rat :=
  size.x * size.y * size.z

section Exact

variable (corner : Vec3 Rat) {size : Vec3 Rat}

/-- All normals of the table point away from the centre equally far, or toward it. -/
theorem dot_normal_cornerFace
    {f : Corner × Corner × Corner}
    (hf : f ∈ cornerFaces) :
    (surfaceNormal (cornerPoint corner size f.1) (cornerPoint corner size f.2.1)
        (cornerPoint corner size f.2.2)).dot (cornerPoint corner size f.1 - center corner size)
      = signedVolume size / 2 := by
  revert f
  simp only [cornerFaces, sides, List.flatMap_cons, List.flatMap_nil, List.cons_append,
    List.nil_append, List.forall_mem_cons, cornerPoint, center, surfaceNormal, Vec3.cross, Vec3.dot,
    Vec3.sub_rat, signedVolume, Scalar.ofInt_rat, Int.cast_ofNat, if_true, Bool.false_eq_true,
    if_false]
  refine ⟨?_, ?_, ?_, ?_, ?_, ?_, ?_, ?_, ?_, ?_, ?_, ?_, by simp⟩ <;> ring

theorem outward_cornerFace
    {f : Corner × Corner × Corner}
    (hf : f ∈ cornerFaces) :
    outward (center corner size) (relabel (cornerPoint corner size) f)
      = if signedVolume size < 0 then turned (relabel (cornerPoint corner size) f)
        else relabel (cornerPoint corner size) f := by
  have hturned : outward (center corner size) (relabel (cornerPoint corner size) f)
      = if Scalar.less (signedVolume size / 2) Scalar.zero then
          turned (relabel (cornerPoint corner size) f)
        else relabel (cornerPoint corner size) f := by
    rw [← dot_normal_cornerFace corner hf]
    rfl
  rw [hturned]
  refine if_congr ?_ rfl rfl
  rw [Scalar.less_rat_iff, Scalar.zero_rat]
  constructor
  · intro h
    linarith
  · intro h
    linarith

theorem triangles_eq :
    triangles corner size
      = (cornerFaces.map (relabel (cornerPoint corner size))).map
          (if signedVolume size < 0 then turned else id) := by
  unfold triangles
  rw [List.map_map]
  refine List.map_congr_left fun f hf => ?_
  refine (outward_cornerFace corner hf).trans ?_
  rw [Function.comp_apply]
  split <;> rfl

theorem length_triangles :
    (triangles corner size).length = 12 := by
  rw [triangles, List.length_map]
  rfl

/-- A choice between two different numbers shows which way it went. -/
theorem eq_of_ite_eq_ite
    {u v : Rat}
    (huv : u ≠ v)
    {a b : Bool}
    (h : (if a then u else v) = if b then u else v) :
    a = b := by
  cases a <;> cases b
  · rfl
  · exact absurd h.symm huv
  · exact absurd h huv
  · rfl

variable (hwidth : size.x ≠ 0) (hheight : size.y ≠ 0) (hdepth : size.z ≠ 0)

include hwidth hheight hdepth

/-- A box that is not flat has eight different corners. -/
theorem cornerPoint_injective :
    (cornerPoint corner size).Injective := by
  rintro ⟨a, b, c⟩ ⟨a', b', c'⟩ h
  simp only [cornerPoint, Vec3.mk.injEq] at h
  obtain ⟨hx, hy, hz⟩ := h
  have ha : a = a' := eq_of_ite_eq_ite (by simpa using hwidth) hx
  have hb : b = b' := eq_of_ite_eq_ite (by simpa using hheight) hy
  have hc : c = c' := eq_of_ite_eq_ite (by simpa using hdepth) hz
  rw [ha, hb, hc]

theorem closedSurface_triangles :
    ClosedSurface (triangles corner size) := by
  have htable := closedSurface_cornerFaces.map_relabel
    (cornerPoint_injective corner hwidth hheight hdepth)
  rw [triangles_eq]
  split
  · exact htable.map_turned
  · rwa [List.map_id]

/-- Turned around where needed, the triangles of a box look away from its centre. -/
theorem dot_normal_pos
    {t : Vec3 Rat × Vec3 Rat × Vec3 Rat}
    (ht : t ∈ triangles corner size) :
    0 < (surfaceNormal t.1 t.2.1 t.2.2).dot (t.1 - center corner size) := by
  have hvolume : signedVolume size ≠ 0 := mul_ne_zero (mul_ne_zero hwidth hheight) hdepth
  rw [triangles_eq, List.map_map] at ht
  obtain ⟨f, hf, rfl⟩ := List.mem_map.mp ht
  have hnormal := @dot_normal_cornerFace corner size f hf
  rw [Function.comp_apply]
  split
  · rename_i hneg
    simp only [turned, relabel]
    rw [dot_surfaceNormal_turned, hnormal]
    linarith
  · rename_i hpos
    have hlt : 0 < signedVolume size := lt_of_le_of_ne (not_lt.mp hpos) hvolume.symm
    simp only [id, relabel]
    rw [hnormal]
    linarith

end Exact

theorem exists_corner_of_mem
    {corner size : Vec3 Rat}
    {t : Vec3 Rat × Vec3 Rat × Vec3 Rat}
    (ht : t ∈ triangles corner size)
    {p : Vec3 Rat}
    (hp : p ∈ [t.1, t.2.1, t.2.2]) :
    ∃ c, p = cornerPoint corner size c := by
  rw [triangles_eq, List.map_map] at ht
  obtain ⟨f, -, rfl⟩ := List.mem_map.mp ht
  simp only [List.mem_cons, List.not_mem_nil, or_false] at hp
  rw [Function.comp_apply] at hp
  split at hp
  · rcases hp with rfl | rfl | rfl
    · exact ⟨f.1, rfl⟩
    · exact ⟨f.2.2, rfl⟩
    · exact ⟨f.2.1, rfl⟩
  · rcases hp with rfl | rfl | rfl
    · exact ⟨f.1, rfl⟩
    · exact ⟨f.2.1, rfl⟩
    · exact ⟨f.2.2, rfl⟩

end Box

/-- A box with three extents other than zero, of any signs, is appended as twelve triangles between
its corners.  Their normals point away from its centre, and they form a closed surface. -/
theorem box_closed
    (b : TriangleBuffer Rat)
    (corner : Vec3 Rat)
    {size : Vec3 Rat}
    (hwidth : size.x ≠ 0)
    (hheight : size.y ≠ 0)
    (hdepth : size.z ≠ 0) :
    TriangleBuffer.triangles (TriangleBuffer.addTriangles b (Box.triangles corner size))
        = TriangleBuffer.triangles b ++ (Box.triangles corner size).map (relabel Point.ofVec)
      ∧ (Box.triangles corner size).length = 12
      ∧ (∀ t ∈ Box.triangles corner size,
          surfaceNormal t.1 t.2.1 t.2.2 ≠ ⟨0, 0, 0⟩
            ∧ ∀ p ∈ [t.1, t.2.1, t.2.2],
              0 < (surfaceNormal t.1 t.2.1 t.2.2).dot (p - Box.center corner size)
                ∧ (p.x = corner.x ∨ p.x = corner.x + size.x)
                ∧ (p.y = corner.y ∨ p.y = corner.y - size.y)
                ∧ (p.z = corner.z ∨ p.z = corner.z - size.z))
      ∧ ClosedSurface (Box.triangles corner size) := by
  refine ⟨TriangleBuffer.triangles_addTriangles b _, Box.length_triangles corner, ?_,
    Box.closedSurface_triangles corner hwidth hheight hdepth⟩
  intro t ht
  have hpos := Box.dot_normal_pos corner hwidth hheight hdepth ht
  refine ⟨?_, fun p hp => ⟨?_, ?_⟩⟩
  · intro hzero
    rw [hzero] at hpos
    simp [Vec3.dot] at hpos
  · rwa [dot_surfaceNormal_of_mem _ _ _ _ hp]
  · obtain ⟨⟨a, b, c⟩, rfl⟩ := Box.exists_corner_of_mem ht hp
    refine ⟨?_, ?_, ?_⟩
    · cases a <;> simp [Box.cornerPoint]
    · cases b <;> simp [Box.cornerPoint]
    · cases c <;> simp [Box.cornerPoint]

/-- A box that extends upward instead of downward is turned around as a whole. -/
theorem box_closed_upward :
    ((1 : Rat) ≠ 0 ∧ (-2 : Rat) ≠ 0 ∧ (3 : Rat) ≠ 0)
      ∧ (Box.triangles (⟨0, 0, 0⟩ : Vec3 Rat) ⟨1, -2, 3⟩).length = 12
      ∧ ClosedSurface (Box.triangles (⟨0, 0, 0⟩ : Vec3 Rat) ⟨1, -2, 3⟩) :=
  have h := @box_closed PointBuffer.empty ⟨0, 0, 0⟩ ⟨1, -2, 3⟩
    (by norm_num) (by norm_num) (by norm_num)
  ⟨by norm_num, h.2.1, h.2.2.2⟩

end Diorama
