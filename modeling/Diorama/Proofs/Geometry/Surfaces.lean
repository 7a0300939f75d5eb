import Diorama.Proofs.Geometry.Sampling
import Mathlib.Data.List.Nodup
import Mathlib.Data.List.ProdSigma
import Mathlib.Data.Prod.Basic

/-!
# Closed surfaces

The triangles of a sphere and of a torus fit together: each directed edge of a triangle belongs to
no other triangle, and exactly one triangle has it in the other direction.

The samples stand on a grid whose rows, and for a torus whose columns, come around.  A cell of the
grid is found again from any directed edge of its triangles, which is why none occurs twice.

**Main statements.** `closedSurface_of_cells`: triangles of cells that the edges tell apart.
`Torus.cell_unique` and `Sphere.cell_unique`: the cell of an edge.  `Sphere.faces_eq_filter`: the
triangles left out are those that degenerate at a pole.  `surfaces_closed`: both surfaces are
closed.
-/

namespace Diorama

variable {α β γ : Type}

/-! ## Triangles and their edges -/

/-- The directed edges of a triangle. -/
def edges
    (t : β × β × β) :
    List (β × β) :=
  [(t.1, t.2.1), (t.2.1, t.2.2), (t.2.2, t.1)]

/-- A triangle with other things for its corners. -/
def relabel
    (f : β → γ)
    (t : β × β × β) :
    γ × γ × γ :=
  (f t.1, f t.2.1, f t.2.2)

/-- A triangle of positions in a list of so many samples. -/
def Within
    (count : Nat)
    (f : Face) :
    Prop :=
  f.1 < count ∧ f.2.1 < count ∧ f.2.2 < count

/-- A triangle of three different corners. -/
def Proper
    (t : β × β × β) :
    Prop :=
  t.1 ≠ t.2.1 ∧ t.2.1 ≠ t.2.2 ∧ t.2.2 ≠ t.1

instance [DecidableEq β] (t : β × β × β) : Decidable (Proper t) :=
  inferInstanceAs (Decidable (_ ∧ _ ∧ _))

theorem mem_edges
    {a b c : β}
    {e : β × β} :
    e ∈ edges (a, b, c) ↔ e = (a, b) ∨ e = (b, c) ∨ e = (c, a) := by
  simp [edges]

/-- Two triangles that lie along one diagonal have different edges. -/
theorem nodup_edges_append_edges
    {a b c d : β}
    (hone : Proper (a, b, c))
    (hother : Proper (a, c, d)) :
    (edges (a, b, c) ++ edges (a, c, d)).Nodup := by
  obtain ⟨hab, hbc, hca⟩ := hone
  obtain ⟨-, hcd, hda⟩ := hother
  simp_all [edges, eq_comm]

theorem nodup_edges
    {t : β × β × β}
    (ht : Proper t) :
    (edges t).Nodup := by
  obtain ⟨a, b, c⟩ := t
  obtain ⟨hab, hbc, hca⟩ := ht
  simp_all [edges, eq_comm]

theorem relabel_injective
    {f : β → γ}
    (hf : f.Injective) :
    (relabel f).Injective := by
  rintro ⟨a, b, c⟩ ⟨a', b', c'⟩ h
  obtain ⟨ha, hb, hc⟩ : f a = f a' ∧ f b = f b' ∧ f c = f c' := by simpa [relabel] using h
  rw [hf ha, hf hb, hf hc]

theorem proper_relabel_iff
    {f : β → γ}
    (hf : f.Injective)
    {t : β × β × β} :
    Proper (relabel f t) ↔ Proper t := by
  simp [Proper, relabel, hf.eq_iff]

theorem edges_relabel
    (f : β → γ)
    (t : β × β × β) :
    edges (relabel f t) = (edges t).map (Prod.map f f) :=
  rfl

/-! ## Closed surfaces -/

section Closed

variable [DecidableEq β]

/-- In how many of the triangles a directed edge occurs. -/
def edgeCount
    (ts : List (β × β × β))
    (e : β × β) :
    Nat :=
  ts.countP fun t => e ∈ edges t

/-- Triangles that close up, without a hole or a doubled triangle and with one orientation. -/
structure ClosedSurface
    (ts : List (β × β × β)) : Prop where
  proper : ∀ t ∈ ts, Proper t
  once : ∀ t ∈ ts, ∀ e ∈ edges t, edgeCount ts e = 1
  matched : ∀ t ∈ ts, ∀ e ∈ edges t, edgeCount ts e.swap = 1

theorem edgeCount_eq_one
    {ts : List (β × β × β)}
    (hnodup : (ts.flatMap edges).Nodup)
    {e : β × β}
    (he : e ∈ ts.flatMap edges) :
    edgeCount ts e = 1 := by
  unfold edgeCount
  induction ts with
  | nil => simp at he
  | cons t ts ih =>
    rw [List.flatMap_cons] at hnodup he
    obtain ⟨-, hrest, hdisjoint⟩ := List.nodup_append.mp hnodup
    rw [List.countP_cons]
    by_cases hfirst : e ∈ edges t
    · have hnone : ts.countP (fun t => e ∈ edges t) = 0 := by
        refine List.countP_eq_zero.mpr fun u hu hedge => ?_
        exact hdisjoint e hfirst e (List.mem_flatMap.mpr ⟨u, hu, by simpa using hedge⟩) rfl
      simp [hfirst, hnone]
    · simpa [hfirst] using ih hrest ((List.mem_append.mp he).resolve_left hfirst)

theorem edgeCount_map_relabel
    [DecidableEq γ]
    {f : β → γ}
    (hf : f.Injective)
    (ts : List (β × β × β))
    (e : β × β) :
    edgeCount (ts.map (relabel f)) (Prod.map f f e) = edgeCount ts e := by
  rw [edgeCount, List.countP_map]
  refine List.countP_congr fun t _ => ?_
  rw [Function.comp_apply, edges_relabel, decide_eq_true_eq, decide_eq_true_eq]
  exact List.mem_map_of_injective (Function.Injective.prodMap hf hf)

/-- Different names for the corners do not change how triangles meet. -/
theorem ClosedSurface.of_relabel
    [DecidableEq γ]
    {f : β → γ}
    (hf : f.Injective)
    {ts : List (β × β × β)}
    (h : ClosedSurface (ts.map (relabel f))) :
    ClosedSurface ts where
  proper t ht := (proper_relabel_iff hf).mp (h.proper _ (List.mem_map_of_mem ht))
  once t ht e he := by
    rw [← edgeCount_map_relabel hf]
    exact h.once _ (List.mem_map_of_mem ht) _ (List.mem_map_of_mem he)
  matched t ht e he := by
    rw [← edgeCount_map_relabel hf]
    exact h.matched _ (List.mem_map_of_mem ht) (Prod.map f f e) (List.mem_map_of_mem he)

end Closed

/-! ## Grids of cells -/

theorem mem_gridPositions
    {rows columns : Nat}
    {u : Nat × Nat} :
    u ∈ gridPositions rows columns ↔ u.1 < rows ∧ u.2 < columns :=
  List.mem_product.trans (and_congr List.mem_range List.mem_range)

theorem nodup_gridPositions
    (rows columns : Nat) :
    (gridPositions rows columns).Nodup :=
  List.Nodup.product List.nodup_range List.nodup_range

@[simp]
theorem length_gridPositions
    (rows columns : Nat) :
    (gridPositions rows columns).length = rows * columns := by
  calc
    (gridPositions rows columns).length
        = (List.range rows).length * (List.range columns).length := List.length_product _ _
    _ = rows * columns := by rw [List.length_range, List.length_range]

/-- The triangles of the cells of a grid close up if an edge occurs once in its cell, tells its
cell, and occurs in the other direction in some cell. -/
theorem closedSurface_of_cells
    [DecidableEq β]
    {rows columns : Nat}
    {cell : Nat × Nat → List (β × β × β)}
    (hproper : ∀ u ∈ gridPositions rows columns, ∀ t ∈ cell u, Proper t)
    (hnodup : ∀ u ∈ gridPositions rows columns, ((cell u).flatMap edges).Nodup)
    (hunique : ∀ u ∈ gridPositions rows columns, ∀ v ∈ gridPositions rows columns,
      ∀ e ∈ (cell u).flatMap edges, e ∈ (cell v).flatMap edges → u = v)
    (hmatched : ∀ u ∈ gridPositions rows columns, ∀ e ∈ (cell u).flatMap edges,
      ∃ v ∈ gridPositions rows columns, e.swap ∈ (cell v).flatMap edges) :
    ClosedSurface ((gridPositions rows columns).flatMap cell) := by
  have honce : (((gridPositions rows columns).flatMap cell).flatMap edges).Nodup := by
    rw [List.flatMap_assoc, List.nodup_flatMap]
    refine ⟨hnodup, (nodup_gridPositions rows columns).pairwise_of_forall_ne ?_⟩
    exact fun u hu v hv hne e heu hev => hne (hunique u hu v hv e heu hev)
  have hedge {u : Nat × Nat} (hu : u ∈ gridPositions rows columns) {e : β × β}
      (he : e ∈ (cell u).flatMap edges) :
      e ∈ ((gridPositions rows columns).flatMap cell).flatMap edges := by
    rw [List.flatMap_assoc]
    exact List.mem_flatMap.mpr ⟨u, hu, he⟩
  constructor
  case proper =>
    intro t ht
    obtain ⟨u, hu, ht⟩ := List.mem_flatMap.mp ht
    exact hproper u hu t ht
  case once =>
    intro t ht e he
    exact edgeCount_eq_one honce (List.mem_flatMap.mpr ⟨t, ht, he⟩)
  case matched =>
    intro t ht e he
    obtain ⟨u, hu, ht⟩ := List.mem_flatMap.mp ht
    obtain ⟨v, hv, hswap⟩ := hmatched u hu e (List.mem_flatMap.mpr ⟨t, ht, he⟩)
    exact edgeCount_eq_one honce (hedge hv hswap)

/-- The row and the column of a position, in rows of `width` samples. -/
def gridPlace
    (width n : Nat) :
    Nat × Nat :=
  (n / width, n % width)

theorem gridPlace_injective
    (width : Nat) :
    (gridPlace width).Injective := by
  intro m n h
  obtain ⟨hrow, hcolumn⟩ := Prod.mk.inj h
  rw [← Nat.div_add_mod m width, ← Nat.div_add_mod n width, hrow, hcolumn]

theorem gridPlace_eq
    {width i j : Nat}
    (hj : j < width) :
    gridPlace width (i * width + j) = (i, j) := by
  rw [gridPlace, Nat.mul_comm, Nat.mul_add_div (by omega), Nat.mul_add_mod,
    Nat.div_eq_of_lt hj, Nat.mod_eq_of_lt hj, Nat.add_zero]

theorem gridIndex_lt
    {rows width i j : Nat}
    (hi : i < rows)
    (hj : j < width) :
    i * width + j < rows * width :=
  calc
    i * width + j < (i + 1) * width := by rw [Nat.succ_mul]; omega
    _ ≤ rows * width := Nat.mul_le_mul_right width hi

/-- A place comes before another one, or it is the last and the next is the first. -/
theorem next_mod
    {n i : Nat}
    (hi : i < n) :
    (i + 1 < n ∧ (i + 1) % n = i + 1) ∨ (i + 1 = n ∧ (i + 1) % n = 0) := by
  rcases Nat.lt_or_eq_of_le (Nat.succ_le_of_lt hi) with h | h
  · exact .inl ⟨h, Nat.mod_eq_of_lt h⟩
  · exact .inr ⟨h, by rw [← h, Nat.succ_eq_add_one, Nat.mod_self]⟩

theorem exists_next_mod_eq
    {n i : Nat}
    (hi : i < n) :
    ∃ k < n, (k + 1) % n = i := by
  rcases i with _ | i
  · exact ⟨n - 1, by omega, by rw [Nat.sub_add_cancel hi, Nat.mod_self]⟩
  · exact ⟨i, by omega, Nat.mod_eq_of_lt hi⟩

theorem ite_zero_cases
    (p : Prop)
    [Decidable p]
    (i : Nat) :
    (p ∧ (if p then 0 else i) = 0) ∨ (¬ p ∧ (if p then 0 else i) = i) := by
  by_cases hp : p
  · exact .inl ⟨hp, if_pos hp⟩
  · exact .inr ⟨hp, if_neg hp⟩

/-! ## Tori -/

namespace Torus

/-- The two triangles of a cell, by rows and columns. -/
def cell
    (steps : Nat)
    (u : Nat × Nat) :
    List ((Nat × Nat) × (Nat × Nat) × (Nat × Nat)) :=
  let a := u
  let b := (u.1, (u.2 + 1) % steps)
  let c := ((u.1 + 1) % steps, (u.2 + 1) % steps)
  let d := ((u.1 + 1) % steps, u.2)
  [(a, d, c), (a, c, b)]

theorem map_gridPlace_faces
    {steps : Nat}
    (hsteps : 0 < steps) :
    (faces steps).map (relabel (gridPlace steps))
      = (gridPositions steps steps).flatMap (cell steps) := by
  have hplace (i j : Nat) :
      gridPlace steps (sampleIndex steps i j) = (i % steps, j % steps) :=
    gridPlace_eq (Nat.mod_lt j hsteps)
  unfold faces
  rw [List.map_flatMap]
  refine List.flatMap_congr fun u hu => ?_
  obtain ⟨hi, hj⟩ := mem_gridPositions.mp hu
  simp [cellFaces, relabel, hplace, cell, Nat.mod_eq_of_lt hi, Nat.mod_eq_of_lt hj]

theorem mem_edges_cell
    {steps i j : Nat}
    {e : (Nat × Nat) × (Nat × Nat)} :
    e ∈ (cell steps (i, j)).flatMap edges
      ↔ e ∈ edges ((i, j), ((i + 1) % steps, j), ((i + 1) % steps, (j + 1) % steps))
        ∨ e ∈ edges ((i, j), ((i + 1) % steps, (j + 1) % steps), (i, (j + 1) % steps)) := by
  simp [cell]

section Cells

variable {steps : Nat} {u : Nat × Nat}

theorem proper_cell
    (hsteps : 3 ≤ steps)
    (hu : u ∈ gridPositions steps steps) :
    ∀ t ∈ cell steps u, Proper t := by
  obtain ⟨hi, hj⟩ := mem_gridPositions.mp hu
  have hi' := next_mod hi
  have hj' := next_mod hj
  simp only [cell, List.forall_mem_cons, Proper, ne_eq, Prod.ext_iff, List.not_mem_nil,
    IsEmpty.forall_iff, implies_true, and_true]
  omega

theorem nodup_cell
    (hsteps : 3 ≤ steps)
    (hu : u ∈ gridPositions steps steps) :
    ((cell steps u).flatMap edges).Nodup := by
  have hproper := proper_cell hsteps hu
  simp only [cell, List.forall_mem_cons] at hproper
  simpa [cell] using nodup_edges_append_edges hproper.1 hproper.2.1

theorem cell_unique
    (hsteps : 3 ≤ steps)
    {u v : Nat × Nat}
    (hu : u ∈ gridPositions steps steps)
    (hv : v ∈ gridPositions steps steps)
    {e : (Nat × Nat) × (Nat × Nat)}
    (heu : e ∈ (cell steps u).flatMap edges)
    (hev : e ∈ (cell steps v).flatMap edges) :
    u = v := by
  obtain ⟨i, j⟩ := u
  obtain ⟨k, l⟩ := v
  obtain ⟨hi, hj⟩ : i < steps ∧ j < steps := mem_gridPositions.mp hu
  obtain ⟨hk, hl⟩ : k < steps ∧ l < steps := mem_gridPositions.mp hv
  have hi' := next_mod hi
  have hj' := next_mod hj
  have hk' := next_mod hk
  have hl' := next_mod hl
  rw [mem_edges_cell, mem_edges, mem_edges] at heu hev
  generalize (i + 1) % steps = i' at *
  generalize (j + 1) % steps = j' at *
  generalize (k + 1) % steps = k' at *
  generalize (l + 1) % steps = l' at *
  rw [Prod.mk.injEq]
  -- the six edges of a cell differ in direction, as long as one step is not one step back
  rcases heu with (rfl | rfl | rfl) | (rfl | rfl | rfl) <;>
    simp only [Prod.mk.injEq] at hev <;> omega

/-- The other side of an edge lies in the same cell or in a neighbouring one. -/
theorem exists_cell_swap
    (hu : u ∈ gridPositions steps steps)
    {e : (Nat × Nat) × (Nat × Nat)}
    (he : e ∈ (cell steps u).flatMap edges) :
    ∃ v ∈ gridPositions steps steps, e.swap ∈ (cell steps v).flatMap edges := by
  obtain ⟨i, j⟩ := u
  obtain ⟨hi, hj⟩ : i < steps ∧ j < steps := mem_gridPositions.mp hu
  obtain ⟨k, hk, hki⟩ := exists_next_mod_eq hi
  obtain ⟨l, hl, hlj⟩ := exists_next_mod_eq hj
  have hi' : (i + 1) % steps < steps := Nat.mod_lt _ (Nat.zero_lt_of_lt hi)
  have hj' : (j + 1) % steps < steps := Nat.mod_lt _ (Nat.zero_lt_of_lt hj)
  rw [mem_edges_cell, mem_edges, mem_edges] at he
  rcases he with (rfl | rfl | rfl) | (rfl | rfl | rfl)
  · exact ⟨(i, l), mem_gridPositions.mpr ⟨hi, hl⟩, mem_edges_cell.mpr (by simp [mem_edges, hlj])⟩
  · exact ⟨((i + 1) % steps, j), mem_gridPositions.mpr ⟨hi', hj⟩,
      mem_edges_cell.mpr (by simp [mem_edges])⟩
  · exact ⟨(i, j), hu, mem_edges_cell.mpr (by simp [mem_edges])⟩
  · exact ⟨(i, j), hu, mem_edges_cell.mpr (by simp [mem_edges])⟩
  · exact ⟨(i, (j + 1) % steps), mem_gridPositions.mpr ⟨hi, hj'⟩,
      mem_edges_cell.mpr (by simp [mem_edges])⟩
  · exact ⟨(k, j), mem_gridPositions.mpr ⟨hk, hj⟩, mem_edges_cell.mpr (by simp [mem_edges, hki])⟩

end Cells

theorem closedSurface_faces
    {steps : Nat}
    (hsteps : 3 ≤ steps) :
    ClosedSurface (faces steps) := by
  refine .of_relabel (gridPlace_injective steps) ?_
  rw [map_gridPlace_faces (by omega)]
  exact closedSurface_of_cells (fun _ => proper_cell hsteps) (fun _ => nodup_cell hsteps)
    (fun _ hu _ hv _ => cell_unique hsteps hu hv) (fun _ hu _ => exists_cell_swap hu)

theorem length_faces
    (steps : Nat) :
    (faces steps).length = 2 * steps * steps := by
  have hcell (u : Nat × Nat) : (cellFaces steps u.1 u.2).length = 2 := rfl
  calc
    (faces steps).length
        = ((gridPositions steps steps).map fun _ => 2).sum := by
          rw [faces, List.length_flatMap, List.map_congr_left fun u _ => hcell u]
    _ = 2 * steps * steps := by simp [Nat.mul_comm, Nat.mul_assoc]

theorem length_samples
    (center : Vec3 Float)
    (tube ring : Float)
    (steps : Nat) :
    (samples center tube ring steps).length = steps * steps := by
  simp [samples]

theorem within_faces
    {steps : Nat}
    {f : Face}
    (hf : f ∈ faces steps) :
    Within (steps * steps) f := by
  obtain ⟨u, hu, hf⟩ := List.mem_flatMap.mp hf
  have hsteps : 0 < steps := Nat.zero_lt_of_lt (mem_gridPositions.mp hu).1
  have hsample (i j : Nat) : sampleIndex steps i j < steps * steps :=
    gridIndex_lt (Nat.mod_lt i hsteps) (Nat.mod_lt j hsteps)
  simp only [cellFaces, List.mem_cons, List.not_mem_nil, or_false] at hf
  rcases hf with rfl | rfl
  · exact ⟨hsample _ _, hsample _ _, hsample _ _⟩
  · exact ⟨hsample _ _, hsample _ _, hsample _ _⟩

end Torus

/-! ## Spheres -/

namespace Sphere

/-- The first sample of the same point: all samples of a pole are one point. -/
def point
    (steps n : Nat) :
    Nat :=
  if n % (steps + 1) = 0 then 0
  else if n % (steps + 1) = steps then steps
  else n

theorem point_eq_iff
    {steps : Nat}
    (hsteps : 0 < steps)
    {m n : Nat} :
    point steps m = point steps n
      ↔ m = n
        ∨ (m % (steps + 1) = 0 ∧ n % (steps + 1) = 0)
        ∨ (m % (steps + 1) = steps ∧ n % (steps + 1) = steps) := by
  have hfirst : 0 % (steps + 1) = 0 := Nat.zero_mod _
  have hlast : steps % (steps + 1) = steps := Nat.mod_eq_of_lt (Nat.lt_succ_self steps)
  unfold point
  split_ifs with hm hm' hn hn' <;> grind

/-- The triangles of a cell, by longitudes and latitudes; all longitudes meet in a pole. -/
def cell
    (steps : Nat)
    (u : Nat × Nat) :
    List ((Nat × Nat) × (Nat × Nat) × (Nat × Nat)) :=
  let (i, j) := u
  let a := (if j = 0 then 0 else i, j)
  let b := (i, j + 1)
  let c := (if j + 1 = steps then 0 else (i + 1) % steps, j + 1)
  let d := ((i + 1) % steps, j)
  (if j + 1 = steps then [] else [(a, b, c)]) ++ (if j = 0 then [] else [(a, c, d)])

theorem gridPlace_point
    {steps i j : Nat}
    (hj : j ≤ steps) :
    gridPlace (steps + 1) (point steps (sampleIndex steps i j))
      = (if j = 0 ∨ j = steps then 0 else i % steps, j) := by
  have hplace : gridPlace (steps + 1) (sampleIndex steps i j) = (i % steps, j) :=
    gridPlace_eq (Nat.lt_succ_of_le hj)
  have hcolumn : sampleIndex steps i j % (steps + 1) = j := congrArg Prod.snd hplace
  rw [point, hcolumn]
  split_ifs with hfirst hpole hlast hpole
  · simp [gridPlace, hfirst]
  · exact absurd (.inl hfirst) hpole
  · simp [gridPlace, hlast]
  · simp [hlast] at hpole
  · simp_all
  · exact hplace

theorem mem_edges_cell
    {steps i j : Nat}
    {e : (Nat × Nat) × (Nat × Nat)} :
    e ∈ (cell steps (i, j)).flatMap edges
      ↔ (j + 1 ≠ steps ∧ e ∈ edges ((if j = 0 then 0 else i, j), (i, j + 1),
          ((i + 1) % steps, j + 1)))
        ∨ (j ≠ 0 ∧ e ∈ edges ((i, j), (if j + 1 = steps then 0 else (i + 1) % steps, j + 1),
          ((i + 1) % steps, j))) := by
  by_cases hfirst : j = 0 <;> by_cases hlast : j + 1 = steps <;> simp_all [cell]

/-- Samples of a pole have the first longitude. -/
theorem map_gridPlace_faces
    (steps : Nat) :
    ((faces steps).map (relabel (point steps))).map (relabel (gridPlace (steps + 1)))
      = (gridPositions steps steps).flatMap (cell steps) := by
  unfold faces
  rw [List.map_flatMap, List.map_flatMap]
  refine List.flatMap_congr fun u hu => ?_
  obtain ⟨i, j⟩ := u
  obtain ⟨hi, hj⟩ : i < steps ∧ j < steps := mem_gridPositions.mp hu
  have hnear (k : Nat) := gridPlace_point (i := k) (Nat.le_of_lt hj)
  have hfar (k : Nat) := gridPlace_point (i := k) hj
  have hpole : j ≠ steps := Nat.ne_of_lt hj
  have hmod : i % steps = i := Nat.mod_eq_of_lt hi
  by_cases hfirst : j = 0 <;> by_cases hlast : j + 1 = steps <;>
    simp_all [cellFaces, cell, relabel]

section Cells

variable {steps : Nat} {u : Nat × Nat}

theorem proper_cell
    (hsteps : 2 ≤ steps)
    (hu : u ∈ gridPositions steps steps) :
    ∀ t ∈ cell steps u, Proper t := by
  obtain ⟨i, j⟩ := u
  obtain ⟨hi, hj⟩ : i < steps ∧ j < steps := mem_gridPositions.mp hu
  have hi' := next_mod hi
  have hto := ite_zero_cases (j + 1 = steps) ((i + 1) % steps)
  have hfrom := ite_zero_cases (j = 0) i
  simp only [cell, List.mem_append, List.mem_ite_nil_left, List.mem_singleton]
  rintro t (⟨hlast, rfl⟩ | ⟨hfirst, rfl⟩) <;> simp only [Proper, ne_eq, Prod.ext_iff] <;> omega

theorem nodup_cell
    (hsteps : 2 ≤ steps)
    (hu : u ∈ gridPositions steps steps) :
    ((cell steps u).flatMap edges).Nodup := by
  have hproper := proper_cell hsteps hu
  revert hproper
  obtain ⟨i, j⟩ := u
  simp only [cell]
  split_ifs with hlast hfirst hfirst
  · simp
  · simpa using nodup_edges
  · simpa using nodup_edges
  · simpa using nodup_edges_append_edges

theorem cell_unique
    (hsteps : 3 ≤ steps)
    {u v : Nat × Nat}
    (hu : u ∈ gridPositions steps steps)
    (hv : v ∈ gridPositions steps steps)
    {e : (Nat × Nat) × (Nat × Nat)}
    (heu : e ∈ (cell steps u).flatMap edges)
    (hev : e ∈ (cell steps v).flatMap edges) :
    u = v := by
  obtain ⟨i, j⟩ := u
  obtain ⟨k, l⟩ := v
  obtain ⟨hi, hj⟩ : i < steps ∧ j < steps := mem_gridPositions.mp hu
  obtain ⟨hk, hl⟩ : k < steps ∧ l < steps := mem_gridPositions.mp hv
  have hi' := next_mod hi
  have hk' := next_mod hk
  have hfrom := ite_zero_cases (j = 0) i
  have hto := ite_zero_cases (j + 1 = steps) ((i + 1) % steps)
  have hfrom' := ite_zero_cases (l = 0) k
  have hto' := ite_zero_cases (l + 1 = steps) ((k + 1) % steps)
  rw [mem_edges_cell, mem_edges, mem_edges] at heu hev
  generalize (i + 1) % steps = i' at *
  generalize (k + 1) % steps = k' at *
  rw [Prod.mk.injEq]
  -- an edge that starts or ends in a pole tells its longitude by its other end
  rcases heu with ⟨_, rfl | rfl | rfl⟩ | ⟨_, rfl | rfl | rfl⟩ <;>
    simp only [Prod.mk.injEq] at hev <;> omega

/-- Beside a pole the other side of an edge lies on the next or the previous longitude. -/
theorem exists_cell_swap
    (hu : u ∈ gridPositions steps steps)
    {e : (Nat × Nat) × (Nat × Nat)}
    (he : e ∈ (cell steps u).flatMap edges) :
    ∃ v ∈ gridPositions steps steps, e.swap ∈ (cell steps v).flatMap edges := by
  obtain ⟨i, j⟩ := u
  obtain ⟨hi, hj⟩ : i < steps ∧ j < steps := mem_gridPositions.mp hu
  obtain ⟨k, hk, hki⟩ := exists_next_mod_eq hi
  have hi' : (i + 1) % steps < steps := Nat.mod_lt _ (Nat.zero_lt_of_lt hi)
  have hbefore : (k, j) ∈ gridPositions steps steps := mem_gridPositions.mpr ⟨hk, hj⟩
  have hafter : ((i + 1) % steps, j) ∈ gridPositions steps steps :=
    mem_gridPositions.mpr ⟨hi', hj⟩
  rw [mem_edges_cell, mem_edges, mem_edges] at he
  rcases he with ⟨hlast, rfl | rfl | rfl⟩ | ⟨hfirst, rfl | rfl | rfl⟩
  · refine ⟨(k, j), hbefore, ?_⟩
    rw [mem_edges_cell]
    by_cases hfirst : j = 0 <;> simp_all [mem_edges]
  · exact ⟨(i, j + 1), mem_gridPositions.mpr ⟨hi, by omega⟩,
      mem_edges_cell.mpr (by simp [mem_edges])⟩
  · by_cases hfirst : j = 0
    · exact ⟨((i + 1) % steps, j), hafter, mem_edges_cell.mpr (by simp_all [mem_edges])⟩
    · exact ⟨(i, j), hu, mem_edges_cell.mpr (by simp_all [mem_edges])⟩
  · by_cases hlast : j + 1 = steps
    · exact ⟨(k, j), hbefore, mem_edges_cell.mpr (by simp_all [mem_edges])⟩
    · exact ⟨(i, j), hu, mem_edges_cell.mpr (by simp_all [mem_edges])⟩
  · refine ⟨((i + 1) % steps, j), hafter, ?_⟩
    rw [mem_edges_cell]
    by_cases hlast : j + 1 = steps <;> simp_all [mem_edges]
  · obtain ⟨l, rfl⟩ := Nat.exists_eq_succ_of_ne_zero hfirst
    exact ⟨(i, l), mem_gridPositions.mpr ⟨hi, by omega⟩,
      mem_edges_cell.mpr (by simp [mem_edges, Nat.ne_of_lt hj])⟩

end Cells

theorem closedSurface_faces
    {steps : Nat}
    (hsteps : 3 ≤ steps) :
    ClosedSurface ((faces steps).map (relabel (point steps))) := by
  refine .of_relabel (gridPlace_injective (steps + 1)) ?_
  rw [map_gridPlace_faces]
  exact closedSurface_of_cells (fun _ => proper_cell (by omega)) (fun _ => nodup_cell (by omega))
    (fun _ hu _ hv _ => cell_unique hsteps hu hv) (fun _ hu _ => exists_cell_swap hu)

/-- The triangles of a cell before any is left out. -/
def cellTriangles
    (steps i j : Nat) :
    List Face :=
  let a := sampleIndex steps i j
  let b := sampleIndex steps i (j + 1)
  let c := sampleIndex steps (i + 1) (j + 1)
  let d := sampleIndex steps (i + 1) j
  [(a, b, c), (a, c, d)]

/-- The triangles of all cells. -/
def gridTriangles
    (steps : Nat) :
    List Face :=
  (gridPositions steps steps).flatMap fun (i, j) => cellTriangles steps i j

theorem next_ne
    {steps i : Nat}
    (hsteps : 2 ≤ steps)
    (hi : i < steps) :
    i ≠ (i + 1) % steps := by
  have hnext := next_mod hi
  omega

/-- The triangle with two corners on the next latitude collapses at the last pole. -/
theorem proper_lower_iff
    {steps i j : Nat}
    (hsteps : 2 ≤ steps)
    (hi : i < steps)
    (hj : j < steps) :
    Proper (relabel (point steps)
        (sampleIndex steps i j, sampleIndex steps i (j + 1), sampleIndex steps (i + 1) (j + 1)))
      ↔ j + 1 ≠ steps := by
  have hnext := next_ne hsteps hi
  rw [← proper_relabel_iff (gridPlace_injective (steps + 1))]
  simp only [Proper, relabel, gridPlace_point (Nat.le_of_lt hj), gridPlace_point hj,
    Nat.mod_eq_of_lt hi]
  by_cases hlast : j + 1 = steps <;> simp [hlast, hnext]

/-- The triangle with two corners on the same latitude collapses at the first pole. -/
theorem proper_upper_iff
    {steps i j : Nat}
    (hsteps : 2 ≤ steps)
    (hi : i < steps)
    (hj : j < steps) :
    Proper (relabel (point steps)
        (sampleIndex steps i j, sampleIndex steps (i + 1) (j + 1), sampleIndex steps (i + 1) j))
      ↔ j ≠ 0 := by
  have hnext := next_ne hsteps hi
  rw [← proper_relabel_iff (gridPlace_injective (steps + 1))]
  simp only [Proper, relabel, gridPlace_point (Nat.le_of_lt hj), gridPlace_point hj,
    Nat.mod_eq_of_lt hi]
  by_cases hfirst : j = 0 <;> simp [hfirst, hnext.symm, Nat.ne_of_lt hj]

theorem faces_eq_filter
    {steps : Nat}
    (hsteps : 2 ≤ steps) :
    faces steps = (gridTriangles steps).filter fun f => Proper (relabel (point steps) f) := by
  unfold faces gridTriangles
  rw [List.filter_flatMap]
  refine List.flatMap_congr fun u hu => ?_
  obtain ⟨i, j⟩ := u
  obtain ⟨hi, hj⟩ : i < steps ∧ j < steps := mem_gridPositions.mp hu
  have hlower := proper_lower_iff hsteps hi hj
  have hupper := proper_upper_iff hsteps hi hj
  by_cases hfirst : j = 0 <;> by_cases hlast : j + 1 = steps <;>
    simp_all [cellFaces, cellTriangles]

theorem length_columnFaces
    (steps i : Nat)
    {m : Nat}
    (hm : m < steps) :
    ((List.range (m + 1)).flatMap (cellFaces steps i)).length
      = if m + 1 = steps then 2 * m else 2 * m + 1 := by
  induction m with
  | zero =>
    rw [Nat.zero_add, List.range_one, List.flatMap_singleton]
    by_cases hone : 1 = steps <;> simp [cellFaces, hone]
  | succ m ih =>
    rw [List.range_succ, List.flatMap_append, List.length_append, ih (by omega),
      if_neg (by omega), List.flatMap_singleton]
    by_cases hlast : m + 1 + 1 = steps <;> simp [cellFaces, hlast] <;> omega

theorem length_faces
    {steps : Nat}
    (hsteps : 1 ≤ steps) :
    (faces steps).length = 2 * steps * (steps - 1) := by
  obtain ⟨m, rfl⟩ := Nat.exists_eq_add_of_le' hsteps
  have hcolumn (i : Nat) :
      ((List.range (m + 1)).flatMap (cellFaces (m + 1) i)).length = 2 * m := by
    rw [length_columnFaces (m + 1) i (Nat.lt_succ_self m), if_pos rfl]
  calc
    (faces (m + 1)).length
        = ((List.range (m + 1)).flatMap fun i =>
            (List.range (m + 1)).flatMap (cellFaces (m + 1) i)).length := by
          rw [faces, gridPositions, List.flatMap_assoc]
          simp only [List.flatMap_map]
    _ = 2 * (m + 1) * (m + 1 - 1) := by
          rw [List.length_flatMap]
          simp [hcolumn, Nat.mul_comm, Nat.mul_left_comm]

theorem length_samples
    (center : Vec3 Float)
    (radius : Float)
    (steps : Nat) :
    (samples center radius steps).length = steps * (steps + 1) := by
  simp [samples]

theorem within_faces
    {steps : Nat}
    {f : Face}
    (hf : f ∈ faces steps) :
    Within (steps * (steps + 1)) f := by
  obtain ⟨u, hu, hf⟩ := List.mem_flatMap.mp hf
  obtain ⟨hi, hj⟩ := mem_gridPositions.mp hu
  have hsample (i : Nat) {j : Nat} (hj : j ≤ steps) :
      sampleIndex steps i j < steps * (steps + 1) :=
    gridIndex_lt (Nat.mod_lt i (Nat.zero_lt_of_lt hi)) (Nat.lt_succ_of_le hj)
  simp only [cellFaces, List.mem_append, List.mem_ite_nil_left, List.mem_singleton] at hf
  rcases hf with ⟨-, rfl⟩ | ⟨-, rfl⟩
  · exact ⟨hsample _ (Nat.le_of_lt hj), hsample _ hj, hsample _ hj⟩
  · exact ⟨hsample _ (Nat.le_of_lt hj), hsample _ hj, hsample _ (Nat.le_of_lt hj)⟩

end Sphere

/-! ## The triangles that are drawn -/

theorem map_some_faceCorners
    {samples : List (Vec3 α)}
    {faces : List Face}
    (hfaces : ∀ f ∈ faces, Within samples.length f) :
    (faceCorners samples.toArray faces).map (relabel some)
      = faces.map (relabel fun n => samples[n]?) := by
  induction faces with
  | nil => rfl
  | cons f faces ih =>
    obtain ⟨⟨ha, hb, hc⟩, hrest⟩ := List.forall_mem_cons.mp hfaces
    have hfirst : faceCorners samples.toArray (f :: faces)
        = (samples[f.1], samples[f.2.1], samples[f.2.2]) :: faceCorners samples.toArray faces := by
      simp [faceCorners, ha, hb, hc]
    rw [hfirst, List.map_cons, List.map_cons, ih hrest]
    simp [relabel, ha, hb, hc]

/-- Triangles are those of the faces exactly if they are told so corner by corner. -/
theorem faceCorners_eq_iff
    {samples : List (Vec3 α)}
    {faces : List Face}
    (hfaces : ∀ f ∈ faces, Within samples.length f)
    {triangles : List (Vec3 α × Vec3 α × Vec3 α)} :
    faceCorners samples.toArray faces = triangles
      ↔ triangles.map (relabel some) = faces.map (relabel fun n => samples[n]?) := by
  rw [← map_some_faceCorners hfaces, eq_comm]
  exact ((relabel_injective fun _ _ => Option.some.inj).list_map.eq_iff).symm

/-- The triangles of a torus by its samples and its faces. -/
theorem Torus.triangles?_eq_ok_iff_relabel
    {steps : Nat}
    (hsteps : 3 ≤ steps)
    {center : Vec3 Float}
    {tube ring : Float}
    {triangles : List (Vec3 Float × Vec3 Float × Vec3 Float)} :
    triangles? center tube ring steps = .ok triangles
      ↔ cornerBytes * (2 * steps * steps) ≤ maxArrayBytes
        ∧ triangles.map (relabel some)
          = (faces steps).map (relabel fun n => (samples center tube ring steps)[n]?) := by
  have hfaces : ∀ f ∈ faces steps, Within (samples center tube ring steps).length f := by
    rw [length_samples]
    exact fun _ => within_faces
  rw [triangles?_eq_ok_iff, Int.toNat_natCast, faceCorners_eq_iff hfaces]
  exact and_iff_right (Int.ofNat_le.mpr hsteps)

/-- The triangles of a sphere by its samples and its faces. -/
theorem Sphere.triangles?_eq_ok_iff_relabel
    {steps : Nat}
    (hsteps : 2 ≤ steps)
    {center : Vec3 Float}
    {radius : Float}
    {triangles : List (Vec3 Float × Vec3 Float × Vec3 Float)} :
    triangles? center radius steps = .ok triangles
      ↔ cornerBytes * (2 * steps * (steps - 1)) ≤ maxArrayBytes
        ∧ triangles.map (relabel some)
          = (faces steps).map (relabel fun n => (samples center radius steps)[n]?) := by
  have hfaces : ∀ f ∈ faces steps, Within (samples center radius steps).length f := by
    rw [length_samples]
    exact fun _ => within_faces
  rw [triangles?_eq_ok_iff, Int.toNat_natCast, faceCorners_eq_iff hfaces]
  exact and_iff_right (Int.ofNat_le.mpr hsteps)

/-- From three steps on, a torus and a sphere are closed surfaces: so many triangles of their
samples, each directed edge and its reverse in one of them.  For a sphere the samples of a pole are
one point, and of the triangles of its grid it leaves out those that the poles make degenerate. -/
theorem surfaces_closed
    {steps : Nat}
    (hsteps : 3 ≤ steps) :
    ((∀ center tube ring triangles,
          Torus.triangles? center tube ring steps = .ok triangles
            ↔ cornerBytes * (2 * steps * steps) ≤ maxArrayBytes
              ∧ triangles.map (relabel some) = (Torus.faces steps).map
                (relabel fun n => (Torus.samples center tube ring steps)[n]?))
        ∧ (Torus.faces steps).length = 2 * steps * steps
        ∧ (∀ f ∈ Torus.faces steps, Within (steps * steps) f)
        ∧ ClosedSurface (Torus.faces steps))
      ∧ (∀ center radius triangles,
          Sphere.triangles? center radius steps = .ok triangles
            ↔ cornerBytes * (2 * steps * (steps - 1)) ≤ maxArrayBytes
              ∧ triangles.map (relabel some) = (Sphere.faces steps).map
                (relabel fun n => (Sphere.samples center radius steps)[n]?))
        ∧ (Sphere.faces steps).length = 2 * steps * (steps - 1)
        ∧ (∀ f ∈ Sphere.faces steps, Within (steps * (steps + 1)) f)
        ∧ (∀ m n, Sphere.point steps m = Sphere.point steps n
            ↔ m = n
              ∨ (m % (steps + 1) = 0 ∧ n % (steps + 1) = 0)
              ∨ (m % (steps + 1) = steps ∧ n % (steps + 1) = steps))
        ∧ ClosedSurface ((Sphere.faces steps).map (relabel (Sphere.point steps)))
        ∧ Sphere.faces steps = (Sphere.gridTriangles steps).filter fun f =>
          Proper (relabel (Sphere.point steps) f) :=
  ⟨⟨fun _ _ _ _ => Torus.triangles?_eq_ok_iff_relabel hsteps, Torus.length_faces steps,
      fun _ => Torus.within_faces, Torus.closedSurface_faces hsteps⟩,
    fun _ _ _ => Sphere.triangles?_eq_ok_iff_relabel (by omega),
    Sphere.length_faces (by omega),
    fun _ => Sphere.within_faces, fun _ _ => Sphere.point_eq_iff (by omega),
    Sphere.closedSurface_faces hsteps, Sphere.faces_eq_filter (by omega)⟩

/-- The smallest surfaces: eighteen triangles around a ring, twelve around a ball. -/
theorem surfaces_closed_three :
    (Torus.faces 3).length = 18 ∧ ClosedSurface (Torus.faces 3)
      ∧ (Sphere.faces 3).length = 12
      ∧ ClosedSurface ((Sphere.faces 3).map (relabel (Sphere.point 3))) :=
  have h := surfaces_closed (Nat.le_refl 3)
  ⟨h.1.2.1, h.1.2.2.2, h.2.2.1, h.2.2.2.2.2.1⟩

end Diorama
