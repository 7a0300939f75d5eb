import Diorama.Geometry.Mesh
import Diorama.Proofs.Fallible
import Diorama.Proofs.Geometry.ArrayRows

/-!
# Buffers keep whole primitives

A buffer is filled by edges, by shapes and by arrays of any shape, some of which are refused.  What
is added comes behind the rows that are there, and all of it or nothing: a part of a primitive would
move the borders of all later ones.  So the points can be read off the buffer in groups at any time.

**Main statements.**
* `CutsBy.cut_append`: groups are read off in order, so that what follows does not move a border.
* `PointBuffer.add_eq_ok_iff`: which additions succeed, and what becomes of the rows.
* `buffers_keep_whole_primitives`: both buffers, after any calls.
-/

namespace Diorama

/-! ## Groups of a list -/

/-- A way to cut lists into consecutive groups of one size. -/
structure CutsBy
    {β : Type}
    (group : Nat)
    (cut : List β → List (List β)) : Prop where
  nil : cut [] = []
  cons : ∀ first rest, first.length = group → cut (first ++ rest) = first :: cut rest

/-- A list of whole groups is put together from them. -/
theorem exists_groups
    {β : Type}
    {group : Nat}
    {xs : List β}
    (h : xs.length % group = 0) :
    ∃ groups : List (List β), (∀ g ∈ groups, g.length = group) ∧ groups.flatten = xs := by
  obtain ⟨count, hcount⟩ := Nat.dvd_of_mod_eq_zero h
  clear h
  induction count generalizing xs with
  | zero => exact ⟨[], by simp, (List.eq_nil_of_length_eq_zero hcount).symm⟩
  | succ count ih =>
      rw [Nat.mul_succ] at hcount
      have hfirst : (xs.take group).length = group := by rw [List.length_take]; omega
      have hrest : (xs.drop group).length = group * count := by rw [List.length_drop]; omega
      obtain ⟨groups, hgroups, hflatten⟩ := ih hrest
      refine ⟨xs.take group :: groups, List.forall_mem_cons.mpr ⟨hfirst, hgroups⟩, ?_⟩
      rw [List.flatten_cons, hflatten, List.take_append_drop]

theorem length_flatten_groups
    {β : Type}
    {group : Nat}
    {groups : List (List β)}
    (h : ∀ g ∈ groups, g.length = group) :
    groups.flatten.length = groups.length * group := by
  rw [List.length_flatten, List.map_congr_left h, List.map_const',
    List.sum_replicate_nat]

namespace CutsBy

variable {β : Type} {group : Nat} {cut : List β → List (List β)} (h : CutsBy group cut)

include h

theorem cut_flatten_append
    {groups : List (List β)}
    (hgroups : ∀ g ∈ groups, g.length = group)
    (rest : List β) :
    cut (groups.flatten ++ rest) = groups ++ cut rest := by
  induction groups with
  | nil => rfl
  | cons first groups ih =>
      obtain ⟨hfirst, hgroups⟩ := List.forall_mem_cons.mp hgroups
      rw [List.flatten_cons, List.append_assoc, h.cons _ _ hfirst, ih hgroups, List.cons_append]

theorem cut_flatten
    {groups : List (List β)}
    (hgroups : ∀ g ∈ groups, g.length = group) :
    cut groups.flatten = groups := by
  simpa [h.nil] using h.cut_flatten_append hgroups []

section

variable {xs : List β} (hwhole : xs.length % group = 0)

include hwhole

theorem length_of_mem_cut :
    ∀ g ∈ cut xs, g.length = group := by
  obtain ⟨groups, hgroups, rfl⟩ := exists_groups hwhole
  rwa [h.cut_flatten hgroups]

theorem flatten_cut :
    (cut xs).flatten = xs := by
  obtain ⟨groups, hgroups, rfl⟩ := exists_groups hwhole
  rw [h.cut_flatten hgroups]

theorem length_cut_mul :
    (cut xs).length * group = xs.length := by
  rw [← length_flatten_groups (h.length_of_mem_cut hwhole), h.flatten_cut hwhole]

/-- What follows whole groups leaves them as they are. -/
theorem cut_append
    (rest : List β) :
    cut (xs ++ rest) = cut xs ++ cut rest := by
  obtain ⟨groups, hgroups, rfl⟩ := exists_groups hwhole
  rw [h.cut_flatten_append hgroups, h.cut_flatten hgroups]

theorem cut_map
    (f : β → β) :
    cut (xs.map f) = (cut xs).map (List.map f) := by
  obtain ⟨groups, hgroups, rfl⟩ := exists_groups hwhole
  have hmapped : ∀ g ∈ groups.map (List.map f), g.length = group := by
    rw [List.forall_mem_map]
    exact fun g hg => (List.length_map f).trans (hgroups g hg)
  rw [h.cut_flatten hgroups, List.map_flatten, h.cut_flatten hmapped]

end
end CutsBy

/-- The two ends of an edge. -/
def edgeEnds
    {β : Type}
    (e : β × β) :
    List β :=
  [e.1, e.2]

/-- The three corners of a triangle. -/
def triangleCorners
    {β : Type}
    (t : β × β × β) :
    List β :=
  [t.1, t.2.1, t.2.2]

theorem cutsBy_pairs
    {β : Type} :
    CutsBy 2 fun xs : List β => (pairs xs).map edgeEnds where
  nil := rfl
  cons first rest hlength := by
    match first, hlength with
    | [a, b], _ => rfl

theorem cutsBy_triples
    {β : Type} :
    CutsBy 3 fun xs : List β => (triples xs).map triangleCorners where
  nil := rfl
  cons first rest hlength := by
    match first, hlength with
    | [a, b, c], _ => rfl

/-! ## Rows of a buffer -/

theorem Point.toList_injective
    {α : Type} :
    (Point.toList : Point α → List α).Injective := by
  rintro ⟨x, y, z, w⟩ ⟨x', y', z', w'⟩ h
  simpa [Point.toList] using h

namespace PointBuffer

variable {α : Type} {group : Nat}

/-- The points as rows of numbers. -/
def rows
    (b : PointBuffer α group) :
    List (List α) :=
  b.points.map Point.toList

theorem length_rows
    (b : PointBuffer α group) :
    b.rows.length = b.points.length :=
  List.length_map _

theorem rows_inj
    {b c : PointBuffer α group} :
    b.rows = c.rows ↔ b = c := by
  obtain ⟨points, whole⟩ := b
  obtain ⟨others, whole'⟩ := c
  simp only [rows, mk.injEq]
  exact List.map_inj_right fun _ _ h => Point.toList_injective h

theorem append?_eq_some_iff
    {b after : PointBuffer α group}
    {points : List (Point α)} :
    b.append? points = some after
      ↔ points.length % group = 0 ∧ after.rows = b.rows ++ points.map Point.toList := by
  rw [append?]
  by_cases hwhole : points.length % group = 0
  · rw [dif_pos hwhole, Option.some.injEq, ← rows_inj, eq_comm, and_iff_right hwhole]
    simp [rows]
  · rw [dif_neg hwhole]
    exact iff_of_false (by simp) fun h => hwhole h.1

variable [Scalar α]

/-- An array is added if its rows make whole groups; a row of three columns is completed. -/
theorem extend_eq_ok_iff
    {b after : PointBuffer α group}
    {a : PointArray α} :
    b.extend a = .ok after
      ↔ ∃ rows, a.HasRows rows ∧ rows.length % group = 0
        ∧ after.rows = b.rows ++ rows.map PointArray.completed := by
  have hextend : b.extend a = .ok after
      ↔ ∃ points, a.points = .ok points ∧ b.append? points = some after := by
    rw [extend]
    cases a.points with
    | error e => simp
    | ok points => cases happend : b.append? points <;> simp [happend]
  rw [hextend]
  constructor
  · rintro ⟨points, hpoints, happend⟩
    obtain ⟨rows, hrows, rfl⟩ := PointArray.points_eq_ok_iff.mp hpoints
    rw [append?_eq_some_iff, PointArray.length_filterMap_pointOfRow? hrows.isWidth,
      PointArray.map_toList_filterMap_pointOfRow? hrows.isWidth] at happend
    exact ⟨rows, hrows, happend⟩
  · rintro ⟨rows, hrows, happend⟩
    refine ⟨_, PointArray.points_eq_ok_iff.mpr ⟨rows, hrows, rfl⟩, ?_⟩
    rwa [append?_eq_some_iff, PointArray.length_filterMap_pointOfRow? hrows.isWidth,
      PointArray.map_toList_filterMap_pointOfRow? hrows.isWidth]

/-- Two points make no triangle. -/
example : (empty : TriangleBuffer Rat).extend (.ofRows [[0, 0, 0], [1, 1, 1]])
    = .error (.notMultipleOf 3) := by
  rfl

theorem rows_addEdge
    (b : EdgeBuffer α)
    (start stop : Vec3 α) :
    (EdgeBuffer.addEdge b start stop).rows
      = b.rows ++ [start.toList, stop.toList].map PointArray.completed := by
  simp [rows, EdgeBuffer.addEdge]

theorem rows_addTriangles
    (b : TriangleBuffer α)
    (ts : List (Vec3 α × Vec3 α × Vec3 α)) :
    (TriangleBuffer.addTriangles b ts).rows
      = b.rows ++ ((flattenTriples ts).map Vec3.toList).map PointArray.completed := by
  simp [rows, TriangleBuffer.addTriangles]

end PointBuffer

/-! ## Calls on a buffer -/

/-- What can be added to a buffer of groups of a size. -/
inductive Addition : Nat → Type
  | array {group : Nat} (a : PointArray Float) : Addition group
  | edge (start stop : Vec3 Float) : Addition 2
  | polygon (p q r : PointArray Float) : Addition 3
  | box (corner size : Vec3 Float) : Addition 3
  | sphere (center : Vec3 Float) (radius : Float) (steps : Int) : Addition 3
  | torus (center : Vec3 Float) (tube ring : Float) (steps : Int) : Addition 3

/-- A call that may change a buffer. -/
inductive BufferCall (group : Nat)
  | add (a : Addition group)
  | transform (m : Transform Float)
  | clear

/-- Why a call is refused: an array of another shape, or a surface that cannot be sampled. -/
inductive BufferRefusal
  | shape (error : ShapeError)
  | crash (crash : Crash)

namespace PointBuffer

/-- Append the triangles of a surface, unless it could not be sampled. -/
def addSurface
    (b : TriangleBuffer Float)
    (ts : Except Crash (List (Vec3 Float × Vec3 Float × Vec3 Float))) :
    Except BufferRefusal (TriangleBuffer Float) :=
  (ts.map (TriangleBuffer.addTriangles b)).mapError .crash

/-- Add to a buffer. -/
def add :
    {group : Nat} → PointBuffer Float group → Addition group →
      Except BufferRefusal (PointBuffer Float group)
  | _, b, .array a => (b.extend a).mapError .shape
  | _, b, .edge start stop => .ok (EdgeBuffer.addEdge b start stop)
  | _, b, .polygon p q r => (b.extend (.array [p, q, r])).mapError .shape
  | _, b, .box corner size => addSurface b (.ok (Box.triangles corner size))
  | _, b, .sphere center radius steps => addSurface b (Sphere.triangles? center radius steps)
  | _, b, .torus center tube ring steps => addSurface b (Torus.triangles? center tube ring steps)

variable {group : Nat}

/-- What becomes of a buffer in a call. -/
def perform
    (b : PointBuffer Float group) :
    BufferCall group → Except BufferRefusal (PointBuffer Float group)
  | .add a => b.add a
  | .transform m => .ok (b.transform m)
  | .clear => .ok empty

/-- The buffer after a call; one that is refused leaves it. -/
def call
    (b : PointBuffer Float group)
    (c : BufferCall group) :
    PointBuffer Float group :=
  (b.perform c).toOption.getD b

/-- The buffer after calls in order. -/
def calls
    (b : PointBuffer Float group)
    (cs : List (BufferCall group)) :
    PointBuffer Float group :=
  cs.foldl call b

end PointBuffer

/-- The rows of the triangles of a surface. -/
def SurfaceRows
    (ts : Except Crash (List (Vec3 Float × Vec3 Float × Vec3 Float)))
    (rows : List (List Float)) :
    Prop :=
  ∃ triangles, ts = .ok triangles ∧ rows = (flattenTriples triangles).map Vec3.toList

/-- The rows that are to be added. -/
def Addition.HasRows :
    {group : Nat} → Addition group → List (List Float) → Prop
  | _, .array a, rows => a.HasRows rows
  | _, .edge start stop, rows => rows = [start.toList, stop.toList]
  | _, .polygon p q r, rows => (PointArray.array [p, q, r]).HasRows rows
  | _, .box corner size, rows => SurfaceRows (.ok (Box.triangles corner size)) rows
  | _, .sphere center radius steps, rows => SurfaceRows (Sphere.triangles? center radius steps) rows
  | _, .torus center tube ring steps, rows =>
      SurfaceRows (Torus.triangles? center tube ring steps) rows

namespace PointBuffer

theorem addSurface_eq_ok_iff
    {b after : TriangleBuffer Float}
    {ts : Except Crash (List (Vec3 Float × Vec3 Float × Vec3 Float))} :
    addSurface b ts = .ok after
      ↔ ∃ rows, SurfaceRows ts rows ∧ rows.length % 3 = 0
        ∧ after.rows = b.rows ++ rows.map PointArray.completed := by
  have hadd : addSurface b ts = .ok after
      ↔ ∃ triangles, ts = .ok triangles ∧ TriangleBuffer.addTriangles b triangles = after := by
    rw [addSurface, mapError_eq_ok_iff]
    cases ts <;> simp [Except.map]
  rw [hadd]
  constructor
  · rintro ⟨triangles, rfl, rfl⟩
    refine ⟨_, ⟨triangles, rfl, rfl⟩, ?_, rows_addTriangles b triangles⟩
    rw [List.length_map, length_flattenTriples, Nat.mul_mod_right]
  · rintro ⟨_, ⟨triangles, rfl, rfl⟩, -, hafter⟩
    rw [← rows_addTriangles, rows_inj] at hafter
    exact ⟨triangles, rfl, hafter.symm⟩

/-- An addition succeeds if there are rows to add and they make whole groups.  They are appended,
those of three columns with one for their fourth. -/
theorem add_eq_ok_iff
    {group : Nat}
    {b after : PointBuffer Float group}
    {a : Addition group} :
    b.add a = .ok after
      ↔ ∃ rows, a.HasRows rows ∧ rows.length % group = 0
        ∧ after.rows = b.rows ++ rows.map PointArray.completed := by
  cases a with
  | array a => exact mapError_eq_ok_iff.trans extend_eq_ok_iff
  | polygon p q r => exact mapError_eq_ok_iff.trans extend_eq_ok_iff
  | box corner size => exact addSurface_eq_ok_iff
  | sphere center radius steps => exact addSurface_eq_ok_iff
  | torus center tube ring steps => exact addSurface_eq_ok_iff
  | edge start stop =>
      simp only [add, Addition.HasRows, Except.ok.injEq]
      constructor
      · rintro rfl
        exact ⟨[start.toList, stop.toList], rfl, by simp, rows_addEdge b start stop⟩
      · rintro ⟨_, rfl, -, hafter⟩
        rw [← rows_addEdge, rows_inj] at hafter
        exact hafter.symm

/-! ## After any calls -/

section

variable {group : Nat} (b : PointBuffer Float group)

/-- How the points of a buffer stand: as rows of four columns, and in the groups read off it. -/
structure InGroups
    (primitives : List (List (Point Float))) : Prop where
  whole : b.rows.length % group = 0
  columns : ∀ row ∈ b.rows, row.length = 4
  size_eq : b.size = b.rows.length / group
  isEmpty_iff : b.isEmpty = true ↔ b.rows = []
  length_eq : primitives.length = b.size
  length_of_mem : ∀ g ∈ primitives, g.length = group
  flatten_eq : primitives.flatten.map Point.toList = b.rows

/-- What calls do to the rows of a buffer and to the groups read off it. -/
structure KeepsGroups
    (primitives : PointBuffer Float group → List (List (Point Float))) : Prop where
  refused : ∀ c refusal, b.perform c = .error refusal → b.call c = b
  added : ∀ a after, b.perform (.add a) = .ok after
    ↔ ∃ rows, a.HasRows rows ∧ rows.length % group = 0
      ∧ after.rows = b.rows ++ rows.map PointArray.completed
  grown : ∀ additions : List (Addition group),
    primitives b <+: primitives (b.calls (additions.map .add))
  transformed : ∀ m, ∃ after, b.perform (.transform m) = .ok after
    ∧ after.rows.length = b.rows.length ∧ primitives after = (primitives b).map (List.map m.apply)
  cleared : ∃ after, b.perform .clear = .ok after ∧ after.rows = []

variable {b}

theorem call_of_ok
    {c : BufferCall group}
    {after : PointBuffer Float group}
    (h : b.perform c = .ok after) :
    b.call c = after := by
  rw [call, h]
  rfl

theorem call_of_error
    {c : BufferCall group}
    {refusal : BufferRefusal}
    (h : b.perform c = .error refusal) :
    b.call c = b := by
  rw [call, h]
  rfl

/-- Points come behind those of a buffer as rows behind its rows. -/
theorem exists_points_of_rows
    {after : PointBuffer Float group}
    {behind : List (List Float)}
    (h : after.rows = b.rows ++ behind) :
    ∃ added, after.points = b.points ++ added := by
  obtain ⟨kept, added, hpoints, hkept, -⟩ := List.map_eq_append_iff.mp h
  rw [rows, List.map_inj_right fun _ _ heq => Point.toList_injective heq] at hkept
  exact ⟨added, hkept ▸ hpoints⟩

theorem exists_points_call_add
    (b : PointBuffer Float group)
    (a : Addition group) :
    ∃ added, (b.call (.add a)).points = b.points ++ added := by
  cases hadd : b.perform (.add a) with
  | error refusal => exact ⟨[], by rw [call_of_error hadd, List.append_nil]⟩
  | ok after =>
      obtain ⟨rows, -, -, hrows⟩ := add_eq_ok_iff.mp hadd
      rw [call_of_ok hadd]
      exact exists_points_of_rows hrows

variable {cut : List (Point Float) → List (List (Point Float))} (h : CutsBy group cut)

include h

theorem inGroups
    (hgroup : 0 < group)
    (b : PointBuffer Float group) :
    b.InGroups (cut b.points) where
  whole := by rw [length_rows]; exact b.whole
  columns := by
    rw [rows, List.forall_mem_map]
    exact fun _ _ => rfl
  size_eq := by rw [length_rows, size]
  isEmpty_iff := by rw [isEmpty, List.isEmpty_iff, rows, List.map_eq_nil_iff]
  length_eq := by rw [size, ← h.length_cut_mul b.whole, Nat.mul_div_cancel _ hgroup]
  length_of_mem := h.length_of_mem_cut b.whole
  flatten_eq := by rw [h.flatten_cut b.whole, rows]

/-- Whatever is added later, the groups that are there keep their borders. -/
theorem cut_prefix_calls_add
    (b : PointBuffer Float group)
    (additions : List (Addition group)) :
    cut b.points <+: cut (b.calls (additions.map .add)).points := by
  induction additions generalizing b with
  | nil => exact List.prefix_rfl
  | cons a additions ih =>
      obtain ⟨added, hadded⟩ := b.exists_points_call_add a
      have hfirst : cut b.points <+: cut (b.call (.add a)).points := by
        rw [hadded, h.cut_append b.whole]
        exact List.prefix_append _ _
      exact hfirst.trans (ih (b.call (.add a)))

theorem keepsGroups
    (b : PointBuffer Float group) :
    b.KeepsGroups fun c => cut c.points where
  refused _ _ := call_of_error
  added _ _ := add_eq_ok_iff
  grown := cut_prefix_calls_add h b
  transformed m := by
    refine ⟨b.transform m, rfl, ?_, h.cut_map b.whole m.apply⟩
    rw [length_rows, length_rows, points_transform, List.length_map]
  cleared := ⟨empty, rfl, rfl⟩

end

end PointBuffer

/--
After any calls, refused ones among them, a buffer of edges and one of triangles hold whole
primitives: rows of four columns, of which the edges or triangles are consecutive groups.  A call
that is refused changes nothing.  An addition succeeds exactly if it has rows and these make whole
groups, and appends them; later additions leave the primitives that are there.  A transform acts on
the points of each primitive.
-/
theorem buffers_keep_whole_primitives :
    (∀ cs : List (BufferCall 2),
      let b : EdgeBuffer Float := PointBuffer.empty.calls cs
      b.InGroups ((EdgeBuffer.edges b).map edgeEnds)
        ∧ b.KeepsGroups fun c => (EdgeBuffer.edges c).map edgeEnds)
    ∧ ∀ cs : List (BufferCall 3),
      let b : TriangleBuffer Float := PointBuffer.empty.calls cs
      b.InGroups ((TriangleBuffer.triangles b).map triangleCorners)
        ∧ b.KeepsGroups fun c => (TriangleBuffer.triangles c).map triangleCorners := by
  constructor
  · intro cs b
    exact ⟨PointBuffer.inGroups cutsBy_pairs (by decide) b, PointBuffer.keepsGroups cutsBy_pairs b⟩
  · intro cs b
    exact ⟨PointBuffer.inGroups cutsBy_triples (by decide) b,
      PointBuffer.keepsGroups cutsBy_triples b⟩

end Diorama
