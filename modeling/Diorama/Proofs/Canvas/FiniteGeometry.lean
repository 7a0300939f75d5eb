import Diorama.Proofs.Canvas.DepthBuffer
import Diorama.Proofs.Canvas.FloatClipping
import Diorama.Proofs.Canvas.Stepping

/-!
# Drawing finite geometry

Between finite points a difference may still be infinite.  A line is clipped before it is rounded
to pixels, which leaves points that can be rounded if both of its extents are finite; an infinite
extent leaves none.  A triangle is not clipped: the ends of its spans have to be finite, and columns
are counted in words of 64 bits from the left end on.

**Main statements.**
* `exists_lineFragments_iff`: a line is drawn exactly where nothing of it is left or its extents
  are finite.
* `exists_triangleFragments_iff`: a triangle is drawn exactly where the spans of its rows fit.
* `finite_geometry`: both together, and that triangles of columns up to `2 ^ 61` are drawn.
-/

namespace Diorama

open Double
open Number (Exact)

/-- A canvas of a size that canvases are made with. -/
structure Canvas.Sized
    {α : Type}
    (c : Canvas α) : Prop where
  width_pos : 0 < c.width
  width_le : c.width ≤ maxDimension
  height_le : c.height ≤ maxDimension

theorem Canvas.sized_of_new?
    {α : Type}
    {width height : Int}
    {background : Colour}
    {c : Canvas α}
    (h : Canvas.new? width height background = .ok c) :
    c.Sized := by
  unfold new? at h
  split at h
  · cases h
  · split at h
    · cases h
    · split at h
      · cases h
        constructor <;> simp only [blank] <;> omega
      · cases h

section Whole

variable {x : Float} {n : Int}

theorem exists_nearest_iff :
    (∃ n, Scalar.nearest x = .ok n) ↔ x.isFinite = true :=
  exists_toInt_iff _

theorem exists_floor_iff :
    (∃ n, Scalar.floor x = .ok n) ↔ x.isFinite = true :=
  exists_toInt_iff fun negative num den =>
    if negative then (num + den - 1) / den else num / den

theorem Crash.whole_eq_ok_iff
    {result : Except Number.Unroundable Int} :
    Crash.whole result = .ok n ↔ result = .ok n := by
  cases result <;> simp [Crash.whole]

/-- A whole number below the largest double, and somewhat above it, is a divisor. -/
theorem exists_divisor
    (hnonneg : 0 ≤ n)
    (hn : (n : ℝ) < largest + overflowGap) :
    ∃ d, @Scalar.divisor? Float _ n = some d := by
  have hfinite : (Number.ofInt n).isFinite = true :=
    (rounds_ofInt n).finite (by rwa [abs_of_nonneg (by exact_mod_cast hnonneg)])
  refine ⟨Number.ofInt n, ?_⟩
  change (if (Number.ofInt n).isFinite then some (Number.ofInt n) else none) = _
  rw [if_pos hfinite]

end Whole

/-! ## Lines -/

section Lines

variable {width height : Nat} {s clipped : Segment Float}

/-- The border of a canvas is not far away. -/
theorem bounded_border
    {size : Nat}
    (hsize : size ≤ maxDimension) :
    Double.Bounded (Scalar.ofInt size - Scalar.half) (2 ^ (14 : Int)) := by
  have hsize' : (size : ℝ) ≤ 2 ^ (13 : Int) := by
    rw [zpow_ofNat]
    exact_mod_cast hsize
  have hwhole : Double.Bounded (Scalar.ofInt size) (2 ^ (13 : Int)) := by
    refine (rounds_ofInt size).bounded (representable_zpow (by decide))
      (two_zpow_le_largest (by decide)) ?_
    rwa [Int.cast_natCast, Nat.abs_cast]
  have hhalf : Double.Bounded Scalar.half (2 ^ (0 : Int)) := by
    refine ⟨Segment.value_half.1, ?_⟩
    rw [Segment.value_half.2]
    norm_num
  exact hwhole.sub hhalf (.zpow (by decide) (by decide)) (by norm_num)

theorem value_unit :
    ((Scalar.zero : Float).isFinite = true ∧ value Scalar.zero = 0)
      ∧ (Scalar.one : Float).isFinite = true ∧ value Scalar.one = 1 := by
  have hexact : Exact.ofFloat Scalar.one = .finite false (2 ^ 52) (-52) := by decide +kernel
  obtain ⟨hone, hvalue⟩ := value_of_exact hexact
  refine ⟨⟨rfl, rfl⟩, hone, ?_⟩
  rw [hvalue]
  norm_num

theorem proper_unit :
    (⟨Scalar.zero, Scalar.one⟩ : Segment.Part Float).Proper := by
  obtain ⟨⟨hzero, hzero'⟩, hone, hone'⟩ := value_unit
  refine ⟨hzero, hone, ?_, ?_, ?_⟩ <;> simp [hzero', hone']

/-- Clipping leaves of a segment with finite extents what can be rounded to pixels. -/
theorem bounded_clip
    (hwidth : width ≤ maxDimension)
    (hheight : height ≤ maxDimension)
    (hx : s.start.x.isFinite = true)
    (hy : s.start.y.isFinite = true)
    (hdx : (s.stop.x - s.start.x).isFinite = true)
    (hdy : (s.stop.y - s.start.y).isFinite = true)
    (h : s.clip width height = some clipped) :
    (Double.Bounded clipped.start.x Segment.farthest
        ∧ Double.Bounded clipped.start.y Segment.farthest)
      ∧ Double.Bounded clipped.stop.x Segment.farthest
      ∧ Double.Bounded clipped.stop.y Segment.farthest := by
  have hw := bounded_border hwidth
  have hh := bounded_border hheight
  obtain ⟨part, hpart, rfl⟩ := Option.map_eq_some_iff.mp h
  have hcut := Segment.cut_foldlM (s.sides width height) proper_unit ?_ hpart
  · obtain ⟨hproper, -, hinside⟩ := hcut
    simp only [Segment.sides, List.forall_mem_cons] at hinside
    obtain ⟨hleft, hright, hbottom, htop, -⟩ := hinside
    have hcolumn : part.CutAcross _ _ _ := ⟨hx, hdx, hw, hproper, hleft, hright⟩
    have hrow : part.CutAcross _ _ _ := ⟨hy, hdy, hh, hproper, hbottom, htop⟩
    exact ⟨⟨hcolumn.bounded hproper.has_first, hrow.bounded hproper.has_first⟩,
      hcolumn.bounded hproper.has_last, hrow.bounded hproper.has_last⟩
  · simp only [Segment.sides, List.forall_mem_cons, List.not_mem_nil, false_implies, implies_true,
      and_true]
    refine ⟨⟨?_, (Segment.nearest_add_half hx).1⟩, ⟨hdx, (Segment.nearest_border_sub hx hw).1⟩,
      ⟨?_, (Segment.nearest_add_half hy).1⟩, ⟨hdy, (Segment.nearest_border_sub hy hh).1⟩⟩
    · exact (isFinite_neg_iff _).trans hdx
    · exact (isFinite_neg_iff _).trans hdy

/-- Bounded ends are a number of steps apart that is still a divisor. -/
theorem abs_steps_lt
    {x y : Float}
    {m n : Int}
    (hx : Double.Bounded x Segment.farthest)
    (hy : Double.Bounded y Segment.farthest)
    (hm : Scalar.nearest x = .ok m)
    (hn : Scalar.nearest y = .ok n) :
    (((n - m).natAbs : Int) : ℝ) < largest + overflowGap := by
  have hnear : |(m : ℝ) - value x| ≤ 1 / 2 := abs_nearest_sub_le hm
  have hnear' : |(n : ℝ) - value y| ≤ 1 / 2 := abs_nearest_sub_le hn
  have hgap : (1 : ℝ) < overflowGap := one_lt_zpow₀ one_lt_two (by decide)
  have hx' := hx.abs_le
  have hy' := hy.abs_le
  rw [Int.natCast_natAbs, Int.cast_abs, Int.cast_sub]
  rw [abs_le] at hnear hnear' hx' hy'
  rw [abs_lt]
  constructor <;> linarith [Segment.two_mul_farthest]

theorem exists_fragments
    (hstart : Double.Bounded clipped.start.x Segment.farthest
      ∧ Double.Bounded clipped.start.y Segment.farthest)
    (hstop : Double.Bounded clipped.stop.x Segment.farthest
      ∧ Double.Bounded clipped.stop.y Segment.farthest) :
    ∃ fragments, clipped.fragments = .ok fragments := by
  obtain ⟨xa, hxa⟩ := exists_nearest_iff.mpr hstart.1.finite
  obtain ⟨ya, hya⟩ := exists_nearest_iff.mpr hstart.2.finite
  obtain ⟨xb, hxb⟩ := exists_nearest_iff.mpr hstop.1.finite
  obtain ⟨yb, hyb⟩ := exists_nearest_iff.mpr hstop.2.finite
  rw [Segment.fragments_eq ⟨hxa, hya, hxb, hyb⟩ rfl]
  cases hrise : clipped.rise? (max (xb - xa).natAbs (yb - ya).natAbs) with
  | some rise => exact ⟨_, rfl⟩
  | none =>
      obtain ⟨-, hdivisor⟩ := Segment.rise?_eq_none_iff.mp hrise
      have hcolumns := abs_steps_lt hstart.1 hstop.1 hxa hxb
      have hrows := abs_steps_lt hstart.2 hstop.2 hya hyb
      have hsteps : (((max (xb - xa).natAbs (yb - ya).natAbs : Nat) : Int) : ℝ)
          < largest + overflowGap := by
        rcases max_choice (xb - xa).natAbs (yb - ya).natAbs with hmax | hmax <;> rw [hmax]
        · exact hcolumns
        · exact hrows
      obtain ⟨d, hd⟩ := exists_divisor (Int.natCast_nonneg _) hsteps
      rw [hdivisor] at hd
      cases hd

/-- What was rounded to pixels was finite. -/
theorem isFinite_of_fragments
    {fragments : List (Fragment Float)}
    (h : clipped.fragments = .ok fragments) :
    clipped.start.x.isFinite = true ∧ clipped.start.y.isFinite = true := by
  obtain ⟨xa, hxa, h⟩ := bind_eq_ok_iff.mp h
  obtain ⟨ya, hya, -⟩ := bind_eq_ok_iff.mp h
  exact ⟨exists_nearest_iff.mp ⟨xa, Crash.whole_eq_ok_iff.mp hxa⟩,
    exists_nearest_iff.mp ⟨ya, Crash.whole_eq_ok_iff.mp hya⟩⟩

/-- A line from a finite point is drawn unless something of it is left and an extent is infinite. -/
theorem exists_lineFragments_iff
    (hwidth : width ≤ maxDimension)
    (hheight : height ≤ maxDimension)
    (hx : s.start.x.isFinite = true)
    (hy : s.start.y.isFinite = true) :
    (∃ fragments, lineFragments width height s = .ok fragments)
      ↔ s.clip width height = none
        ∨ (s.stop.x - s.start.x).isFinite = true ∧ (s.stop.y - s.start.y).isFinite = true := by
  unfold lineFragments
  cases hclip : s.clip width height with
  | none => exact iff_of_true ⟨[], rfl⟩ (.inl rfl)
  | some clipped =>
      simp only [reduceCtorEq, false_or]
      constructor
      · rintro ⟨fragments, hfragments⟩
        obtain ⟨hstart, hstart'⟩ := isFinite_of_fragments hfragments
        obtain ⟨part, -, rfl⟩ := Option.map_eq_some_iff.mp hclip
        exact ⟨(isFinite_of_mul (isFinite_of_add hstart).2).2,
          (isFinite_of_mul (isFinite_of_add hstart').2).2⟩
      · rintro ⟨hdx, hdy⟩
        obtain ⟨hstart, hstop⟩ := bounded_clip hwidth hheight hx hy hdx hdy hclip
        exact exists_fragments hstart hstop

end Lines

/-! ## Spans -/

/-- A span with finite ends that starts within the columns of a word if it reaches column zero. -/
def SpanFits
    (a b : SpanEnd Float) :
    Prop :=
  ∃ first last, Scalar.nearest (spanSides a b).1.x = .ok first
    ∧ Scalar.nearest (spanSides a b).2.x = .ok last
    ∧ (first < -halfWord → last < 0)

section Spans

variable {width height : Nat} {a b : SpanEnd Float} {first last : Int}

/-- From a first column within a word on, every visible column has a depth. -/
theorem exists_spanDepth
    {x : Float}
    {column : Int}
    (hlast : Scalar.nearest x = .ok last)
    (hfirst : -halfWord ≤ first)
    (hcolumn : first ≤ column)
    (hvisible : column < maxDimension) :
    ∃ depth, spanDepth a b first last column = .ok depth := by
  unfold spanDepth
  split
  · rename_i hwide
    have hfits : fitsWord first = true := by
      have hwide : (maxDimension : Int) < halfWord := by decide
      simp only [fitsWord, Bool.and_eq_true, decide_eq_true_iff]
      omega
    have hoffset : @Scalar.columnOffset? Float _ first column
        = some (Number.ofInt ((column - first).bmod (2 * halfWord.toNat))) := if_pos hfits
    have hwidth : ((last - first : Int) : ℝ) < largest + overflowGap := by
      have hnear : |(last : ℝ) - value x| ≤ 1 / 2 := abs_nearest_sub_le hlast
      have hx := (le_abs_self (value x)).trans (abs_value_le x)
      have hfirst : (-halfWord : ℝ) ≤ first := by exact_mod_cast hfirst
      have hword : (halfWord : ℝ) + 1 < overflowGap := by
        have hpower : (2 : ℝ) ^ (64 : Int) < overflowGap :=
          zpow_lt_zpow_right₀ one_lt_two (by decide)
        refine lt_trans ?_ hpower
        rw [halfWord]
        norm_num
      rw [Int.cast_sub]
      rw [abs_le] at hnear
      linarith
    obtain ⟨d, hd⟩ := exists_divisor (by omega) hwidth
    rw [hoffset, hd]
    exact ⟨_, rfl⟩
  · exact ⟨_, rfl⟩

/-- A span can be drawn exactly where it fits. -/
theorem exists_spanFragments_iff
    (hpos : 0 < width)
    (hwidth : width ≤ maxDimension)
    (y : Int) :
    (∃ fragments, spanFragments width y a b = .ok fragments) ↔ SpanFits a b := by
  simp only [spanFragments_eq_ok, Crash.whole_eq_ok_iff]
  constructor
  · rintro ⟨fragments, first, last, hfirst, hlast, hfragments⟩
    refine ⟨first, last, hfirst, hlast, fun hfar => ?_⟩
    by_contra hreach
    have hcolumns := Crash.exists_mapM_eq_ok_iff.mp ⟨fragments, hfragments⟩
    have hhalf : 0 < halfWord := by decide
    obtain ⟨f, hf⟩ := hcolumns 0 (mem_columns.mpr (by omega))
    obtain ⟨depth, hdepth, -⟩ := bind_eq_ok_iff.mp hf
    have hfits : ¬fitsWord first = true := by
      simp only [fitsWord, Bool.and_eq_true, decide_eq_true_iff]
      omega
    have hoffset : @Scalar.columnOffset? Float _ first 0 = none := if_neg hfits
    rw [spanDepth, if_pos (by omega), hoffset] at hdepth
    cases hdepth
  · rintro ⟨first, last, hfirst, hlast, hfits⟩
    have hcolumns : ∀ x ∈ columns (max first 0) (min last (width - 1)), ∃ f,
        columnFragment y (spanDepth (spanSides a b).1 (spanSides a b).2 first last) x = .ok f := by
      intro x hx
      rw [mem_columns] at hx
      obtain ⟨depth, hdepth⟩ := exists_spanDepth (a := (spanSides a b).1) (b := (spanSides a b).2)
        hlast (by omega : -halfWord ≤ first) (by omega : first ≤ x) (by omega)
      exact ⟨⟨x, y, depth⟩, bind_eq_ok_iff.mpr ⟨depth, hdepth, rfl⟩⟩
    obtain ⟨fragments, hfragments⟩ := Crash.exists_mapM_eq_ok_iff.mpr hcolumns
    exact ⟨fragments, first, last, hfirst, hlast, hfragments⟩

/-- A span between columns that doubles count one by one fits. -/
theorem spanFits_of_bounded
    (ha : Double.Bounded a.x (2 ^ (63 : Int)))
    (hb : Double.Bounded b.x (2 ^ (63 : Int))) :
    SpanFits a b := by
  have hsides : Double.Bounded (spanSides a b).1.x (2 ^ (63 : Int))
      ∧ Double.Bounded (spanSides a b).2.x (2 ^ (63 : Int)) := by
    unfold spanSides
    split
    · exact ⟨hb, ha⟩
    · exact ⟨ha, hb⟩
  obtain ⟨first, hfirst⟩ := exists_nearest_iff.mpr hsides.1.finite
  obtain ⟨last, hlast⟩ := exists_nearest_iff.mpr hsides.2.finite
  refine ⟨first, last, hfirst, hlast, fun hfar => absurd hfar ?_⟩
  have hnear : |(first : ℝ) - value (spanSides a b).1.x| ≤ 1 / 2 := abs_nearest_sub_le hfirst
  have hbound := hsides.1.abs_le
  rw [abs_le] at hnear hbound
  have hword : (-halfWord : ℝ) - 1 < first := by
    rw [halfWord]
    norm_num at hbound ⊢
    linarith
  have hword : -halfWord - 1 < first := by exact_mod_cast hword
  omega

end Spans

/-! ## Triangles -/

/-- The spans of the rows of a triangle fit. -/
def RowsFit
    (height : Nat)
    (p q r : Vec3 Float) :
    Prop :=
  let (bottom, middle, top) := sortByHeight p q r
  ∃ rows, triangleRows height bottom top = .ok rows
    ∧ ∀ y ∈ rows, SpanFits (spanEnds bottom middle top y).1 (spanEnds bottom middle top y).2

section Triangles

variable {width height : Nat} {p q r : Vec3 Float}

/-- Sorted vertices are the vertices. -/
theorem forall_sortByHeight
    {P : Vec3 Float → Prop}
    (hp : P p)
    (hq : P q)
    (hr : P r) :
    P (sortByHeight p q r).1 ∧ P (sortByHeight p q r).2.1 ∧ P (sortByHeight p q r).2.2 := by
  unfold sortByHeight
  split_ifs <;> exact ⟨‹_›, ‹_›, ‹_›⟩

theorem exists_triangleRows
    (height : Nat)
    (bottom top : Vec3 Float)
    (hbottom : bottom.y.isFinite = true)
    (htop : top.y.isFinite = true) :
    ∃ rows, triangleRows height bottom top = .ok rows ∧ ∀ y ∈ rows, 0 ≤ y ∧ y < height := by
  obtain ⟨first, hfirst⟩ := exists_floor_iff.mpr (Segment.nearest_add_half hbottom).1
  obtain ⟨last, hlast⟩ := exists_floor_iff.mpr (Segment.nearest_add_half htop).1
  refine ⟨columns (max first 0) (min last (height - 1)), ?_, fun y hy => ?_⟩
  · exact bind_eq_ok_iff.mpr ⟨first, Crash.whole_eq_ok_iff.mpr hfirst,
      bind_eq_ok_iff.mpr ⟨last, Crash.whole_eq_ok_iff.mpr hlast, rfl⟩⟩
  · rw [mem_columns] at hy
    omega

/-- A triangle of finite heights can be drawn exactly where the spans of its rows fit. -/
theorem exists_triangleFragments_iff
    (height : Nat)
    (hpos : 0 < width)
    (hwidth : width ≤ maxDimension)
    (hp : p.y.isFinite = true)
    (hq : q.y.isFinite = true)
    (hr : r.y.isFinite = true) :
    (∃ fragments, triangleFragments width height p q r = .ok fragments) ↔ RowsFit height p q r := by
  have hsorted := forall_sortByHeight (P := fun v => v.y.isFinite = true) hp hq hr
  unfold triangleFragments RowsFit
  generalize sortByHeight p q r = vertices at hsorted ⊢
  obtain ⟨bottom, middle, top⟩ := vertices
  obtain ⟨rows, hrows, hvisible⟩ := exists_triangleRows height bottom top hsorted.1 hsorted.2.2
  have hspans : (∃ spans, rows.mapM (fun y => rowFragments width height y
        (spanEnds bottom middle top y).1 (spanEnds bottom middle top y).2) = .ok spans)
      ↔ ∀ y ∈ rows, SpanFits (spanEnds bottom middle top y).1 (spanEnds bottom middle top y).2 := by
    rw [Crash.exists_mapM_eq_ok_iff]
    refine forall₂_congr fun y hy => ?_
    rw [rowFragments, if_pos (hvisible y hy)]
    exact exists_spanFragments_iff hpos hwidth y
  simp only [hrows, bind_eq_ok_iff, Except.ok.injEq, exists_eq_left', ← hspans]
  constructor
  · rintro ⟨fragments, spans, hspans, -⟩
    exact ⟨spans, hspans⟩
  · rintro ⟨spans, hspans⟩
    exact ⟨_, spans, hspans, rfl⟩

/-- The parameter along an edge lies between zero and one, whatever it is computed from. -/
theorem clamp_unit
    (t : Float) :
    (Scalar.smaller Scalar.one (Scalar.larger Scalar.zero t)).isFinite = true
      ∧ 0 ≤ value (Scalar.smaller Scalar.one (Scalar.larger Scalar.zero t))
      ∧ value (Scalar.smaller Scalar.one (Scalar.larger Scalar.zero t)) ≤ 1 := by
  obtain ⟨⟨hzero, hzero'⟩, hone, hone'⟩ := value_unit
  have hunit : (Scalar.one : Float).isFinite = true ∧ 0 ≤ value Scalar.one
      ∧ value Scalar.one ≤ 1 := ⟨hone, by simp [hone'], hone'.le⟩
  unfold Scalar.larger
  split
  · rename_i hpos
    unfold Scalar.smaller
    split
    · rename_i hsmall
      have hfinite : t.isFinite = true := by
        refine (isFinite_or_isInf (FloatOrder.isNaN_of_lt (of_decide_eq_true hpos))).resolve_right ?_
        intro hinf
        obtain ⟨sign, hsign⟩ := isInf_iff.mp hinf
        have hpositive := (less_infinity_iff hzero hsign).1.mp hpos
        have hnegative := (less_infinity_iff hone hsign).2.mp hsmall
        rw [hpositive] at hnegative
        cases hnegative
      rw [less_iff_value hzero hfinite, hzero'] at hpos
      rw [less_iff_value hfinite hone, hone'] at hsmall
      exact ⟨hfinite, hpos.le, hsmall.le⟩
    · exact hunit
  · unfold Scalar.smaller
    split
    · exact ⟨hzero, hzero'.ge, by simp [hzero']⟩
    · exact hunit

/-- An edge between columns of a moderate size meets every row in a column that words count. -/
theorem bounded_edgeAt
    (hp : Double.Bounded p.x (2 ^ (61 : Int)))
    (hq : Double.Bounded q.x (2 ^ (61 : Int)))
    (y : Float) :
    Double.Bounded (edgeAt p q y).x (2 ^ (63 : Int)) := by
  unfold edgeAt
  split
  · exact hq.mono (zpow_le_zpow_right₀ one_le_two (by decide))
  · obtain ⟨hfinite, hnonneg, hone⟩ := clamp_unit ((y - p.y) / (q.y - p.y))
    have hparameter : Double.Bounded
        (Scalar.smaller Scalar.one (Scalar.larger Scalar.zero ((y - p.y) / (q.y - p.y)))) 1 :=
      ⟨hfinite, by rwa [abs_of_nonneg hnonneg]⟩
    have hextent := hq.sub hp (.zpow (e := 62) (by decide) (by decide)) (by norm_num)
    have hmoved := hextent.mul hparameter (.zpow (e := 62) (by decide) (by decide)) (by norm_num)
    exact hp.add hmoved (.zpow (by decide) (by decide)) (by norm_num)

/-- The rows of a triangle of a moderate width fit. -/
theorem rowsFit_of_bounded
    (hpy : p.y.isFinite = true)
    (hqy : q.y.isFinite = true)
    (hry : r.y.isFinite = true)
    (hp : Double.Bounded p.x (2 ^ (61 : Int)))
    (hq : Double.Bounded q.x (2 ^ (61 : Int)))
    (hr : Double.Bounded r.x (2 ^ (61 : Int))) :
    RowsFit height p q r := by
  have hsorted := forall_sortByHeight
    (P := fun v => v.y.isFinite = true ∧ Double.Bounded v.x (2 ^ (61 : Int)))
    ⟨hpy, hp⟩ ⟨hqy, hq⟩ ⟨hry, hr⟩
  unfold RowsFit
  generalize sortByHeight p q r = vertices at hsorted ⊢
  obtain ⟨bottom, middle, top⟩ := vertices
  obtain ⟨⟨hbottomy, hbottom⟩, ⟨-, hmiddle⟩, htopy, htop⟩ := hsorted
  obtain ⟨rows, hrows, -⟩ := exists_triangleRows height bottom top hbottomy htopy
  refine ⟨rows, hrows, fun y _ => spanFits_of_bounded (bounded_edgeAt hbottom htop _) ?_⟩
  unfold spanEnds
  dsimp only
  split
  · exact bounded_edgeAt hbottom hmiddle _
  · exact bounded_edgeAt hmiddle htop _

end Triangles

/-! ## Finite geometry -/

/--
A line between finite points is drawn to its end exactly where clipping leaves nothing of it or both
of its extents are finite, as they are where its ends are bounded by half of the largest double.  A
triangle of finite vertices is filled to its end exactly where the spans of its rows fit, as they do
where its columns are bounded by `2 ^ 61`.
-/
theorem finite_geometry
    {c : Canvas Float}
    {colour : Colour}
    {pixel : Pixel}
    (hsize : c.Sized)
    (hcolour : colour.toPixel? = some pixel) :
    (∀ s : Segment Float, s.start.isFinite = true → s.stop.isFinite = true →
      ((∃ d, Draw.line s colour c = .ok () d)
          ↔ s.clip c.width c.height = none
            ∨ (s.stop.x - s.start.x).isFinite = true ∧ (s.stop.y - s.start.y).isFinite = true)
        ∧ (Double.Bounded s.start.x Segment.farthest → Double.Bounded s.start.y Segment.farthest
          → Double.Bounded s.stop.x Segment.farthest → Double.Bounded s.stop.y Segment.farthest
          → ∃ d, Draw.line s colour c = .ok () d))
      ∧ ∀ p q r : Vec3 Float, p.isFinite = true → q.isFinite = true → r.isFinite = true →
        ((∃ d, Draw.triangle p q r colour c = .ok () d) ↔ RowsFit c.height p q r)
          ∧ (Double.Bounded p.x (2 ^ (61 : Int)) → Double.Bounded q.x (2 ^ (61 : Int))
            → Double.Bounded r.x (2 ^ (61 : Int)) → ∃ d, Draw.triangle p q r colour c = .ok () d) := by
  have hput {result : Except Crash (List (Fragment Float))} :
      (∃ d fragments, result = .ok fragments ∧ d = c.putAll fragments pixel)
        ↔ ∃ fragments, result = .ok fragments := by
    constructor
    · rintro ⟨d, fragments, hfragments, -⟩
      exact ⟨fragments, hfragments⟩
    · rintro ⟨fragments, hfragments⟩
      exact ⟨_, fragments, hfragments, rfl⟩
  constructor
  · intro s hstart hstop
    simp only [Vec3.isFinite, Bool.and_eq_true] at hstart hstop
    have hexact := exists_lineFragments_iff hsize.width_le hsize.height_le hstart.1.1 hstart.1.2
    simp only [Draw.line_eq_ok hcolour, hput]
    refine ⟨hexact, fun hxa hya hxb hyb => hexact.mpr (.inr ?_)⟩
    have hextent {x y : Float} (hx : Double.Bounded x Segment.farthest)
        (hy : Double.Bounded y Segment.farthest) : (y - x).isFinite = true :=
      (hy.sub hx ⟨representable_largest, le_rfl⟩ (by linarith [Segment.two_mul_farthest])).finite
    exact ⟨hextent hxa hxb, hextent hya hyb⟩
  · intro p q r hp hq hr
    simp only [Vec3.isFinite, Bool.and_eq_true] at hp hq hr
    have hexact := exists_triangleFragments_iff c.height hsize.width_pos hsize.width_le hp.1.2
      hq.1.2 hr.1.2
    simp only [Draw.triangle_eq_ok hcolour, hput]
    exact ⟨hexact, fun hpx hqx hrx =>
      hexact.mpr (rowsFit_of_bounded hp.1.2 hq.1.2 hr.1.2 hpx hqx hrx)⟩

/-- A line as long as a double can say, and a triangle higher and wider than any canvas. -/
theorem finite_geometry_large :
    (∃ d, Draw.line ⟨⟨-8e307, 1, 0⟩, ⟨8e307, 1, 0⟩⟩ ⟨255, 255, 255⟩
        (Canvas.blank 4 4 ⟨0, 0, 0⟩ : Canvas Float) = .ok () d)
      ∧ ∃ d, Draw.triangle ⟨-1e18, 0, 0⟩ ⟨1e18, 0, 0⟩ ⟨0, 1e308, 0⟩ ⟨255, 255, 255⟩
        (Canvas.blank 4 4 ⟨0, 0, 0⟩ : Canvas Float) = .ok () d := by
  have hsize : (Canvas.blank 4 4 ⟨0, 0, 0⟩ : Canvas Float).Sized :=
    Canvas.sized_of_new? (rfl : Canvas.new? 4 4 ⟨0, 0, 0⟩ = .ok (Canvas.blank 4 4 ⟨0, 0, 0⟩))
  obtain ⟨hline, htriangle⟩ := finite_geometry hsize
    (rfl : (⟨255, 255, 255⟩ : Colour).toPixel? = some ⟨255, 255, 255⟩)
  refine ⟨?_, ?_⟩
  · exact (hline ⟨⟨-8e307, 1, 0⟩, ⟨8e307, 1, 0⟩⟩ (by decide +kernel) (by decide +kernel)).1.mpr
      (.inr (by decide +kernel))
  · refine (htriangle ⟨-1e18, 0, 0⟩ ⟨1e18, 0, 0⟩ ⟨0, 1e308, 0⟩ (by decide +kernel)
      (by decide +kernel) (by decide +kernel)).2 ?_ ?_ ?_ <;>
      exact bounded_of_less (k := 61) (by decide) (by decide +kernel)

/-- The extent of a line from one side of a canvas to the other may be infinite. -/
theorem finite_geometry_overflow :
    (⟨-1e308, 0, 0⟩ : Vec3 Float).isFinite = true
      ∧ (⟨1e308, 0, 0⟩ : Vec3 Float).isFinite = true
      ∧ (Canvas.blank 4 4 ⟨0, 0, 0⟩ : Canvas Float).Sized
      ∧ (⟨255, 255, 255⟩ : Colour).toPixel? = some ⟨255, 255, 255⟩
      ∧ ¬∃ d, Draw.line ⟨⟨-1e308, 0, 0⟩, ⟨1e308, 0, 0⟩⟩ ⟨255, 255, 255⟩
        (Canvas.blank 4 4 ⟨0, 0, 0⟩ : Canvas Float) = .ok () d := by
  refine ⟨by decide +kernel, by decide +kernel, by constructor <;> decide, rfl, ?_⟩
  rintro ⟨d, hd⟩
  obtain ⟨fragments, hfragments, -⟩ := (Draw.line_eq_ok rfl _).mp hd
  have hfails : (lineFragments 4 4 ⟨⟨-1e308, 0, 0⟩, ⟨1e308, 0, 0⟩⟩ :
      Except Crash (List (Fragment Float))).isOk = false := by
    decide +kernel
  rw [show lineFragments 4 4 _ = .ok fragments from hfragments] at hfails
  cases hfails

end Diorama
