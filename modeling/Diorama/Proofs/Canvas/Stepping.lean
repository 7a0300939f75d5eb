import Diorama.Canvas.Line
import Diorama.Proofs.Canvas.Spans
import Diorama.Proofs.Number.Rational
import Mathlib.Logic.Function.Iterate
import Mathlib.Tactic.Ring

/-!
# Stepping along a line

A line visits the pixels between its rounded ends one step along the longer axis at a time.  After
`i` steps along x and `j` along y the balance of steps tells how far the pixel lies beside the
ideal line: `width * j - height * i` parts of the longer extent.  A step keeps this within half of
the longer extent, which is why the walk meets its end, and meets it after as many steps as the
longer extent is long.

**Main statements.**
* `LineWalk.reached_next`: what a step does, in every direction at once.
* `LineWalk.atEnd_place_iff`: the end is reached after the longer extent, and not before.
* `LineWalk.trace_eq`: the walk stops there by itself.
* `line_stepping`: what drawing a line plots, and in which order.
-/

namespace Diorama

namespace LineWalk

variable {α : Type}

/-! ## The end of the way -/

/-- A way of some extent from a pixel to its end. -/
structure Joins
    (w : LineWalk)
    (xa ya : Int) : Prop where
  width_nonneg : 0 ≤ w.width
  height_nonneg : 0 ≤ w.height
  stepX_eq : w.stepX = 1 ∨ w.stepX = -1
  stepY_eq : w.stepY = 1 ∨ w.stepY = -1
  endX_eq : w.endX = xa + w.width * w.stepX
  endY_eq : w.endY = ya + w.height * w.stepY

theorem joins_between
    (xa ya xb yb : Int) :
    (between xa ya xb yb).Joins xa ya where
  width_nonneg := Int.natCast_nonneg _
  height_nonneg := Int.natCast_nonneg _
  stepX_eq := ite_eq_or_eq (xa < xb) 1 (-1)
  stepY_eq := ite_eq_or_eq (ya < yb) 1 (-1)
  endX_eq := by
    dsimp only [between]
    split <;> omega
  endY_eq := by
    dsimp only [between]
    split <;> omega

@[simp]
theorem endX_between
    (xa ya xb yb : Int) :
    (between xa ya xb yb).endX = xb :=
  rfl

@[simp]
theorem endY_between
    (xa ya xb yb : Int) :
    (between xa ya xb yb).endY = yb :=
  rfl

theorem stepX_between
    {xa xb : Int}
    (h : xa ≠ xb)
    (ya yb : Int) :
    (between xa ya xb yb).stepX = (xb - xa).sign := by
  simp only [between]
  split
  · rw [Int.sign_eq_one_of_pos (by omega)]
  · rw [Int.sign_eq_neg_one_of_neg (by omega)]

theorem stepY_between
    {ya yb : Int}
    (h : ya ≠ yb)
    (xa xb : Int) :
    (between xa ya xb yb).stepY = (yb - ya).sign := by
  simp only [between]
  split
  · rw [Int.sign_eq_one_of_pos (by omega)]
  · rw [Int.sign_eq_neg_one_of_neg (by omega)]

theorem steps_between
    {xa ya xb yb : Int}
    {n : Nat}
    (hn : n = max (xb - xa).natAbs (yb - ya).natAbs) :
    (n : Int) = (between xa ya xb yb).steps := by
  simp only [hn, steps, between]
  omega

/-! ## One step -/

/-- How far a pixel lies beside the line, in parts of the longer extent. -/
def offset
    (w : LineWalk)
    (i j : Int) :
    Int :=
  w.width * j - w.height * i

/-- A place after `k` steps, of which `i` went along x and `j` along y. -/
structure Reached
    (w : LineWalk)
    (xa ya : Int)
    (k : Nat)
    (i j : Int)
    (p : LinePlace α) : Prop where
  x_eq : p.x = xa + i * w.stepX
  y_eq : p.y = ya + j * w.stepY
  balance_eq : p.balance = w.offset i j + w.width - w.height
  nonneg : 0 ≤ i ∧ 0 ≤ j
  along_x : w.height ≤ w.width → i = k
  along_y : w.width ≤ w.height → j = k
  near : -w.steps ≤ 2 * w.offset i j ∧ 2 * w.offset i j ≤ w.steps

variable {w : LineWalk} {xa ya i j : Int} {k : Nat} {p : LinePlace α}

/-- A step goes along the longer axis, and along the other one to stay near the line. -/
theorem reached_next
    [Scalar α]
    (hjoins : w.Joins xa ya)
    (h : w.Reached xa ya k i j p)
    (rise : α) :
    ∃ i' j', w.Reached xa ya (k + 1) i' j' (w.next rise p)
      ∧ (i' = i ∨ i' = i + 1) ∧ (j' = j ∨ j' = j + 1) := by
  obtain ⟨hx, hy, hbalance, ⟨hi, hj⟩, halongX, halongY, hlow, hhigh⟩ := h
  have hwidth := hjoins.width_nonneg
  have hheight := hjoins.height_nonneg
  have hsteps : w.steps = max w.width w.height := rfl
  have hoffsetX : w.offset (i + 1) j = w.offset i j - w.height := by
    unfold offset
    ring
  have hoffsetY : w.offset i (j + 1) = w.offset i j + w.width := by
    unfold offset
    ring
  have hoffset : w.offset (i + 1) (j + 1) = w.offset i j + w.width - w.height := by
    unfold offset
    ring
  by_cases hstepX : -w.height ≤ 2 * p.balance
  · by_cases hstepY : 2 * p.balance ≤ w.width
    · refine ⟨i + 1, j + 1, ⟨?_, ?_, ?_, ?_, ?_, ?_, ?_⟩, .inr rfl, .inr rfl⟩
      · simp only [next, hstepX, decide_true, if_true, hx]
        ring
      · simp only [next, hstepY, decide_true, if_true, hy]
        ring
      · simp only [next, hstepX, hstepY, decide_true, if_true]
        omega
      all_goals omega
    · refine ⟨i + 1, j, ⟨?_, ?_, ?_, ?_, ?_, ?_, ?_⟩, .inr rfl, .inl rfl⟩
      · simp only [next, hstepX, decide_true, if_true, hx]
        ring
      · simp [next, hstepY, hy]
      · simp only [next, hstepX, hstepY, decide_true, decide_false, if_true, Bool.false_eq_true,
          if_false]
        omega
      all_goals omega
  · have hstepY : 2 * p.balance ≤ w.width := by omega
    refine ⟨i, j + 1, ⟨?_, ?_, ?_, ?_, ?_, ?_, ?_⟩, .inl rfl, .inr rfl⟩
    · simp [next, hstepX, hx]
    · simp only [next, hstepY, decide_true, if_true, hy]
      ring
    · simp only [next, hstepX, hstepY, decide_true, decide_false, if_true, Bool.false_eq_true,
        if_false]
      omega
    all_goals omega

/-- Near the line, what goes along one axis bounds what goes along the other. -/
theorem le_of_near
    {long short along beside : Int}
    (hlong : 0 < long)
    (hshort : 0 ≤ short)
    (halong : along ≤ long)
    (hnear : 2 * (long * beside - short * along) ≤ long) :
    beside ≤ short := by
  by_contra hpast
  have hbeside : long * (short + 1) ≤ long * beside :=
    Int.mul_le_mul_of_nonneg_left (by omega) hlong.le
  have hlimit : short * along ≤ short * long := Int.mul_le_mul_of_nonneg_left halong hshort
  linarith

/-- No step leads past the end. -/
theorem Reached.le
    (hjoins : w.Joins xa ya)
    (h : w.Reached xa ya k i j p)
    (hk : k ≤ w.steps) :
    i ≤ w.width ∧ j ≤ w.height := by
  have hwidth := hjoins.width_nonneg
  have hheight := hjoins.height_nonneg
  obtain ⟨hlow, hhigh⟩ := h.near
  unfold offset at hlow hhigh
  rcases le_total w.height w.width with hwide | hsteep
  · have hsteps : w.steps = w.width := max_eq_left hwide
    have hi : i ≤ w.width := (h.along_x hwide).trans_le (hk.trans_eq hsteps)
    refine ⟨hi, ?_⟩
    rcases hwidth.eq_or_lt with hzero | hpos
    · have hj := h.along_y (by omega)
      omega
    · exact le_of_near hpos hheight hi (hhigh.trans_eq hsteps)
  · have hsteps : w.steps = w.height := max_eq_right hsteep
    have hj : j ≤ w.height := (h.along_y hsteep).trans_le (hk.trans_eq hsteps)
    refine ⟨?_, hj⟩
    rcases hheight.eq_or_lt with hzero | hpos
    · have hi := h.along_x (by omega)
      omega
    · exact le_of_near hpos hwidth hj (by linarith)

/-- After as many steps as the longer axis is long, the end is reached. -/
theorem Reached.eq_of_eq_steps
    (hjoins : w.Joins xa ya)
    (h : w.Reached xa ya k i j p)
    (hk : k = w.steps) :
    i = w.width ∧ j = w.height := by
  have hwidth := hjoins.width_nonneg
  have hheight := hjoins.height_nonneg
  obtain ⟨hi, hj⟩ := h.le hjoins hk.le
  obtain ⟨hi0, hj0⟩ := h.nonneg
  obtain ⟨hlow, hhigh⟩ := h.near
  unfold offset at hlow hhigh
  rcases le_total w.height w.width with hwide | hsteep
  · have hsteps : w.steps = w.width := max_eq_left hwide
    obtain rfl : i = w.width := (h.along_x hwide).trans (hk.trans hsteps)
    refine ⟨rfl, le_antisymm hj ?_⟩
    rcases hwidth.eq_or_lt with hzero | hpos
    · omega
    · exact le_of_near hpos hj0 le_rfl (by linarith)
  · have hsteps : w.steps = w.height := max_eq_right hsteep
    obtain rfl : j = w.height := (h.along_y hsteep).trans (hk.trans hsteps)
    refine ⟨le_antisymm hi ?_, rfl⟩
    rcases hheight.eq_or_lt with hzero | hpos
    · omega
    · exact le_of_near hpos hi0 le_rfl (by linarith)

/-! ## All steps -/

section Walk

variable [Scalar α] {rise : α}

/-- Where a way begins. -/
def start
    (w : LineWalk)
    (xa ya : Int)
    (depth : α) :
    LinePlace α :=
  ⟨xa, ya, w.width - w.height, depth⟩

/-- The place after `k` steps. -/
def place
    (w : LineWalk)
    (rise : α)
    (xa ya : Int)
    (depth : α)
    (k : Nat) :
    LinePlace α :=
  (w.next rise)^[k] (w.start xa ya depth)

theorem place_succ
    (w : LineWalk)
    (rise : α)
    (xa ya : Int)
    (depth : α)
    (k : Nat) :
    w.place rise xa ya depth (k + 1) = w.next rise (w.place rise xa ya depth k) :=
  Function.iterate_succ_apply' _ _ _

theorem depth_place
    (w : LineWalk)
    (rise : α)
    (xa ya : Int)
    (depth : α)
    (k : Nat) :
    (w.place rise xa ya depth k).depth = (· + rise)^[k] depth := by
  induction k with
  | zero => rfl
  | succ k ih =>
      rw [place_succ, Function.iterate_succ_apply', ← ih]
      rfl

theorem exists_reached
    (hjoins : w.Joins xa ya)
    (rise depth : α)
    (k : Nat) :
    ∃ i j, w.Reached xa ya k i j (w.place rise xa ya depth k) := by
  induction k with
  | zero =>
      have hwidth := hjoins.width_nonneg
      have hsteps : w.steps = max w.width w.height := rfl
      refine ⟨0, 0, ?_, ?_, ?_, ?_, ?_, ?_, ?_⟩ <;> simp [place, start, offset]
      omega
  | succ k ih =>
      obtain ⟨i, j, h⟩ := ih
      obtain ⟨i', j', h', _⟩ := reached_next hjoins h rise
      rw [place_succ]
      exact ⟨i', j', h'⟩

/-- The end is reached after the longer extent, and not before. -/
theorem atEnd_place_iff
    (hjoins : w.Joins xa ya)
    (rise depth : α)
    (hk : k ≤ w.steps) :
    w.atEnd (w.place rise xa ya depth k) = true ↔ k = w.steps := by
  obtain ⟨i, j, h⟩ := exists_reached hjoins rise depth k
  have hsteps : w.steps = max w.width w.height := rfl
  rw [atEnd, Bool.and_eq_true, beq_iff_eq, beq_iff_eq, h.x_eq, h.y_eq, hjoins.endX_eq,
    hjoins.endY_eq, Int.add_right_inj, Int.add_right_inj]
  constructor
  · rintro ⟨hx, hy⟩
    have hi : i = w.width := by rcases hjoins.stepX_eq with hs | hs <;> rw [hs] at hx <;> omega
    have hj : j = w.height := by rcases hjoins.stepY_eq with hs | hs <;> rw [hs] at hy <;> omega
    rcases le_total w.height w.width with hwide | hsteep
    · have halong := h.along_x hwide
      omega
    · have halong := h.along_y hsteep
      omega
  · intro hlast
    obtain ⟨rfl, rfl⟩ := h.eq_of_eq_steps hjoins hlast
    exact ⟨rfl, rfl⟩

/-- A walk that comes to its end after `n` steps stops there, whatever number it may take. -/
theorem trace_eq_of_atEnd
    {n fuel : Nat}
    (done : List (LinePlace α))
    (hway : ∀ k < n, ¬w.atEnd ((w.next rise)^[k] p) = true)
    (hend : w.atEnd ((w.next rise)^[n] p) = true)
    (hfuel : n ≤ fuel) :
    w.trace rise fuel done p
      = done.reverse ++ (List.range (n + 1)).map fun k => (w.next rise)^[k] p := by
  induction n generalizing fuel done p with
  | zero =>
      have hlast : w.atEnd p = true := hend
      cases fuel with
      | zero => simp [trace]
      | succ fuel => simp [trace, hlast]
  | succ n ih =>
      obtain ⟨fuel, rfl⟩ : ∃ m, fuel = m + 1 := ⟨fuel - 1, by omega⟩
      have hstep : ¬w.atEnd p = true := hway 0 (Nat.succ_pos n)
      have hrest := ih (p := w.next rise p) (p :: done)
        (fun k hk => hway (k + 1) (by omega)) hend (Nat.le_of_succ_le_succ hfuel)
      have hfirst : (List.range (n + 1 + 1)).map (fun k => (w.next rise)^[k] p)
          = p :: (List.range (n + 1)).map fun k => (w.next rise)^[k] (w.next rise p) := by
        rw [List.range_succ_eq_map, List.map_cons, List.map_map]
        rfl
      rw [trace, if_neg hstep, hrest, hfirst, List.reverse_cons, List.append_assoc,
        List.singleton_append]

/-- The walk stops by itself at the end, after the longer extent. -/
theorem trace_eq
    (hjoins : w.Joins xa ya)
    (rise depth : α)
    {n fuel : Nat}
    (hn : n = w.steps)
    (hfuel : n ≤ fuel) :
    w.trace rise fuel [] (w.start xa ya depth)
      = (List.range (n + 1)).map (w.place rise xa ya depth) := by
  refine trace_eq_of_atEnd [] ?_ ((atEnd_place_iff hjoins rise depth hn.le).mpr hn) hfuel
  intro k hk
  refine mt (atEnd_place_iff hjoins rise depth ?_).mp ?_ <;> omega

end Walk
end LineWalk

/-! ## What a line plots -/

/-- The ideal line through two pixels at a place of the first axis. -/
def idealLine
    (ua va ub vb u : Int) :
    Rat :=
  va + (u - ua) * ((vb - va) / (ub - ua))

/-- What is within half of the longer extent beside a line is within half a pixel of it. -/
theorem abs_sub_idealLine_le
    {u v su sv long short along beside : Int}
    (hsu : su = 1 ∨ su = -1)
    (hsv : sv = 1 ∨ sv = -1)
    (hlong : 0 < long)
    (hlow : -long ≤ 2 * (long * beside - short * along))
    (hhigh : 2 * (long * beside - short * along) ≤ long) :
    |((v + beside * sv : Int) : Rat)
      - idealLine u v (u + long * su) (v + short * sv) (u + along * su)| ≤ 1 / 2 := by
  have hpos : (0 : Rat) < long := by exact_mod_cast hlong
  have hlow : -(long : Rat) ≤ 2 * (long * beside - short * along) := by exact_mod_cast hlow
  have hhigh : 2 * ((long : Rat) * beside - short * along) ≤ long := by exact_mod_cast hhigh
  have hline : idealLine u v (u + long * su) (v + short * sv) (u + along * su)
      = v + sv * (short * along / long) := by
    have hunit : (su : Rat) ≠ 0 := by rcases hsu with rfl | rfl <;> simp
    unfold idealLine
    push_cast
    simp only [add_sub_cancel_left]
    field_simp
  have hbeside : |(beside : Rat) - short * along / long| ≤ 1 / 2 := by
    rw [abs_le, le_sub_iff_add_le, sub_le_iff_le_add, ← le_sub_iff_add_le', div_le_iff₀ hpos,
      ← sub_le_iff_le_add', le_div_iff₀ hpos]
    constructor <;> linarith
  have hunit : |(sv : Rat)| = 1 := by rcases hsv with rfl | rfl <;> simp
  calc |((v + beside * sv : Int) : Rat)
        - idealLine u v (u + long * su) (v + short * sv) (u + along * su)|
      = |(sv : Rat) * (beside - short * along / long)| := by
        rw [hline]
        push_cast
        congr 1
        ring
    _ = |(beside : Rat) - short * along / long| := by rw [abs_mul, hunit, one_mul]
    _ ≤ 1 / 2 := hbeside

variable {α : Type}

/-- A step toward the end: one pixel along the longer axis, and at most one along the other. -/
structure StepsToward
    (xa ya xb yb : Int)
    (f g : Fragment α) : Prop where
  wide : (yb - ya).natAbs ≤ (xb - xa).natAbs →
    g.x = f.x + (xb - xa).sign ∧ (g.y = f.y ∨ g.y = f.y + (yb - ya).sign)
  steep : (xb - xa).natAbs ≤ (yb - ya).natAbs →
    g.y = f.y + (yb - ya).sign ∧ (g.x = f.x ∨ g.x = f.x + (xb - xa).sign)

/-- The pixels of a line from one pixel to another, whose depths grow by `rise`. -/
structure Stepped
    [Add α]
    (xa ya xb yb : Int)
    (depth rise : α)
    (fs : List (Fragment α)) : Prop where
  length_eq : fs.length = max (xb - xa).natAbs (yb - ya).natAbs + 1
  first : fs[0]? = some ⟨xa, ya, depth⟩
  last : ∃ z, fs.getLast? = some ⟨xb, yb, z⟩
  step : ∀ k f g, fs[k]? = some f → fs[k + 1]? = some g → StepsToward xa ya xb yb f g
  within : ∀ f ∈ fs, min xa xb ≤ f.x ∧ f.x ≤ max xa xb ∧ min ya yb ≤ f.y ∧ f.y ≤ max ya yb
  near_wide : (yb - ya).natAbs ≤ (xb - xa).natAbs → xa ≠ xb → ∀ f ∈ fs,
    |(f.y : Rat) - idealLine xa ya xb yb f.x| ≤ 1 / 2
  near_steep : (xb - xa).natAbs ≤ (yb - ya).natAbs → ya ≠ yb → ∀ f ∈ fs,
    |(f.x : Rat) - idealLine ya xa yb xb f.y| ≤ 1 / 2
  depth_eq : ∀ k f, fs[k]? = some f → f.depth = (· + rise)^[k] depth

namespace LineWalk

/-! ### The places of a walk -/

section Beside

variable {w : LineWalk} {xa ya i j : Int} {k : Nat} {p : LinePlace α}

theorem Reached.within
    (hjoins : w.Joins xa ya)
    (h : w.Reached xa ya k i j p)
    (hk : k ≤ w.steps) :
    min xa w.endX ≤ p.x ∧ p.x ≤ max xa w.endX ∧ min ya w.endY ≤ p.y ∧ p.y ≤ max ya w.endY := by
  obtain ⟨hi, hj⟩ := h.le hjoins hk
  obtain ⟨hi0, hj0⟩ := h.nonneg
  rw [h.x_eq, h.y_eq, hjoins.endX_eq, hjoins.endY_eq]
  rcases hjoins.stepX_eq with hx | hx <;> rcases hjoins.stepY_eq with hy | hy <;>
    rw [hx, hy] <;> omega

theorem Reached.near_wide
    (hjoins : w.Joins xa ya)
    (h : w.Reached xa ya k i j p)
    (hwide : w.height ≤ w.width)
    (hpos : 0 < w.width) :
    |(p.y : Rat) - idealLine xa ya w.endX w.endY p.x| ≤ 1 / 2 := by
  obtain ⟨hlow, hhigh⟩ := h.near
  have hsteps : w.steps = w.width := max_eq_left hwide
  unfold offset at hlow hhigh
  rw [h.x_eq, h.y_eq, hjoins.endX_eq, hjoins.endY_eq]
  exact abs_sub_idealLine_le hjoins.stepX_eq hjoins.stepY_eq hpos (by linarith) (by linarith)

theorem Reached.near_steep
    (hjoins : w.Joins xa ya)
    (h : w.Reached xa ya k i j p)
    (hsteep : w.width ≤ w.height)
    (hpos : 0 < w.height) :
    |(p.x : Rat) - idealLine ya xa w.endY w.endX p.y| ≤ 1 / 2 := by
  obtain ⟨hlow, hhigh⟩ := h.near
  have hsteps : w.steps = w.height := max_eq_right hsteep
  unfold offset at hlow hhigh
  rw [h.x_eq, h.y_eq, hjoins.endX_eq, hjoins.endY_eq]
  exact abs_sub_idealLine_le hjoins.stepY_eq hjoins.stepX_eq hpos (by linarith) (by linarith)

end Beside
end LineWalk

/-- The place of a step on the canvas. -/
def LinePlace.fragment
    (p : LinePlace α) :
    Fragment α :=
  ⟨p.x, p.y, p.depth⟩

namespace LinePlace

@[simp]
theorem x_fragment
    (p : LinePlace α) :
    p.fragment.x = p.x :=
  rfl

@[simp]
theorem y_fragment
    (p : LinePlace α) :
    p.fragment.y = p.y :=
  rfl

@[simp]
theorem depth_fragment
    (p : LinePlace α) :
    p.fragment.depth = p.depth :=
  rfl

end LinePlace

section Drawing

variable [Scalar α]

namespace LineWalk

variable {xa ya xb yb : Int}

/-- What a step before the end changes. -/
theorem next_toward
    {k : Nat}
    {i j : Int}
    {p : LinePlace α}
    (h : (between xa ya xb yb).Reached xa ya k i j p)
    (hk : k < (between xa ya xb yb).steps)
    (rise : α) :
    StepsToward xa ya xb yb p.fragment ((between xa ya xb yb).next rise p).fragment := by
  have hjoins := joins_between xa ya xb yb
  obtain ⟨i', j', h', hi, hj⟩ := reached_next hjoins h rise
  obtain ⟨hi', hj'⟩ := h'.le hjoins (by omega)
  obtain ⟨hi0, hj0⟩ := h.nonneg
  have hwidth : (between xa ya xb yb).width = (xb - xa).natAbs := rfl
  have hheight : (between xa ya xb yb).height = (yb - ya).natAbs := rfl
  -- a coordinate that changes has a way to go, so its direction is that of the end
  have hx : i' = i + 1 →
      ((between xa ya xb yb).next rise p).x = p.x + (xb - xa).sign := by
    intro hstep
    rw [h'.x_eq, h.x_eq, hstep, ← stepX_between (by omega) ya yb]
    ring
  have hy : j' = j + 1 →
      ((between xa ya xb yb).next rise p).y = p.y + (yb - ya).sign := by
    intro hstep
    rw [h'.y_eq, h.y_eq, hstep, ← stepY_between (by omega) xa xb]
    ring
  have hx0 : i' = i → ((between xa ya xb yb).next rise p).x = p.x := by
    intro hstay
    rw [h'.x_eq, h.x_eq, hstay]
  have hy0 : j' = j → ((between xa ya xb yb).next rise p).y = p.y := by
    intro hstay
    rw [h'.y_eq, h.y_eq, hstay]
  refine ⟨?wide, ?steep⟩
  case wide =>
    intro hwide
    have halong := h.along_x (by omega)
    have halong' := h'.along_x (by omega)
    exact ⟨hx (by omega), hj.imp hy0 hy⟩
  case steep =>
    intro hsteep
    have halong := h.along_y (by omega)
    have halong' := h'.along_y (by omega)
    exact ⟨hy (by omega), hi.imp hx0 hx⟩

/-- The pixels of a walk between two pixels, of which there are `n` after the first. -/
def pixels
    (xa ya xb yb : Int)
    (depth rise : α)
    (n : Nat) :
    List (Fragment α) :=
  (List.range (n + 1)).map fun k => ((between xa ya xb yb).place rise xa ya depth k).fragment

variable {depth rise : α} {n : Nat}

theorem mem_pixels_iff
    {f : Fragment α} :
    f ∈ pixels xa ya xb yb depth rise n
      ↔ ∃ k < n + 1, ((between xa ya xb yb).place rise xa ya depth k).fragment = f := by
  simp only [pixels, List.mem_map, List.mem_range]

theorem getElem?_pixels_iff
    {k : Nat}
    {f : Fragment α} :
    (pixels xa ya xb yb depth rise n)[k]? = some f
      ↔ k < n + 1 ∧ ((between xa ya xb yb).place rise xa ya depth k).fragment = f := by
  rw [pixels, List.getElem?_map, Option.map_eq_some_iff]
  constructor
  · rintro ⟨m, hm, rfl⟩
    obtain ⟨hlt, rfl⟩ := List.getElem?_eq_some_iff.mp hm
    simpa using hlt
  · rintro ⟨hk, rfl⟩
    exact ⟨k, List.getElem?_range hk, rfl⟩

/-- The pixels of a walk between two pixels are the steps of a line. -/
theorem stepped_pixels
    (xa ya xb yb : Int)
    (depth rise : α)
    (hn : n = max (xb - xa).natAbs (yb - ya).natAbs) :
    Stepped xa ya xb yb depth rise (pixels xa ya xb yb depth rise n) := by
  have hjoins := joins_between xa ya xb yb
  have hwidth : (between xa ya xb yb).width = (xb - xa).natAbs := rfl
  have hheight : (between xa ya xb yb).height = (yb - ya).natAbs := rfl
  have hsteps : n = (between xa ya xb yb).steps := steps_between hn
  have hreached := exists_reached hjoins rise depth
  have hlength : (pixels xa ya xb yb depth rise n).length = n + 1 := by
    rw [pixels, List.length_map, List.length_range]
  refine ⟨by rw [hlength, hn], getElem?_pixels_iff.mpr ⟨Nat.succ_pos n, rfl⟩,
    ?last, ?step, ?within, ?near_wide, ?near_steep, ?depth_eq⟩
  case last =>
    obtain ⟨i, j, h⟩ := hreached n
    obtain ⟨rfl, rfl⟩ := h.eq_of_eq_steps hjoins hsteps
    have hx := h.x_eq.trans hjoins.endX_eq.symm
    have hy := h.y_eq.trans hjoins.endY_eq.symm
    rw [endX_between] at hx
    rw [endY_between] at hy
    refine ⟨((between xa ya xb yb).place rise xa ya depth n).depth, ?_⟩
    rw [List.getLast?_eq_getElem?, hlength, Nat.add_sub_cancel, getElem?_pixels_iff,
      LinePlace.fragment, hx, hy]
    exact ⟨Nat.lt_succ_self n, rfl⟩
  case step =>
    intro k f g hf hg
    obtain ⟨_, rfl⟩ := getElem?_pixels_iff.mp hf
    obtain ⟨hk, rfl⟩ := getElem?_pixels_iff.mp hg
    obtain ⟨i, j, h⟩ := hreached k
    rw [place_succ]
    exact next_toward h (by omega) rise
  case within =>
    intro f hf
    obtain ⟨k, hk, rfl⟩ := mem_pixels_iff.mp hf
    obtain ⟨i, j, h⟩ := hreached k
    simpa using h.within hjoins (by omega)
  case near_wide =>
    intro hwide hne f hf
    obtain ⟨k, hk, rfl⟩ := mem_pixels_iff.mp hf
    obtain ⟨i, j, h⟩ := hreached k
    simpa using h.near_wide hjoins (by omega) (by omega)
  case near_steep =>
    intro hsteep hne f hf
    obtain ⟨k, hk, rfl⟩ := mem_pixels_iff.mp hf
    obtain ⟨i, j, h⟩ := hreached k
    simpa using h.near_steep hjoins (by omega) (by omega)
  case depth_eq =>
    intro k f hf
    obtain ⟨_, rfl⟩ := getElem?_pixels_iff.mp hf
    exact depth_place _ rise xa ya depth k

/-- The walk stops after its last pixel, whatever number of steps it may take. -/
theorem map_fragment_trace
    {fuel : Nat}
    (hn : n = max (xb - xa).natAbs (yb - ya).natAbs)
    (hfuel : n ≤ fuel)
    (rise depth : α) :
    ((between xa ya xb yb).trace rise fuel []
        ((between xa ya xb yb).start xa ya depth)).map LinePlace.fragment
      = pixels xa ya xb yb depth rise n := by
  rw [trace_eq (joins_between xa ya xb yb) rise depth (steps_between hn) hfuel, List.map_map]
  rfl

/-- So does the walk that a line takes. -/
theorem map_fragment_places
    (hn : n = max (xb - xa).natAbs (yb - ya).natAbs)
    (rise depth : α) :
    ((between xa ya xb yb).places rise xa ya depth).map LinePlace.fragment
      = pixels xa ya xb yb depth rise n := by
  refine map_fragment_trace hn ?_ rise depth
  simp only [hn, between, Int.toNat_natCast]
  omega

end LineWalk

/-! ### Drawing -/

/-- The whole numbers next to the ends of a segment. -/
structure Segment.RoundsTo
    (s : Segment α)
    (xa ya xb yb : Int) : Prop where
  startX : Scalar.nearest s.start.x = .ok xa
  startY : Scalar.nearest s.start.y = .ok ya
  stopX : Scalar.nearest s.stop.x = .ok xb
  stopY : Scalar.nearest s.stop.y = .ok yb

/-- What the depth of a segment grows by with each of some steps, if they can be a divisor. -/
def Segment.rise?
    (s : Segment α)
    (steps : Nat) :
    Option α :=
  if steps = 0 then some Scalar.zero
  else (Scalar.divisor? steps).map fun n => (s.stop.z - s.start.z) / n

theorem Segment.rise?_eq_none_iff
    {s : Segment α}
    {steps : Nat} :
    s.rise? steps = none ↔ steps ≠ 0 ∧ Scalar.divisor? (α := α) steps = none := by
  unfold rise?
  split <;> simp [*]

/-- The pixels of a segment are those of the walk between its rounded ends. -/
theorem Segment.fragments_eq
    {s : Segment α}
    {xa ya xb yb : Int}
    {n : Nat}
    (h : s.RoundsTo xa ya xb yb)
    (hn : n = max (xb - xa).natAbs (yb - ya).natAbs) :
    s.fragments
      = match s.rise? n with
        | some rise => .ok (LineWalk.pixels xa ya xb yb s.start.z rise n)
        | none => .error .columnOutOfRange := by
  have hsteps : n = (LineWalk.between xa ya xb yb).steps := LineWalk.steps_between hn
  unfold fragments rise?
  rw [h.startX, h.startY, h.stopX, h.stopY]
  simp only [Crash.whole, bind, Except.bind, ← hsteps, Int.natCast_eq_zero]
  split
  · exact congrArg Except.ok (LineWalk.map_fragment_places hn Scalar.zero s.start.z)
  · cases Scalar.divisor? (α := α) n with
    | none => rfl
    | some m => exact congrArg Except.ok (LineWalk.map_fragment_places hn _ s.start.z)

/-- Plotting the places of a list is plotting one after the other. -/
theorem Draw.plotAll_eq_forM
    (fragments : List (Fragment α))
    (colour : Colour)
    (c : Canvas α) :
    plotAll fragments colour c
      = (fragments.forM fun f => plot f.x f.y f.depth colour) c := by
  unfold plotAll
  split
  · rename_i pixel hpixel
    induction fragments generalizing c with
    | nil => rfl
    | cons f rest ih =>
        have hfirst := plot_eq hpixel f.x f.y f.depth c
        have hforM : ((f :: rest).forM fun f => plot f.x f.y f.depth colour) c
            = (plot f.x f.y f.depth colour
                >>= fun _ => rest.forM fun f => plot f.x f.y f.depth colour) c := rfl
        rw [hforM]
        simp only [bind, EStateM.bind, hfirst]
        exact ih (c.put f.x f.y f.depth pixel)
  · rfl

/-- In exact arithmetic equal steps add up to their number times the step. -/
theorem Scalar.IsExact.value_iterate_add
    {value : α → Rat}
    (h : Scalar.IsExact value)
    (depth rise : α)
    (k : Nat) :
    value ((· + rise)^[k] depth) = value depth + k * value rise := by
  induction k with
  | zero => simp
  | succ k ih =>
      rw [Function.iterate_succ_apply', h.value_add, ih]
      push_cast
      ring

/-- In exact arithmetic the last of some steps reaches the depth of the end. -/
theorem Stepped.depth_last
    {s : Segment α}
    {xa ya xb yb : Int}
    {n : Nat}
    {rise : α}
    {fs : List (Fragment α)}
    {f : Fragment α}
    {value : α → Rat}
    (h : Stepped xa ya xb yb s.start.z rise fs)
    (hn : n = max (xb - xa).natAbs (yb - ya).natAbs)
    (hrise : s.rise? n = some rise)
    (hexact : Scalar.IsExact value)
    (hpos : 0 < n)
    (hlast : fs.getLast? = some f) :
    f.depth = s.stop.z := by
  rw [List.getLast?_eq_getElem?, h.length_eq, Nat.add_sub_cancel, ← hn] at hlast
  rw [Segment.rise?, if_neg hpos.ne'] at hrise
  obtain ⟨m, hm, rfl⟩ := Option.map_eq_some_iff.mp hrise
  have hne : (n : Rat) ≠ 0 := by exact_mod_cast hpos.ne'
  apply hexact.injective
  rw [h.depth_eq n f hlast, hexact.value_iterate_add, hexact.value_div, hexact.value_sub,
    hexact.value_divisor hm, Int.cast_natCast, mul_div_cancel₀ _ hne, add_sub_cancel]

/--
A line whose ends are clipped and rounded to pixels is plotted pixel by pixel, in as many steps
as its longer extent, unless that number cannot be a divisor.  The walk ends by itself, and in
exact arithmetic its last depth is that of the end.
-/
theorem line_stepping
    {c : Canvas α}
    {s clipped : Segment α}
    {xa ya xb yb : Int}
    {n : Nat}
    (hclip : s.clip c.width c.height = some clipped)
    (hends : clipped.RoundsTo xa ya xb yb)
    (hn : n = max (xb - xa).natAbs (yb - ya).natAbs)
    (colour : Colour) :
    n ≠ 0 ∧ Scalar.divisor? (α := α) n = none ∧ Draw.line s colour c = .error .columnOutOfRange c
      ∨ ∃ rise fs, clipped.rise? n = some rise
        ∧ Draw.line s colour c = (fs.forM fun f => Draw.plot f.x f.y f.depth colour) c
        ∧ Stepped xa ya xb yb clipped.start.z rise fs
        ∧ (∀ fuel, n ≤ fuel →
          ((LineWalk.between xa ya xb yb).trace rise fuel []
            ((LineWalk.between xa ya xb yb).start xa ya clipped.start.z)).map LinePlace.fragment
              = fs)
        ∧ (∀ value : α → Rat, Scalar.IsExact value → (xa, ya) ≠ (xb, yb) →
          ∀ f, fs.getLast? = some f → f.depth = clipped.stop.z) := by
  have hget : Draw.line s colour c
      = (Draw.lift (lineFragments c.width c.height s) >>= fun fragments =>
          Draw.plotAll fragments colour) c := rfl
  rw [hget, lineFragments, hclip]
  dsimp only
  rw [Segment.fragments_eq hends hn]
  cases hrise : clipped.rise? n with
  | none =>
      obtain ⟨hne, hdivisor⟩ := Segment.rise?_eq_none_iff.mp hrise
      exact .inl ⟨hne, hdivisor, rfl⟩
  | some rise =>
      have hstepped := LineWalk.stepped_pixels xa ya xb yb clipped.start.z rise hn
      refine .inr ⟨rise, _, rfl, Draw.plotAll_eq_forM _ colour c, hstepped, ?_, ?_⟩
      · intro fuel hfuel
        exact LineWalk.map_fragment_trace hn hfuel rise clipped.start.z
      · intro value hexact hdiffer f hlast
        refine hstepped.depth_last hn hrise hexact ?_ hlast
        rw [Ne, Prod.mk.injEq] at hdiffer
        omega

end Drawing

/-- A steep line that is drawn from the top to the bottom. -/
theorem line_stepping_steep :
    ∃ fs : List (Fragment Rat),
      Draw.line ⟨⟨3, 9, 0⟩, ⟨1, 0, 6⟩⟩ ⟨255, 255, 255⟩ (Canvas.blank 10 10 ⟨0, 0, 0⟩)
          = (fs.forM fun f => Draw.plot f.x f.y f.depth ⟨255, 255, 255⟩)
            (Canvas.blank 10 10 ⟨0, 0, 0⟩)
        ∧ Stepped 3 9 1 0 0 (2 / 3) fs
        ∧ ∃ f, fs.getLast? = some f ∧ f.depth = 6 := by
  have hclip : (⟨⟨3, 9, 0⟩, ⟨1, 0, 6⟩⟩ : Segment Rat).clip 10 10
      = some ⟨⟨3, 9, 0⟩, ⟨1, 0, 6⟩⟩ := by decide +kernel
  have hends : (⟨⟨3, 9, 0⟩, ⟨1, 0, 6⟩⟩ : Segment Rat).RoundsTo 3 9 1 0 :=
    ⟨by decide +kernel, by decide +kernel, by decide +kernel, by decide +kernel⟩
  have hrise : (⟨⟨3, 9, 0⟩, ⟨1, 0, 6⟩⟩ : Segment Rat).rise? 9 = some (2 / 3) := by decide +kernel
  obtain ⟨_, hnone, _⟩ | ⟨rise, fs, hsome, hdraw, hstepped, _, hlast⟩ :=
    line_stepping (c := Canvas.blank 10 10 ⟨0, 0, 0⟩) hclip hends rfl ⟨255, 255, 255⟩
  · cases hnone
  · cases hrise.symm.trans hsome
    obtain ⟨z, hz⟩ := hstepped.last
    exact ⟨fs, hdraw, hstepped, _, hz,
      hlast id Scalar.isExact_id (by decide) _ hz⟩

end Diorama
