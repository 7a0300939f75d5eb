import Diorama.Proofs.Canvas.Grid
import Diorama.Proofs.Fallible

/-!
# Spans column by column

A span looks at the canvas once, picks out the columns where it is closer, and overwrites them.  No
two of its places are the same, so that this is the plain loop that plots one column after the
other.

**Main statements.**
* `Canvas.overlay_eq_putAll`: picking out first is putting one by one, at different places.
* `spanFragments_eq_ok`: the places of a span are those of its visible columns.
* `Draw.span_eq_ok`: a span puts its places; `Draw.plotColumns_of_span`: it is the plain loop.
-/

namespace Diorama

section Results

variable {α β γ : Type} {c d : Canvas α} {r : γ}

theorem Crash.mapM_cons_eq_ok
    {compute : β → Except Crash γ}
    {b : β}
    {rest : List β}
    {results : List γ} :
    (b :: rest).mapM compute = .ok results
      ↔ ∃ r others, compute b = .ok r ∧ rest.mapM compute = .ok others ∧ results = r :: others := by
  rw [List.mapM_cons, bind_eq_ok_iff]
  constructor
  · rintro ⟨r, hr, h⟩
    obtain ⟨others, hothers, hresults⟩ := bind_eq_ok_iff.mp h
    cases hresults
    exact ⟨r, others, hr, hothers, rfl⟩
  · rintro ⟨r, others, hr, hothers, rfl⟩
    exact ⟨r, hr, bind_eq_ok_iff.mpr ⟨others, hothers, rfl⟩⟩

/-- Computations that all succeed, one after the other. -/
theorem Crash.exists_mapM_eq_ok
    {compute : β → Except Crash γ}
    (bs : List β)
    (h : ∀ b ∈ bs, ∃ r, compute b = .ok r) :
    ∃ results, bs.mapM compute = .ok results := by
  induction bs with
  | nil => exact ⟨[], rfl⟩
  | cons b rest ih =>
      obtain ⟨⟨r, hr⟩, hrest⟩ := List.forall_mem_cons.mp h
      obtain ⟨others, hothers⟩ := ih hrest
      exact ⟨r :: others, Crash.mapM_cons_eq_ok.mpr ⟨r, others, hr, hothers, rfl⟩⟩

theorem Crash.exists_mapM_eq_ok_iff
    {compute : β → Except Crash γ}
    {bs : List β} :
    (∃ results, bs.mapM compute = .ok results) ↔ ∀ b ∈ bs, ∃ r, compute b = .ok r := by
  refine ⟨?_, Crash.exists_mapM_eq_ok bs⟩
  induction bs with
  | nil => simp
  | cons b rest ih =>
      rintro ⟨results, h⟩
      obtain ⟨r, others, hr, hothers, -⟩ := Crash.mapM_cons_eq_ok.mp h
      exact List.forall_mem_cons.mpr ⟨⟨r, hr⟩, ih ⟨others, hothers⟩⟩

theorem Crash.mem_of_mapM_eq_ok
    {compute : β → Except Crash γ}
    {bs : List β}
    {results : List γ}
    (h : bs.mapM compute = .ok results)
    {r : γ} :
    r ∈ results ↔ ∃ b ∈ bs, compute b = .ok r := by
  induction bs generalizing results with
  | nil =>
      cases h
      simp
  | cons b rest ih =>
      obtain ⟨first, others, hfirst, hothers, rfl⟩ := Crash.mapM_cons_eq_ok.mp h
      rw [List.mem_cons, ih hothers]
      simp [hfirst, eq_comm]

theorem Draw.bind_eq_ok
    {step : Draw α β}
    {next : β → Draw α γ} :
    (step >>= next) c = .ok r d ↔ ∃ b e, step c = .ok b e ∧ next b e = .ok r d := by
  simp only [bind, EStateM.bind]
  cases step c with
  | ok b e =>
      constructor
      · intro h
        exact ⟨b, e, rfl, h⟩
      · rintro ⟨b', e', hstep, h⟩
        cases hstep
        exact h
  | error cause e => simp

theorem Draw.lift_bind_eq_ok
    {result : Except Crash β}
    {next : β → Draw α γ} :
    (lift result >>= next) c = .ok r d ↔ ∃ b, result = .ok b ∧ next b c = .ok r d := by
  cases result with
  | ok b =>
      constructor
      · intro h
        exact ⟨b, rfl, h⟩
      · rintro ⟨b', hresult, h⟩
        cases hresult
        exact h
  | error cause =>
      constructor
      · intro h
        cases h
      · rintro ⟨b', hresult, h⟩
        cases hresult

end Results

section Columns

variable {α : Type}

/-- The place in a column of a row, whose depth is computed. -/
def columnFragment
    (y : Int)
    (depth : Int → Except Crash α)
    (x : Int) :
    Except Crash (Fragment α) := do
  return ⟨x, y, ← depth x⟩

/-- The places of columns are those of the row, from the left to the right. -/
theorem places_of_mapM
    {depth : Int → Except Crash α}
    {xs : List Int}
    {y : Int}
    {fragments : List (Fragment α)}
    (h : xs.mapM (columnFragment y depth) = .ok fragments) :
    fragments.map Fragment.x = xs ∧ ∀ f ∈ fragments, f.y = y := by
  induction xs generalizing fragments with
  | nil =>
      cases h
      simp
  | cons x rest ih =>
      obtain ⟨f, others, hf, hothers, rfl⟩ := Crash.mapM_cons_eq_ok.mp h
      obtain ⟨z, hz, hfragment⟩ := bind_eq_ok_iff.mp hf
      cases hfragment
      obtain ⟨hxs, hys⟩ := ih hothers
      refine ⟨by rw [List.map_cons, hxs], ?_⟩
      intro f hf
      rcases List.mem_cons.mp hf with rfl | hother
      · rfl
      · exact hys f hother

theorem mem_columns
    {low high x : Int} :
    x ∈ columns low high ↔ low ≤ x ∧ x ≤ high := by
  simp only [columns, List.mem_map, List.mem_range]
  constructor
  · rintro ⟨i, hi, rfl⟩
    omega
  · rintro ⟨hlow, hhigh⟩
    exact ⟨(x - low).toNat, by omega, by omega⟩

theorem pairwise_columns
    (low high : Int) :
    (columns low high).Pairwise fun x x' => x' ≠ x := by
  unfold columns
  rw [List.pairwise_map]
  refine List.Pairwise.imp ?_ List.nodup_range
  intro i j hij
  omega

end Columns

variable {α : Type} [Scalar α]

namespace Canvas

theorem put_eq_ite
    (c : Canvas α)
    (f : Fragment α)
    (pixel : Pixel) :
    c.put f.x f.y f.depth pixel = if c.sees f then c.store f pixel else c := by
  unfold put sees store cell?
  cases hindex : c.index? f.x f.y with
  | none => rfl
  | some i =>
      have hfound := Array.getElem?_eq_getElem (index?_lt hindex)
      simp only [Option.bind_some, hfound]

/-- What is put elsewhere does not change whether a place is seen. -/
theorem sees_put_of_ne
    (c : Canvas α)
    {f g : Fragment α}
    (hne : ¬(g.x = f.x ∧ g.y = f.y))
    (pixel : Pixel) :
    (c.put f.x f.y f.depth pixel).sees g = c.sees g := by
  unfold sees
  rw [cell?_put, if_neg hne]

/-- At different places, picking out the visible ones first is putting them one by one. -/
theorem overlay_eq_putAll
    (c : Canvas α)
    (fragments : List (Fragment α))
    (pixel : Pixel)
    (hplaces : fragments.Pairwise fun f g => ¬(g.x = f.x ∧ g.y = f.y)) :
    c.overlay fragments pixel = c.putAll fragments pixel := by
  induction fragments generalizing c with
  | nil => rfl
  | cons f rest ih =>
      obtain ⟨hfirst, hrest⟩ := List.pairwise_cons.mp hplaces
      have hput := put_eq_ite c f pixel
      have hvisible : rest.filter c.sees
          = rest.filter (c.put f.x f.y f.depth pixel).sees := by
        apply List.filter_congr
        intro g hg
        exact (sees_put_of_ne c (hfirst g hg) pixel).symm
      have hnext := ih (c.put f.x f.y f.depth pixel) hrest
      simp only [overlay] at hnext ⊢
      rw [List.filter_cons]
      split
      · rename_i hsees
        rw [if_pos hsees] at hput
        rw [List.foldl_cons, ← hput, hvisible]
        exact hnext
      · rename_i hhidden
        have hfold : c.putAll (f :: rest) pixel
            = (c.put f.x f.y f.depth pixel).putAll rest pixel := rfl
        rw [if_neg hhidden] at hput
        rw [hput] at hnext hfold
        rw [hfold]
        exact hnext

end Canvas

/-- The ends of a span from the left to the right. -/
def spanSides
    (a b : SpanEnd α) :
    SpanEnd α × SpanEnd α :=
  if Scalar.less b.x a.x then (b, a) else (a, b)

/-- The places of a span, with its ends in order. -/
theorem spanFragments_eq_ok
    {width : Nat}
    {y : Int}
    {a b : SpanEnd α}
    {fragments : List (Fragment α)} :
    spanFragments width y a b = .ok fragments ↔
      ∃ first last, Crash.whole (Scalar.nearest (spanSides a b).1.x) = .ok first
        ∧ Crash.whole (Scalar.nearest (spanSides a b).2.x) = .ok last
        ∧ (columns (max first 0) (min last (width - 1))).mapM
            (columnFragment y (spanDepth (spanSides a b).1 (spanSides a b).2 first last))
          = .ok fragments := by
  have hsides : spanFragments width y a b = (do
      let first ← Crash.whole (Scalar.nearest (spanSides a b).1.x)
      let last ← Crash.whole (Scalar.nearest (spanSides a b).2.x)
      (columns (max first 0) (min last (width - 1))).mapM
        (columnFragment y (spanDepth (spanSides a b).1 (spanSides a b).2 first last))) := by
    unfold spanFragments spanSides
    cases Scalar.less b.x a.x <;> rfl
  rw [hsides, bind_eq_ok_iff]
  constructor
  · rintro ⟨first, hfirst, h⟩
    obtain ⟨last, hlast, hfragments⟩ := bind_eq_ok_iff.mp h
    exact ⟨first, last, hfirst, hlast, hfragments⟩
  · rintro ⟨first, last, hfirst, hlast, hfragments⟩
    exact ⟨first, hfirst, bind_eq_ok_iff.mpr ⟨last, hlast, hfragments⟩⟩

namespace Draw

/-- The plain loop over the visible columns of a span: each of them is plotted by itself. -/
def plotColumns
    (y : Int)
    (a b : SpanEnd α)
    (colour : Colour) :
    Draw α Unit := fun c =>
  if 0 ≤ y ∧ y < c.height then
    (do
      let first ← lift (Crash.whole (Scalar.nearest (spanSides a b).1.x))
      let last ← lift (Crash.whole (Scalar.nearest (spanSides a b).2.x))
      (columns (max first 0) (min last (c.width - 1))).forM fun x => do
        let z ← lift (spanDepth (spanSides a b).1 (spanSides a b).2 first last x)
        plot x y z colour : Draw α Unit) c
  else .ok () c

variable {colour : Colour} {pixel : Pixel}

theorem plot_eq
    (hcolour : colour.toPixel? = some pixel)
    (x y : Int)
    (z : α)
    (c : Canvas α) :
    plot x y z colour c = .ok () (c.put x y z pixel) := by
  simp only [plot, hcolour]

/-- Columns whose depths are all known may be plotted while their depths are computed. -/
theorem forM_plot_of_mapM
    {depth : Int → Except Crash α}
    {xs : List Int}
    {y : Int}
    {fragments : List (Fragment α)}
    (hcolour : colour.toPixel? = some pixel)
    (h : xs.mapM (columnFragment y depth) = .ok fragments)
    (c : Canvas α) :
    (xs.forM fun x => do
        let z ← lift (depth x)
        plot x y z colour : Draw α Unit) c
      = .ok () (c.putAll fragments pixel) := by
  induction xs generalizing fragments c with
  | nil =>
      cases h
      rfl
  | cons x rest ih =>
      obtain ⟨f, others, hf, hothers, rfl⟩ := Crash.mapM_cons_eq_ok.mp h
      obtain ⟨z, hz, hfragment⟩ := bind_eq_ok_iff.mp hf
      cases hfragment
      refine bind_eq_ok.mpr ⟨(), c.put x y z pixel, ?_, ih hothers _⟩
      exact lift_bind_eq_ok.mpr ⟨z, hz, plot_eq hcolour x y z c⟩

end Draw

theorem pairwise_spanFragments
    {width : Nat}
    {y : Int}
    {a b : SpanEnd α}
    {fragments : List (Fragment α)}
    (h : spanFragments width y a b = .ok fragments) :
    fragments.Pairwise fun f g => ¬(g.x = f.x ∧ g.y = f.y) := by
  obtain ⟨first, last, _, _, hmap⟩ := spanFragments_eq_ok.mp h
  have hcolumns := pairwise_columns (max first 0) (min last (width - 1))
  rw [← (places_of_mapM hmap).1, List.pairwise_map] at hcolumns
  exact hcolumns.imp fun hne hsame => hne hsame.1

/-- The places of a span that a canvas of some size shows. -/
def rowFragments
    (width height : Nat)
    (y : Int)
    (a b : SpanEnd α) :
    Except Crash (List (Fragment α)) :=
  if 0 ≤ y ∧ y < height then spanFragments width y a b else .ok []

namespace Draw

variable {colour : Colour} {pixel : Pixel} {y : Int} {a b : SpanEnd α} {c d : Canvas α}

/-- A span whose colour can be stored puts its places, which its size and arguments decide. -/
theorem span_eq_ok
    (hcolour : colour.toPixel? = some pixel) :
    span y a b colour c = .ok () d
      ↔ ∃ fragments, rowFragments c.width c.height y a b = .ok fragments
        ∧ d = c.putAll fragments pixel := by
  have hget : span y a b colour c
      = (if 0 ≤ y ∧ y < c.height then (do
          let fragments ← lift (spanFragments c.width y a b)
          if fragments.isEmpty then return
          modify fun c => c.overlay fragments pixel : Draw α Unit)
        else return) c := by
    unfold span
    rw [hcolour]
    rfl
  rw [hget]
  unfold rowFragments
  split
  · rw [lift_bind_eq_ok]
    refine exists_congr fun fragments => and_congr_right fun hfragments => ?_
    have hoverlay := Canvas.overlay_eq_putAll c fragments pixel (pairwise_spanFragments hfragments)
    cases fragments with
    | nil =>
        constructor
        · intro h
          cases h
          rfl
        · rintro rfl
          rfl
    | cons f rest =>
        rw [← hoverlay]
        constructor
        · intro h
          cases h
          rfl
        · rintro rfl
          rfl
  · constructor
    · intro h
      cases h
      exact ⟨[], rfl, rfl⟩
    · rintro ⟨fragments, hfragments, rfl⟩
      cases hfragments
      rfl

/-- A span that does not crash is the plain loop over its visible columns. -/
theorem plotColumns_of_span
    (hcolour : colour.toPixel? = some pixel)
    (h : span y a b colour c = .ok () d) :
    plotColumns y a b colour c = .ok () d := by
  obtain ⟨fragments, hfragments, rfl⟩ := (span_eq_ok hcolour).mp h
  unfold rowFragments at hfragments
  unfold plotColumns
  split at hfragments
  · rename_i hrow
    rw [if_pos hrow]
    obtain ⟨first, last, hfirst, hlast, hmap⟩ := spanFragments_eq_ok.mp hfragments
    refine lift_bind_eq_ok.mpr ⟨first, hfirst, lift_bind_eq_ok.mpr ⟨last, hlast, ?_⟩⟩
    exact forM_plot_of_mapM hcolour hmap c
  · rename_i hrow
    rw [if_neg hrow]
    cases hfragments
    rfl

end Draw
end Diorama
