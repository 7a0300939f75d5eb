import Diorama.Canvas.Span

/-!
# Canvases by position

A canvas is its size, its background and the cells at its positions: the positions of the grid and
the indices of the array are in bijection, and putting a pixel changes the cell at one position.

**Main statements.**
* `Canvas.ext_cell?`: canvases with the same cells are equal.
* `Canvas.cell?_put`: what putting a pixel changes.
-/

namespace Diorama

/-- What a cell becomes when something of a depth arrives. -/
def Cell.receive
    {α : Type}
    [Scalar α]
    (cell : Cell α)
    (z : α)
    (pixel : Pixel) :
    Cell α :=
  if cell.shows z then ⟨pixel, some z⟩ else cell

namespace Canvas

variable {α : Type} {c d : Canvas α} {x y : Int} {i : Nat}

/-- Two canvases of one size and background. -/
structure SameGrid
    (c d : Canvas α) : Prop where
  width : d.width = c.width
  height : d.height = c.height
  background : d.background = c.background

theorem SameGrid.refl
    (c : Canvas α) :
    c.SameGrid c :=
  ⟨rfl, rfl, rfl⟩

theorem SameGrid.trans
    {e : Canvas α}
    (h : c.SameGrid d)
    (h' : d.SameGrid e) :
    c.SameGrid e :=
  ⟨h'.width.trans h.width, h'.height.trans h.height, h'.background.trans h.background⟩

theorem SameGrid.symm
    (h : c.SameGrid d) :
    d.SameGrid c :=
  ⟨h.width.symm, h.height.symm, h.background.symm⟩

/-- A position of the grid. -/
def Covers
    (c : Canvas α)
    (x y : Int) :
    Prop :=
  0 ≤ x ∧ x < c.width ∧ 0 ≤ y ∧ y < c.height

theorem SameGrid.covers_iff
    (h : c.SameGrid d) :
    d.Covers x y ↔ c.Covers x y := by
  unfold Covers
  rw [h.width, h.height]

theorem index?_eq_some
    (h : c.Covers x y) :
    c.index? x y = some ((c.height - 1 - y.toNat) * c.width + x.toNat) :=
  if_pos h

theorem covers_of_index?
    (h : c.index? x y = some i) :
    c.Covers x y ∧ i = (c.height - 1 - y.toNat) * c.width + x.toNat := by
  unfold index? at h
  split at h
  · rename_i hcovers
    exact ⟨hcovers, (Option.some.inj h).symm⟩
  · cases h

theorem index?_lt
    (h : c.index? x y = some i) :
    i < c.cells.size := by
  obtain ⟨⟨hx, hxw, hy, hyh⟩, rfl⟩ := covers_of_index? h
  have hrow : (c.height - 1 - y.toNat + 1) * c.width ≤ c.height * c.width :=
    Nat.mul_le_mul_right c.width (by omega)
  rw [c.cells_size, Nat.mul_comm c.width]
  rw [Nat.add_mul, Nat.one_mul] at hrow
  omega

/-- Different positions have different indices. -/
theorem index?_injective
    {x' y' : Int}
    (h : c.index? x y = some i)
    (h' : c.index? x' y' = some i) :
    x = x' ∧ y = y' := by
  obtain ⟨⟨hx, hxw, hy, hyh⟩, hi⟩ := covers_of_index? h
  obtain ⟨⟨hx', hxw', hy', hyh'⟩, hi'⟩ := covers_of_index? h'
  have hcolumn : ∀ row column : Nat,
      column < c.width → (row * c.width + column) % c.width = column := by
    intro row column hcolumn
    rw [Nat.mul_comm, Nat.mul_add_mod, Nat.mod_eq_of_lt hcolumn]
  have hrow : ∀ row column : Nat, column < c.width → (row * c.width + column) / c.width = row := by
    intro row column hcolumn
    rw [Nat.mul_comm, Nat.mul_add_div (by omega), Nat.div_eq_of_lt hcolumn, Nat.add_zero]
  have hxs : x.toNat = x'.toNat := by
    rw [← hcolumn (c.height - 1 - y.toNat) x.toNat (by omega), ← hi, hi',
      hcolumn _ x'.toNat (by omega)]
  have hys : c.height - 1 - y.toNat = c.height - 1 - y'.toNat := by
    rw [← hrow (c.height - 1 - y.toNat) x.toNat (by omega), ← hi, hi',
      hrow _ x'.toNat (by omega)]
  omega

/-- Every index within the cells is that of a position. -/
theorem exists_index?
    (h : i < c.cells.size) :
    ∃ x y, c.index? x y = some i := by
  rw [c.cells_size] at h
  have hwidth : 0 < c.width := by
    apply Nat.pos_of_ne_zero
    intro hempty
    rw [hempty, Nat.zero_mul] at h
    exact Nat.not_lt_zero i h
  have hrow : i / c.width < c.height := Nat.div_lt_of_lt_mul h
  have hcolumn : i % c.width < c.width := Nat.mod_lt i hwidth
  have hsplit := Nat.div_add_mod i c.width
  generalize i / c.width = row at hrow hsplit
  generalize i % c.width = column at hcolumn hsplit
  refine ⟨column, (c.height - 1 - row : Nat), ?_⟩
  rw [index?_eq_some ⟨by omega, by omega, by omega, by omega⟩]
  simp only [Int.toNat_natCast]
  have hback : c.height - 1 - (c.height - 1 - row) = row := by omega
  rw [hback, Nat.mul_comm, hsplit]

theorem covers_of_cell?
    {cell : Cell α}
    (h : c.cell? x y = some cell) :
    c.Covers x y := by
  unfold cell? at h
  cases hindex : c.index? x y with
  | none => simp [hindex] at h
  | some i => exact (covers_of_index? hindex).1

theorem cell?_eq_none
    (h : ¬c.Covers x y) :
    c.cell? x y = none := by
  cases hcell : c.cell? x y with
  | none => rfl
  | some cell => exact absurd (covers_of_cell? hcell) h

/-- Canvases of one size and background that have the same cells are equal. -/
theorem ext_cell?
    (hgrid : c.SameGrid d)
    (hcells : ∀ x y, c.cell? x y = d.cell? x y) :
    c = d := by
  obtain ⟨w, h, background, cells, hsize⟩ := c
  obtain ⟨w', h', background', cells', hsize'⟩ := d
  obtain rfl : w' = w := hgrid.width
  obtain rfl : h' = h := hgrid.height
  obtain rfl : background' = background := hgrid.background
  have hequal : cells = cells' := by
    apply Array.ext_getElem?
    intro i
    by_cases hi : i < cells.size
    · obtain ⟨x, y, hindex⟩ := exists_index? (c := ⟨w', h', background', cells, hsize⟩) hi
      have hindex' : (⟨w', h', background', cells', hsize'⟩ : Canvas α).index? x y = some i :=
        hindex
      have hcell := hcells x y
      simp only [cell?, hindex, hindex', Option.bind_some] at hcell
      exact hcell
    · have hi' : ¬i < cells'.size := by rwa [hsize', ← hsize]
      rw [Array.getElem?_eq_none (Nat.le_of_not_lt hi),
        Array.getElem?_eq_none (Nat.le_of_not_lt hi')]
  subst hequal
  rfl

section Changes

variable {cell : Cell α}

theorem cell?_setCell_self
    (h : c.index? x y = some i) :
    (c.setCell i cell).cell? x y = some cell := by
  have hbound := index?_lt h
  have hindex : (c.setCell i cell).index? x y = some i := h
  rw [cell?, hindex, Option.bind_some]
  exact Array.getElem?_setIfInBounds_self_of_lt hbound

theorem cell?_setCell_of_ne
    {x' y' : Int}
    (h : c.index? x y = some i)
    (hne : ¬(x' = x ∧ y' = y)) :
    (c.setCell i cell).cell? x' y' = c.cell? x' y' := by
  have hsame : (c.setCell i cell).index? x' y' = c.index? x' y' := rfl
  unfold cell?
  rw [hsame]
  cases hindex : c.index? x' y' with
  | none => rfl
  | some j =>
      have hij : i ≠ j := by
        rintro rfl
        exact hne (index?_injective hindex h)
      simp only [Option.bind_some, setCell]
      rw [Array.getElem?_setIfInBounds_ne hij]

end Changes

section Puts

variable [Scalar α] {z : α} {pixel : Pixel}

/-- Putting a pixel changes the cell at its position, and no other. -/
theorem cell?_put
    (c : Canvas α)
    (x y : Int)
    (z : α)
    (pixel : Pixel)
    (x' y' : Int) :
    (c.put x y z pixel).cell? x' y'
      = if x' = x ∧ y' = y then (c.cell? x y).map fun cell => cell.receive z pixel
        else c.cell? x' y' := by
  cases hindex : c.index? x y with
  | none =>
      have hnone : c.cell? x y = none := by rw [cell?, hindex, Option.bind_none]
      simp only [put, hindex]
      split
      · rename_i hsame
        rw [hsame.1, hsame.2, hnone, Option.map_none]
      · rfl
  | some i =>
      have hcell : c.cell? x y = c.cells[i]? := by rw [cell?, hindex, Option.bind_some]
      have hfound := Array.getElem?_eq_getElem (index?_lt hindex)
      rw [hfound] at hcell
      simp only [put, hindex, hfound, hcell, Option.map_some, Cell.receive]
      split
      · rename_i hshows
        split
        · rename_i hsame
          rw [hsame.1, hsame.2, cell?_setCell_self hindex]
        · rename_i hother
          exact cell?_setCell_of_ne hindex hother
      · split
        · rename_i hsame
          rw [hsame.1, hsame.2, hcell]
        · rfl

theorem sameGrid_put
    (c : Canvas α)
    (x y : Int)
    (z : α)
    (pixel : Pixel) :
    c.SameGrid (c.put x y z pixel) := by
  unfold put
  split
  · exact .refl c
  · split
    · exact .refl c
    · split
      · exact ⟨rfl, rfl, rfl⟩
      · exact .refl c

end Puts

end Canvas
end Diorama
