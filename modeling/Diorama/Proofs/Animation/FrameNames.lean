import Diorama.Animation.FrameName
import Mathlib.Data.List.Pairwise

/-!
# The order of frame names

The number of a frame is padded with zeros to the width of the last number, so all names of an
animation are equally long, and of two numbers with equally many digits the smaller one has the
smaller digit where they first differ.

**Main statements.**
* `ofChars_append_lt`: digits are ordered as the numbers that they stand for.
* `frameName_lt`, `length_frameName`: names are ordered as their frames are, and equally long.
* `sorted_frameNames`: sorting the names of an animation gives the order of its frames.
-/

namespace Diorama

instance : Std.Asymm (fun a b : Symbol => a < b) :=
  ⟨fun _ _ => Nat.lt_asymm⟩

instance : Std.Trichotomous (fun a b : Symbol => a < b) :=
  ⟨fun _ _ hab hba => Symbol.code_injective (Nat.le_antisymm (Nat.not_lt.mp hba) (Nat.not_lt.mp hab))⟩

/-- The value of a digit. -/
theorem toNat_sub_lt_ten
    {c : Char}
    (h : c.isDigit = true) :
    c.toNat - '0'.toNat < 10 := by
  have hrange := Char.isDigit_iff_toNat.mp h
  have hnine : '9'.toNat = '0'.toNat + 9 := rfl
  omega

/-- A smaller number stays smaller, whichever digits are appended to both. -/
theorem ofDigitChars_lt
    {l m : List Char}
    (hlength : l.length = m.length)
    (hl : ∀ c ∈ l, c.isDigit = true)
    {a b : Nat}
    (h : a < b) :
    Nat.ofDigitChars 10 l a < Nat.ofDigitChars 10 m b := by
  induction l generalizing m a b with
  | nil =>
      obtain rfl : m = [] := List.length_eq_zero_iff.mp hlength.symm
      exact h
  | cons c l ih =>
      cases m with
      | nil => cases hlength
      | cons d m =>
          rw [Nat.ofDigitChars_cons, Nat.ofDigitChars_cons]
          have hc := toNat_sub_lt_ten (hl c List.mem_cons_self)
          exact ih (Nat.succ.inj hlength) (fun e he => hl e (List.mem_cons_of_mem _ he)) (by omega)

/-- Equally many digits are ordered as the numbers that they stand for. -/
theorem ofChars_append_lt
    {l m : List Char}
    (hlength : l.length = m.length)
    (hl : ∀ c ∈ l, c.isDigit = true)
    (hm : ∀ c ∈ m, c.isDigit = true)
    {init : Nat}
    (h : Nat.ofDigitChars 10 l init < Nat.ofDigitChars 10 m init)
    (s t : Text) :
    Text.ofChars l ++ s < Text.ofChars m ++ t := by
  induction l generalizing m init with
  | nil =>
      obtain rfl : m = [] := List.length_eq_zero_iff.mp hlength.symm
      exact absurd h (Nat.lt_irrefl _)
  | cons c l ih =>
      cases m with
      | nil => cases hlength
      | cons d m =>
          rw [Nat.ofDigitChars_cons, Nat.ofDigitChars_cons] at h
          have hrest := Nat.succ.inj hlength
          have hdigit := Char.isDigit_iff_toNat.mp (hm d List.mem_cons_self)
          refine List.cons_lt_cons_iff.mpr ?_
          rcases Nat.lt_trichotomy c.toNat d.toNat with hlt | heq | hgt
          · exact .inl hlt
          · obtain rfl : c = d := Char.toNat_inj.mp heq
            exact .inr ⟨rfl, ih hrest (fun e he => hl e (List.mem_cons_of_mem _ he))
              (fun e he => hm e (List.mem_cons_of_mem _ he)) h⟩
          · -- a greater digit would make the number greater, whatever follows
            have hgreater := ofDigitChars_lt hrest.symm
              (fun e he => hm e (List.mem_cons_of_mem _ he))
              (show 10 * init + (d.toNat - '0'.toNat) < 10 * init + (c.toNat - '0'.toNat) by omega)
            exact absurd h (Nat.lt_asymm hgreater)

section

variable {width n : Nat}

theorem paddedNumber_ofNat
    (width n : Nat) :
    paddedNumber width n
      = List.replicate (width - (Nat.toDigits 10 n).length) '0' ++ Nat.toDigits 10 n := by
  have hsign : decide ((n : Int) < 0) = false := decide_eq_false (by omega)
  simp [paddedNumber, hsign, Number.signText, Number.padLeft]

theorem isDigit_of_mem_paddedNumber
    {c : Char}
    (h : c ∈ paddedNumber width n) :
    c.isDigit = true := by
  rw [paddedNumber_ofNat] at h
  rcases List.mem_append.mp h with hzero | hdigit
  · rw [List.eq_of_mem_replicate hzero]
    rfl
  · exact Nat.isDigit_of_mem_toDigits (by omega) (Nat.le_refl 10) hdigit

theorem paddedNumber_ne_nil
    (width n : Nat) :
    paddedNumber width n ≠ [] := by
  rw [paddedNumber_ofNat]
  exact List.append_ne_nil_of_right_ne_nil _ (List.ne_nil_of_length_pos Nat.length_toDigits_pos)

/-- A padded number stands for the number. -/
theorem ofDigitChars_paddedNumber
    (width n : Nat) :
    Nat.ofDigitChars 10 (paddedNumber width n) 0 = n := by
  rw [paddedNumber_ofNat, Nat.ofDigitChars_append, Nat.ofDigitChars_replicate_zero, Nat.mul_zero,
    Nat.ofDigitChars_ten_toDigits]

/-- All numbers up to the last one are padded to its width. -/
theorem length_paddedNumber
    {count : Nat}
    (h : n < count) :
    (paddedNumber (frameDigits count) n).length = frameDigits count := by
  have hlast : ((count : Int) - 1).toNat = count - 1 := by omega
  have hwidth : frameDigits count = (Nat.toDigits 10 (count - 1)).length := by
    rw [frameDigits, hlast]
  have hfits : (Nat.toDigits 10 n).length ≤ frameDigits count := by
    have hpos : 0 < frameDigits count := hwidth ▸ Nat.length_toDigits_pos
    rw [Nat.length_toDigits_le_iff (by omega) hpos]
    have hbound : count - 1 < 10 ^ frameDigits count :=
      (Nat.length_toDigits_le_iff (by omega) hpos).mp (Nat.le_of_eq hwidth.symm)
    omega
  rw [paddedNumber_ofNat, List.length_append, List.length_replicate]
  omega

end

section

variable (basename suffix : Text) {i j count : Nat}

/-- The names of an animation are equally long. -/
theorem length_frameName
    (h : i < count) :
    (frameName basename i count suffix).length
      = basename.length + frameDigits count + suffix.length := by
  simp only [frameName, Text.ofChars, List.length_append, List.length_map, length_paddedNumber h]

/-- The names of an animation are ordered as its frames are. -/
theorem frameName_lt
    (hij : i < j)
    (hj : j < count) :
    frameName basename i count suffix < frameName basename j count suffix := by
  have hlength : (paddedNumber (frameDigits count) i).length
      = (paddedNumber (frameDigits count) j).length := by
    rw [length_paddedNumber (Nat.lt_trans hij hj), length_paddedNumber hj]
  have hvalue : Nat.ofDigitChars 10 (paddedNumber (frameDigits count) i) 0
      < Nat.ofDigitChars 10 (paddedNumber (frameDigits count) j) 0 := by
    rwa [ofDigitChars_paddedNumber, ofDigitChars_paddedNumber]
  rw [frameName, frameName, List.append_assoc, List.append_assoc]
  exact List.append_left_lt (ofChars_append_lt hlength (fun _ => isDigit_of_mem_paddedNumber)
    (fun _ => isDigit_of_mem_paddedNumber) hvalue suffix suffix)

/-- The names of the frames of an animation in their order. -/
def frameNames
    (count : Nat) :
    List Text :=
  (List.range count).map fun i : Nat => frameName basename i count suffix

theorem pairwise_frameNames
    (count : Nat) :
    (frameNames basename suffix count).Pairwise (· < ·) := by
  rw [frameNames, List.pairwise_map]
  refine List.pairwise_lt_range.imp_of_mem fun _ hj hij => ?_
  exact frameName_lt basename suffix hij (List.mem_range.mp hj)

/-- Sorting the names gives the order of the frames. -/
theorem sorted_frameNames
    {count : Nat}
    {sorted : List Text}
    (hperm : sorted.Perm (frameNames basename suffix count))
    (hsorted : sorted.Pairwise (· ≤ ·)) :
    sorted = frameNames basename suffix count := by
  have hpairwise := pairwise_frameNames basename suffix count
  refine List.Perm.eq_of_pairwise (fun a b _ _ hab hba => List.le_antisymm hab hba) hsorted
    (hpairwise.imp fun h => List.lt_asymm h) hperm

end
end Diorama
