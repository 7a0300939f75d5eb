import Diorama.Canvas.Ppm
import Diorama.Files.FileSystem
import Diorama.Proofs.Canvas.Grid
import Mathlib.Data.List.TakeWhile

/-!
# Reading pixmaps

A reader of binary pixmaps: the letters `P6`, the width, the height and the greatest channel value
in decimal, blanks between them and a single line feed behind them, and then three bytes for each
pixel.  The pixels may look like digits or line feeds, so the header has to tell where it ends.

**Main statements.**
* `number?_digitBytes`: a number is read up to the first byte that is no digit.
* `read?_toPpm`: the pixmap of a canvas is read back as its picture, and nothing is left over.
* `ppm_lossless`: the pixels are found in their places, and different pictures differ as pixmaps.
-/

namespace Diorama

/-- The colour in a column and a row, counted from the top left corner. -/
def Picture.pixel?
    (p : Picture)
    (column row : Nat) :
    Option Pixel :=
  if column < p.width ∧ row < p.height then p.pixels[row * p.width + column]? else none

namespace Pixmap

/-- The character of a byte in the header. -/
def character
    (b : UInt8) :
    Char :=
  Char.ofNat b.toNat

/-- Whether a byte stands between the parts of the header. -/
def isBlank
    (b : UInt8) :
    Bool :=
  [' ', '\t', '\n', '\r', '\x0b', '\x0c'].contains (character b)

/-- Whether a byte is a digit. -/
def isDigit
    (b : UInt8) :
    Bool :=
  (character b).isDigit

/-- What follows a character at the front. -/
def after?
    (c : Char) :
    List UInt8 → Option (List UInt8)
  | [] => none
  | b :: rest => if character b = c then some rest else none

/-- What follows the blanks at the front, of which there has to be one. -/
def blanks? : List UInt8 → Option (List UInt8)
  | [] => none
  | b :: rest => if isBlank b then some (rest.dropWhile isBlank) else none

/-- The number that the digits at the front stand for, and what follows them. -/
def number?
    (bytes : List UInt8) :
    Option (Nat × List UInt8) :=
  let digits := bytes.takeWhile isDigit
  if digits = [] then none
  else some (Nat.ofDigitChars 10 (digits.map character) 0, bytes.dropWhile isDigit)

/-- The pixels at the front, three bytes each, and what follows them. -/
def pixels? : Nat → List UInt8 → Option (List Pixel × List UInt8)
  | 0, bytes => some ([], bytes)
  | n + 1, red :: green :: blue :: bytes =>
      (pixels? n bytes).map fun (pixels, rest) => (⟨red, green, blue⟩ :: pixels, rest)
  | _ + 1, _ => none

/-- The width, the height and the greatest channel value, and what follows the header. -/
def header?
    (bytes : List UInt8) :
    Option ((Nat × Nat × Nat) × List UInt8) := do
  let rest ← after? 'P' bytes
  let rest ← after? '6' rest
  let rest ← blanks? rest
  let (width, rest) ← number? rest
  let rest ← blanks? rest
  let (height, rest) ← number? rest
  let rest ← blanks? rest
  let (greatest, rest) ← number? rest
  let rest ← after? '\n' rest
  return ((width, height, greatest), rest)

/-- Read a pixmap with channels of one byte; what stands behind it is left over. -/
def read?
    (bytes : List UInt8) :
    Option (Picture × List UInt8) := do
  let ((width, height, greatest), rest) ← header? bytes
  if greatest = 255 then
    let (pixels, rest) ← pixels? (width * height) rest
    return (⟨width, height, pixels.toArray⟩, rest)
  else none

/-! ## The header -/

/-- The byte of a character in the header. -/
def byte
    (c : Char) :
    UInt8 :=
  UInt8.ofNat c.toNat

/-- The digits of a number as bytes. -/
def digitBytes
    (n : Nat) :
    List UInt8 :=
  (Nat.toDigits 10 n).map byte

theorem character_byte
    {c : Char}
    (h : c.toNat < 256) :
    character (byte c) = c := by
  rw [character, byte, UInt8.toNat_ofNat', Nat.mod_eq_of_lt h, Char.ofNat_toNat]

/-- A digit is read as itself. -/
theorem character_byte_of_mem_toDigits
    {n : Nat}
    {c : Char}
    (h : c ∈ Nat.toDigits 10 n) :
    character (byte c) = c ∧ c.isDigit = true := by
  have hdigit : c.isDigit = true := Nat.isDigit_of_mem_toDigits (by omega) (Nat.le_refl 10) h
  have hrange := (Char.isDigit_iff_toNat.mp hdigit).2
  have hnine : '9'.toNat = 57 := rfl
  exact ⟨character_byte (by omega), hdigit⟩

theorem isDigit_of_mem_digitBytes
    {n : Nat}
    {b : UInt8}
    (h : b ∈ digitBytes n) :
    isDigit b = true := by
  obtain ⟨c, hc, rfl⟩ := List.mem_map.mp h
  obtain ⟨hcharacter, hdigit⟩ := character_byte_of_mem_toDigits hc
  rw [isDigit, hcharacter, hdigit]

theorem map_character_digitBytes
    (n : Nat) :
    (digitBytes n).map character = Nat.toDigits 10 n := by
  rw [digitBytes, List.map_map]
  refine (List.map_congr_left fun c hc => ?_).trans (List.map_id _)
  exact (character_byte_of_mem_toDigits hc).1

theorem digitBytes_ne_nil
    (n : Nat) :
    digitBytes n ≠ [] := by
  rw [digitBytes, ne_eq, List.map_eq_nil_iff]
  exact List.ne_nil_of_length_pos Nat.length_toDigits_pos

/-- No digit is a blank. -/
theorem isBlank_eq_false_of_isDigit
    {b : UInt8}
    (h : isDigit b = true) :
    isBlank b = false := by
  have hrange := (Char.isDigit_iff_toNat.mp h).1
  simp only [isBlank, List.contains_eq_mem, decide_eq_false_iff_not]
  intro hmem
  have hblank : (character b).toNat < '0'.toNat := by
    simp only [List.mem_cons, List.not_mem_nil, or_false] at hmem
    rcases hmem with hb | hb | hb | hb | hb | hb <;> rw [hb] <;> decide
  exact Nat.not_le.mpr hblank hrange

/-- A number is read up to the first byte that is no digit. -/
theorem number?_digitBytes
    {b : UInt8}
    (hb : isDigit b = false)
    (n : Nat)
    (rest : List UInt8) :
    number? (digitBytes n ++ b :: rest) = some (n, b :: rest) := by
  have hdigits : ∀ d ∈ digitBytes n, isDigit d = true := fun d => isDigit_of_mem_digitBytes
  have htaken : (digitBytes n ++ b :: rest).takeWhile isDigit = digitBytes n := by
    rw [List.takeWhile_append_of_pos hdigits, List.takeWhile_cons_of_neg (by simp [hb]),
      List.append_nil]
  have hdropped : (digitBytes n ++ b :: rest).dropWhile isDigit = b :: rest := by
    rw [List.dropWhile_append_of_pos hdigits, List.dropWhile_cons_of_neg (by simp [hb])]
  simp only [number?, htaken, hdropped, if_neg (digitBytes_ne_nil n), map_character_digitBytes,
    Nat.ofDigitChars_ten_toDigits]

/-- A blank in front of a number ends where the number begins. -/
theorem blanks?_digitBytes
    {b : UInt8}
    (hb : isBlank b = true)
    (n : Nat)
    (rest : List UInt8) :
    blanks? (b :: (digitBytes n ++ rest)) = some (digitBytes n ++ rest) := by
  obtain ⟨first, digits, hdigits⟩ := List.exists_cons_of_ne_nil (digitBytes_ne_nil n)
  have hfirst : isBlank first = false :=
    isBlank_eq_false_of_isDigit
      (isDigit_of_mem_digitBytes (hdigits ▸ List.mem_cons_self : first ∈ digitBytes n))
  rw [blanks?, if_pos hb, hdigits, List.cons_append, List.dropWhile_cons_of_neg (by simp [hfirst])]

/-- The bytes of a header. -/
def headerBytes
    (width height : Nat) :
    List UInt8 :=
  [byte 'P', byte '6', byte '\n'] ++ digitBytes width ++ [byte ' '] ++ digitBytes height
    ++ [byte '\n'] ++ digitBytes 255 ++ [byte '\n']

theorem map_byte_ppmHeader
    (width height : Nat) :
    (Canvas.ppmHeader width height).toList.map byte = headerBytes width height := by
  have hint (n : Nat) : (Number.intText n).toList = Nat.toDigits 10 n := by
    have hsign : decide ((n : Int) < 0) = false := decide_eq_false (by omega)
    simp [Number.intText, Number.signText, hsign]
  have hend : ("\n255\n" : String).toList = '\n' :: (Nat.toDigits 10 255 ++ ['\n']) := by decide
  simp [Canvas.ppmHeader, headerBytes, digitBytes, hint, hend]

/-- The header of a pixmap ends with its last line feed, whatever stands behind it. -/
theorem header?_headerBytes
    (width height : Nat)
    (rest : List UInt8) :
    header? (headerBytes width height ++ rest) = some ((width, height, 255), rest) := by
  have hletters : character (byte 'P') = 'P' ∧ character (byte '6') = '6'
      ∧ character (byte '\n') = '\n' := by decide
  have hfeed : isBlank (byte '\n') = true ∧ isDigit (byte '\n') = false := by decide
  have hspace : isBlank (byte ' ') = true ∧ isDigit (byte ' ') = false := by decide
  simp only [headerBytes, List.append_assoc, List.cons_append, List.nil_append, header?, after?,
    hletters, if_true, Option.bind_eq_bind, Option.bind_some, blanks?_digitBytes hfeed.1,
    blanks?_digitBytes hspace.1, number?_digitBytes hfeed.2, number?_digitBytes hspace.2]
  rfl

/-! ## The pixels -/

theorem pixels?_flatMap
    (pixels : List Pixel)
    (rest : List UInt8) :
    pixels? pixels.length (pixels.flatMap Pixel.bytes ++ rest) = some (pixels, rest) := by
  induction pixels with
  | nil => rfl
  | cons pixel pixels ih =>
      rw [List.flatMap_cons, List.append_assoc, List.length_cons]
      simp only [Pixel.bytes, List.cons_append, List.nil_append, pixels?, ih, Option.map_some]

end Pixmap

namespace Canvas

open Pixmap

variable {α : Type}

theorem toList_pixels_picture
    (c : Canvas α) :
    c.picture.pixels.toList = c.pixels := by
  rw [picture, pixels, Array.toList_map]

/-- The pixmap of a canvas is told by its picture. -/
theorem toPpm_eq
    (c : Canvas α) :
    c.toPpm = headerBytes c.picture.width c.picture.height
      ++ c.picture.pixels.toList.flatMap Pixel.bytes := by
  rw [toList_pixels_picture, toPpm]
  exact congrArg (· ++ _) (map_byte_ppmHeader c.width c.height)

/-- The pixmap of a canvas is read back as its picture, and nothing is left over. -/
theorem read?_toPpm
    (c : Canvas α) :
    Pixmap.read? c.toPpm = some (c.picture, []) := by
  have hlength : c.picture.pixels.toList.length = c.picture.width * c.picture.height := by
    rw [toList_pixels_picture, pixels, List.length_map, Array.length_toList, c.cells_size, picture]
  have hpixels := pixels?_flatMap c.picture.pixels.toList []
  rw [List.append_nil, hlength] at hpixels
  simp only [Pixmap.read?, toPpm_eq, header?_headerBytes, Option.bind_eq_bind, Option.bind_some,
    if_true, hpixels, Array.toArray_toList]
  rfl

/-- The colour at a position is that of the picture at its index. -/
theorem pixel?_of_index?
    {c : Canvas α}
    {x y : Int}
    {i : Nat}
    (h : c.index? x y = some i) :
    c.pixel? x y = c.picture.pixels[i]? := by
  obtain ⟨⟨hx, hxw, hy, hyh⟩, rfl⟩ := covers_of_index? h
  have hrow : wrapIndex c.height (c.height - 1 - y) = some (c.height - 1 - y.toNat) := by
    rw [wrapIndex, if_pos (by omega)]
    congr 1
    omega
  have hcolumn : wrapIndex c.width x = some x.toNat := by rw [wrapIndex, if_pos (by omega)]
  simp only [pixel?, hrow, hcolumn, Option.bind_eq_bind, Option.bind_some, picture,
    Array.getElem?_map]

/-- A canvas shows something at every position, and its picture the same in the row from the top. -/
theorem pixel?_picture
    (c : Canvas α)
    {x row : Nat}
    (hx : x < c.width)
    (hrow : row < c.height) :
    ∃ pixel, c.picture.pixel? x row = some pixel
      ∧ c.pixel? x (c.height - 1 - row) = some pixel := by
  have hindex : c.index? x (c.height - 1 - row) = some (row * c.width + x) := by
    rw [index?_eq_some ⟨by omega, by omega, by omega, by omega⟩]
    have hback : c.height - 1 - ((c.height : Int) - 1 - row).toNat = row := by omega
    rw [hback, Int.toNat_natCast]
  have hbound : row * c.width + x < c.picture.pixels.size := by
    rw [picture, Array.size_map]
    exact index?_lt hindex
  have hfound := Array.getElem?_eq_getElem hbound
  refine ⟨c.picture.pixels[row * c.width + x], ?_, (pixel?_of_index? hindex).trans hfound⟩
  rw [Picture.pixel?, if_pos ⟨hx, hrow⟩]
  exact hfound

/-- Pictures are the same if the canvases are of one size and show the same everywhere. -/
theorem picture_eq_iff
    (c d : Canvas α) :
    c.picture = d.picture
      ↔ c.width = d.width ∧ c.height = d.height
        ∧ ∀ x y, c.Covers x y → c.pixel? x y = d.pixel? x y := by
  have hsame (hwidth : c.width = d.width) (hheight : c.height = d.height) (x y : Int) :
      d.index? x y = c.index? x y := by
    rw [index?, index?, hwidth, hheight]
  constructor
  · intro h
    have hwidth : c.width = d.width := congrArg Picture.width h
    have hheight : c.height = d.height := congrArg Picture.height h
    refine ⟨hwidth, hheight, fun x y hcovers => ?_⟩
    have hindex := index?_eq_some hcovers
    rw [pixel?_of_index? hindex, pixel?_of_index? ((hsame hwidth hheight x y).trans hindex), h]
  · rintro ⟨hwidth, hheight, hpixels⟩
    have harrays : c.picture.pixels = d.picture.pixels := by
      apply Array.ext_getElem?
      intro i
      by_cases hi : i < c.cells.size
      · obtain ⟨x, y, hindex⟩ := exists_index? hi
        rw [← pixel?_of_index? hindex,
          ← pixel?_of_index? ((hsame hwidth hheight x y).trans hindex)]
        exact hpixels x y (covers_of_index? hindex).1
      · have hi' : ¬i < d.cells.size := by rwa [d.cells_size, ← hwidth, ← hheight, ← c.cells_size]
        rw [Array.getElem?_eq_none (by simpa [picture] using hi),
          Array.getElem?_eq_none (by simpa [picture] using hi')]
    exact (Picture.mk.injEq ..).mpr ⟨hwidth, hheight, harrays⟩

/--
A pixmap loses nothing of a canvas: reading it gives the width and the height, in each column of
each row from the top the colour of the pixel there, and no rest.  So the pixmaps of two canvases
are the same exactly if these are of one size and show the same at every position.
-/
theorem ppm_lossless
    (c : Canvas α) :
    (∃ p, Pixmap.read? c.toPpm = some (p, [])
      ∧ p.width = c.width
      ∧ p.height = c.height
      ∧ ∀ x row : Nat, x < c.width → row < c.height →
        ∃ pixel, p.pixel? x row = some pixel ∧ c.pixel? x (c.height - 1 - row) = some pixel)
      ∧ ∀ d : Canvas α, c.toPpm = d.toPpm
        ↔ c.width = d.width ∧ c.height = d.height
          ∧ ∀ x y, c.Covers x y → c.pixel? x y = d.pixel? x y := by
  refine ⟨⟨c.picture, c.read?_toPpm, rfl, rfl, fun x row => c.pixel?_picture⟩, fun d => ?_⟩
  rw [← picture_eq_iff]
  constructor
  · intro hbytes
    have hread : some (c.picture, ([] : List UInt8)) = some (d.picture, []) := by
      rw [← read?_toPpm, ← read?_toPpm, hbytes]
    exact congrArg Prod.fst (Option.some.inj hread)
  · intro hpicture
    rw [toPpm_eq, toPpm_eq, hpicture]

/-- Pixels that look like a number and a line feed are not taken for a part of the header. -/
example :
    (Pixmap.read? (blank 1 2 ⟨0x31, 0x32, 0x0a⟩ : Canvas Rat).toPpm).map
        (fun r => (r.1.width, r.1.height, r.1.pixels, r.2))
      = some (1, 2, #[⟨0x31, 0x32, 0x0a⟩, ⟨0x31, 0x32, 0x0a⟩], []) := by
  decide

end Canvas
end Diorama
