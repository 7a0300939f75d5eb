import Diorama.Text.Utf8

/-!
# Names of files

Directories hold names as bytes.  A text is the name made of the UTF-8 bytes of its characters,
and a surrogate from U+DC80 to U+DCFF in it stands for the single byte of its last two digits.
Texts with the same bytes name the same file; `Text.listed` is the one that a directory shows.
-/

namespace Diorama

namespace Symbol

/-- The bytes of a surrogate as if it were a character. -/
def surrogateBytes
    (code : Nat) :
    List UInt8 :=
  [UInt8.ofNat (0xe0 + code / 0x1000), UInt8.ofNat (0x80 + code / 0x40 % 0x40),
    UInt8.ofNat (0x80 + code % 0x40)]

/-- Whether a surrogate stands for a byte. -/
def isByte
    (code : Nat) :
    Bool :=
  decide (0xdc80 ≤ code) && decide (code ≤ 0xdcff)

/-- The bytes of a symbol in a name. -/
def nameBytes : Symbol → List UInt8
  | char c => String.utf8EncodeChar c
  | surrogate index =>
      let code := (surrogate index).code
      if isByte code then [UInt8.ofNat (code - 0xdc00)] else surrogateBytes code

/-- The surrogate that no name can hold, as it stands for no byte. -/
def unnameable?
    (s : Symbol) :
    Option Nat :=
  s.unit?.filter fun code => !isByte code

/-- The symbol of a byte that belongs to no character. -/
def ofByte
    (b : UInt8) :
    Symbol :=
  ofUnit (0xdc00 + b.toNat)

end Symbol

namespace Text

/-- The bytes of a name. -/
def nameBytes
    (name : Text) :
    List UInt8 :=
  name.flatMap Symbol.nameBytes

/-- The character at the front of bytes, given by the first one and the others. -/
def leadingChar?
    (first : UInt8)
    (rest : List UInt8) :
    Option (Char × Nat) :=
  match sequenceLength? first with
  | none => none
  | some wanted =>
      let fitting := fittingBytes first wanted rest
      if fitting + 1 = wanted then
        some (Char.ofNat (sequenceValue first (rest.take fitting)), fitting)
      else none

/-- The text of the bytes of a name. -/
def ofNameBytes
    (bytes : List UInt8) :
    Text :=
  match bytes with
  | [] => []
  | first :: rest =>
      match leadingChar? first rest with
      | some (c, more) => .char c :: ofNameBytes (rest.drop more)
      | none => .ofByte first :: ofNameBytes rest
termination_by bytes.length
decreasing_by
  · simp only [List.length_drop, List.length_cons]
    omega
  · simp

/-- A name as its directory shows it. -/
def listed
    (name : Text) :
    Text :=
  ofNameBytes (nameBytes name)

end Text
end Diorama
