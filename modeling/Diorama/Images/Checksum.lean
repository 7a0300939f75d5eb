/-!
# Checksums

The cyclic redundancy check of 32 bits, least significant bit first, with the polynomial
0xedb88320.  A byte is passed through a table of 256 entries.
-/

namespace Diorama
namespace Checksum

/-- One bit further on. -/
def passBit
    (state : UInt32) :
    UInt32 :=
  if state &&& 1 = 1 then (0xedb88320 : UInt32) ^^^ (state >>> 1) else state >>> 1

/-- The states after eight bits, by the state before them. -/
def table : Array UInt32 :=
  (Array.range 256).map fun n => (List.range 8).foldl (fun state _ => passBit state) n.toUInt32

/-- The entry of the table for the lowest byte of a state. -/
def entry
    (state : UInt32) :
    UInt32 :=
  table.getD (state &&& 0xff).toNat 0

/-- The state before the first byte. -/
def start : UInt32 := 0xffffffff

/-- The state after a byte. -/
def passByte
    (state : UInt32)
    (byte : UInt8) :
    UInt32 :=
  entry (state ^^^ byte.toUInt32) ^^^ (state >>> 8)

/-- The checksum after the last byte. -/
def finish
    (state : UInt32) :
    Nat :=
  (state ^^^ 0xffffffff).toNat

/-- The checksum of bytes. -/
def ofBytes
    (bytes : List UInt8) :
    Nat :=
  finish (bytes.foldl passByte start)

end Checksum
end Diorama
