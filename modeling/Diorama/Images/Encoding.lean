import Diorama.Canvas.Ppm
import Diorama.Files.FileSystem
import Diorama.Images.Checksum

/-!
# Image files as bytes

The bytes of pictures in the formats that need no compression: pixmaps, bitmaps with 24 bits for
each pixel, and portable network graphics whose data is stored as it is.
-/

namespace Diorama
namespace Picture

/-- The rows of a picture from the top. -/
def rows
    (p : Picture) :
    List (List Pixel) :=
  (List.range p.height).map fun y =>
    (p.pixels.extract (y * p.width) (y * p.width + p.width)).toList

/-- The bytes of a pixmap. -/
def pixmapBytes
    (p : Picture) :
    List UInt8 :=
  (Canvas.ppmHeader p.width p.height).toList.map (fun ch => UInt8.ofNat ch.toNat)
    ++ p.pixels.toList.flatMap Pixel.bytes

/-- A number as bytes, the last one first. -/
def littleEndian : Nat → Nat → List UInt8
  | 0, _ => []
  | width + 1, n => UInt8.ofNat (n % 256) :: littleEndian width (n / 256)

/-- A number as bytes, the first one first. -/
def bigEndian
    (width n : Nat) :
    List UInt8 :=
  (littleEndian width n).reverse

/-- The row of a bitmap: the channels backwards, filled up to a multiple of four bytes. -/
def bitmapRow
    (row : List Pixel) :
    List UInt8 :=
  let bytes := row.flatMap fun p => [p.blue, p.green, p.red]
  bytes ++ List.replicate ((4 - bytes.length % 4) % 4) 0

/-- The bytes of a bitmap. -/
def bitmapBytes
    (p : Picture) :
    List UInt8 :=
  let body := p.rows.reverse.flatMap bitmapRow
  let fileHeader := [0x42, 0x4d] ++ littleEndian 4 (54 + body.length) ++ littleEndian 4 0
    ++ littleEndian 4 54
  let imageHeader := littleEndian 4 40 ++ littleEndian 4 p.width ++ littleEndian 4 p.height
    ++ littleEndian 2 1 ++ littleEndian 2 24 ++ littleEndian 4 0
    ++ littleEndian 4 body.length ++ (List.replicate 16 0)
  fileHeader ++ imageHeader ++ body

/-- A chunk of a name and its data. -/
def chunk
    (name : String)
    (data : List UInt8) :
    List UInt8 :=
  let named := name.toList.map (fun ch => UInt8.ofNat ch.toNat) ++ data
  bigEndian 4 data.length ++ named ++ bigEndian 4 (Checksum.ofBytes named)

/-- The checksum of stored data. -/
def dataChecksum
    (bytes : List UInt8) :
    Nat :=
  let (a, b) := bytes.foldl
    (fun (a, b) byte =>
      let a := (a + byte.toNat) % 65521
      (a, (b + a) % 65521))
    (1, 0)
  b * 65536 + a

/-- Blocks of stored data; `fuel` bounds their number. -/
def storedBlocks : Nat → List UInt8 → List UInt8
  | 0, _ => []
  | fuel + 1, bytes =>
      let block := bytes.take 65535
      let rest := bytes.drop 65535
      let header := (if rest.isEmpty then 1 else 0) :: littleEndian 2 block.length
        ++ littleEndian 2 (65535 - block.length)
      header ++ block ++ (if rest.isEmpty then [] else storedBlocks fuel rest)

/-- The bytes of a portable network graphic. -/
def graphicBytes
    (p : Picture) :
    List UInt8 :=
  let data := p.rows.flatMap fun row => 0 :: row.flatMap Pixel.bytes
  let stored := [0x78, 0x01] ++ storedBlocks (data.length / 65535 + 1) data
    ++ bigEndian 4 (dataChecksum data)
  [0x89, 0x50, 0x4e, 0x47, 0x0d, 0x0a, 0x1a, 0x0a]
    ++ chunk "IHDR" (bigEndian 4 p.width ++ bigEndian 4 p.height ++ [8, 2, 0, 0, 0])
    ++ chunk "IDAT" stored ++ chunk "IEND" []

end Picture

/-- The bytes of a file; an image in a format without bytes of its own is left as a pixmap. -/
def Content.toBytes : Content → List UInt8
  | .bytes held => held
  | .image format picture =>
      if format = "PNG" then picture.graphicBytes
      else if format = "BMP" then picture.bitmapBytes
      else picture.pixmapBytes

end Diorama
