import Diorama.Number.Scientific
import Diorama.Text.Basic

/-!
# Names of frames

The images of an animation are numbered.  Every number has as many digits as that of the last
frame, so the names sort in the order of the frames.
-/

namespace Diorama

/-- The digits of the last of a number of frames. -/
def frameDigits
    (frameCount : Int) :
    Nat :=
  (Nat.toDigits 10 (frameCount - 1).toNat).length

/-- A whole number of `width` characters at least; zeros stand between the sign and the digits. -/
def paddedNumber
    (width : Nat)
    (n : Int) :
    List Char :=
  let sign := Number.signText (decide (n < 0))
  sign ++ Number.padLeft (width - sign.length) '0' (Nat.toDigits 10 n.natAbs)

/-- The name of a frame out of a number of frames. -/
def frameName
    (basename : Text)
    (frame frameCount : Int)
    (suffix : Text) :
    Text :=
  basename ++ Text.ofChars (paddedNumber (frameDigits frameCount) frame) ++ suffix

end Diorama
