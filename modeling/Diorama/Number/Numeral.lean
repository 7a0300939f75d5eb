import Diorama.Number.Exact
import Diorama.Text.Blank
import Diorama.Text.Digit

/-!
# Reading numbers

Numerals may stand between blanks, use the decimal digits of any script, and hold single
underscores between digits.  `readFloat?` reads decimal fractions with an optional exponent and
the names of the infinities and of not-a-number; `readInteger` reads whole numbers.
-/

namespace Diorama
namespace Number

open Text

/-- Blanks that may surround a numeral: those of ASCII without the information separators. -/
def isNumeralBlank
    (c : Char) :
    Bool :=
  isBlank c && !(decide (0x1c ≤ c.toNat) && decide (c.toNat ≤ 0x1f))

/--
A numeral without surrounding blanks and with its digits as ASCII.  A surrogate is no part of any
numeral, and neither is the character that takes its place.
-/
def plainNumeral
    (t : Text) :
    List Char :=
  let inner :=
    ((t.toChars.dropWhile isNumeralBlank).reverse.dropWhile isNumeralBlank).reverse
  inner.map fun c =>
    match digitValue? c with
    | some d => Char.ofNat (0x30 + d)
    | none => c

/--
A numeral without its underscores; each must stand between two digits.  `digitBefore` tells
whether the character just passed is a digit.
-/
def dropUnderscores
    (digitBefore : Bool) :
    List Char → Option (List Char)
  | [] => some []
  | '_' :: d :: rest =>
      if digitBefore && d.isDigit then (dropUnderscores true rest).map (d :: ·) else none
  | ['_'] => none
  | c :: rest => (dropUnderscores c.isDigit rest).map (c :: ·)

/-- The sign of a numeral and what follows it. -/
def splitSign : List Char → Bool × List Char
  | '-' :: rest => (true, rest)
  | '+' :: rest => (false, rest)
  | rest => (false, rest)

/-- The digits at the front and what follows them. -/
def splitDigits
    (cs : List Char) :
    List Char × List Char :=
  (cs.takeWhile Char.isDigit, cs.dropWhile Char.isDigit)

/-- The number written by decimal digits. -/
def digitsValue
    (digits : List Char) :
    Nat :=
  digits.foldl (fun n c => 10 * n + (c.toNat - 0x30)) 0

/-- The exponent at the end of a numeral; none when there is something else. -/
def readExponent? : List Char → Option Int
  | [] => some 0
  | mark :: rest =>
      if mark = 'e' ∨ mark = 'E' then
        let (negative, rest) := splitSign rest
        match splitDigits rest with
        | ([], _) => none
        | (digits, []) => some (Exact.signed negative (digitsValue digits))
        | _ => none
      else none

/-- The double nearest to `digits * 10 ^ scale`. -/
def ofDecimal
    (digits : Nat)
    (scale : Int) :
    Float :=
  if scale < 0 then Float.ofScientific digits true (-scale).toNat
  else Float.ofScientific digits false scale.toNat

/-- A decimal fraction without its sign. -/
def readMagnitude?
    (cs : List Char) :
    Option Float :=
  let (whole, rest) := splitDigits cs
  let (fraction, rest) :=
    match rest with
    | '.' :: rest => splitDigits rest
    | rest => ([], rest)
  if whole.isEmpty && fraction.isEmpty then none
  else
    (readExponent? rest).map fun exponent =>
      ofDecimal (digitsValue (whole ++ fraction)) (exponent - fraction.length)

/-- The names of the numbers that have no digits. -/
def readNamed?
    (cs : List Char) :
    Option Float :=
  let name := String.ofList (cs.map Char.toLower)
  if name = "inf" ∨ name = "infinity" then some (1.0 / 0.0)
  else if name = "nan" then some (0.0 / 0.0)
  else none

/-- The double that a text names. -/
def readFloat?
    (t : Text) :
    Option Float := do
  let cs ← dropUnderscores false (plainNumeral t)
  let (negative, cs) := splitSign cs
  let x ← (readNamed? cs).orElse fun _ => readMagnitude? cs
  return if negative then -x else x

/-- What reading a whole number comes to. -/
inductive IntegerReading
  | value (n : Int)
  | malformed
  | tooLong (digits : Nat)
  deriving DecidableEq

/-- Whole numbers have at most this many digits. -/
def maxIntegerDigits : Nat := 4300

/--
The whole number that a text names.  Its digits are counted before anything behind them is looked
at.
-/
def readInteger
    (t : Text) :
    IntegerReading :=
  let (negative, cs) := splitSign (plainNumeral t)
  let front := cs.takeWhile fun c => c.isDigit || c == '_'
  match dropUnderscores false front with
  | none => .malformed
  | some digits =>
      if maxIntegerDigits < digits.length then .tooLong digits.length
      else if digits.isEmpty || front.length < cs.length then .malformed
      else .value (Exact.signed negative (digitsValue digits))

end Number
end Diorama
