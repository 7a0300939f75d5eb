import Diorama.Json.Value
import Diorama.Number.Numeral

/-!
# Numbers from document values

Settings take whole numbers and doubles from any document value that denotes one: numbers,
truth values as zero and one, and texts that read as numbers.
-/

namespace Diorama

/-- Why a document value is not the number wanted. -/
inductive ConversionError
  | notAnInteger (text : Text)
  | integerTooLong (digits : Nat)
  | undefinedToInteger
  | infiniteToInteger
  | integerFromOther (typeName : String)
  | notAFloat (text : Text)
  | integerOutOfRange
  | floatFromOther (typeName : String)
  deriving DecidableEq

namespace ConversionError

/-- A report shows at most this many characters of a text in quotes that is no whole number. -/
def shownLength : Nat := 200

/-- The report on a failed conversion. -/
def message : ConversionError → String
  | notAnInteger text =>
      "invalid literal for int() with base 10: "
        ++ String.ofList ((Text.quoted text).toList.take shownLength)
  | integerTooLong digits =>
      "Exceeds the limit (" ++ Number.intText Number.maxIntegerDigits
        ++ " digits) for integer string conversion: value has " ++ Number.intText digits
        ++ " digits; use sys.set_int_max_str_digits() to increase the limit"
  | undefinedToInteger => "cannot convert float NaN to integer"
  | infiniteToInteger => "cannot convert float infinity to integer"
  | integerFromOther typeName =>
      "int() argument must be a string, a bytes-like object or a real number, not '"
        ++ typeName ++ "'"
  | notAFloat text => "could not convert string to float: " ++ Text.quoted text
  | integerOutOfRange => "int too large to convert to float"
  | floatFromOther typeName =>
      "float() argument must be a string or a real number, not '" ++ typeName ++ "'"

end ConversionError

/-- A double cut to a whole number. -/
def truncateFloat
    (x : Float) :
    Except ConversionError Int :=
  match (Number.Exact.ofFloat x).truncate with
  | .ok n => .ok n
  | .error .notANumber => .error .undefinedToInteger
  | .error .infinite => .error .infiniteToInteger

namespace Json

/-- The whole number that a value denotes; the fraction of a double is cut off. -/
def toInteger : Json → Except ConversionError Int
  | .int n => .ok n
  | .bool b => .ok (if b then 1 else 0)
  | .real x => truncateFloat x
  | .text s =>
      match Number.readInteger s with
      | .value n => .ok n
      | .malformed => .error (.notAnInteger s)
      | .tooLong digits => .error (.integerTooLong digits)
  | v => .error (.integerFromOther v.typeName)

/-- The double that a value denotes. -/
def toFloat : Json → Except ConversionError Float
  | .int n =>
      let x := Number.ofInt n
      if x.isFinite then .ok x else .error .integerOutOfRange
  | .bool b => .ok (if b then 1 else 0)
  | .real x => .ok x
  | .text s =>
      match Number.readFloat? s with
      | some x => .ok x
      | none => .error (.notAFloat s)
  | v => .error (.floatFromOther v.typeName)

end Json
end Diorama
