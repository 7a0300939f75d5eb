import Diorama.Files.SystemError
import Diorama.Number.Exact

/-!
# Crashes

What ends a computation without being an error of the script: a number that has no whole number
near it, a colour channel outside of its byte, and the like.
-/

namespace Diorama

/-- Why a computation cannot go on. -/
inductive Crash
  | undefinedToInteger
  | infiniteToInteger
  | channelOutOfRange
  | columnOutOfRange
  | infiniteAngle
  | zeroToNegativePower
  | powerTooLarge
  | tooFewSteps (minimum : Nat)
  | arrayTooLarge
  | lengthsDiffer
  | channelMissing
  | notAVector
  | formatUnknown (format : Text)
  | libraryFailed (name : Text)
  | badPath (defect : PathDefect)
  | tooManyDirectories
  deriving DecidableEq

namespace Crash

/-- The crash of a number that has no nearest whole number. -/
def ofUnroundable : Number.Unroundable → Crash
  | .notANumber => undefinedToInteger
  | .infinite => infiniteToInteger

/-- The whole number of a conversion, or its crash. -/
def whole : Except Number.Unroundable Int → Except Crash Int
  | .ok n => .ok n
  | .error e => .error (ofUnroundable e)

/-- What a crash says, where it says anything of its own. -/
def message? : Crash → Option String
  | tooFewSteps minimum =>
      some ("steps must be >= " ++ String.ofList (Nat.toDigits 10 minimum))
  | _ => none

end Crash
end Diorama
