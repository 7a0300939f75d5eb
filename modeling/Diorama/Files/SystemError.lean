import Diorama.Files.Name
import Diorama.Files.Path
import Diorama.Number.Scientific

/-!
# Errors of the file system

What an operation on a file can fail with, and its text with the number of the error and the
path in quotes.  A path that no file system could hold is refused before it is looked up.
-/

namespace Diorama

/-- Why an operation on a path failed. -/
inductive SystemCause
  | noSuchFile
  | notADirectory
  | isADirectory
  | alreadyExists
  | nameTooLong
  | permissionDenied
  | tooManyLinks
  deriving DecidableEq

namespace SystemCause

/-- The number of an error. -/
def number : SystemCause → Nat
  | noSuchFile => 2
  | notADirectory => 20
  | isADirectory => 21
  | alreadyExists => 17
  | nameTooLong => 36
  | permissionDenied => 13
  | tooManyLinks => 40

/-- The description of an error. -/
def description : SystemCause → String
  | noSuchFile => "No such file or directory"
  | notADirectory => "Not a directory"
  | isADirectory => "Is a directory"
  | alreadyExists => "File exists"
  | nameTooLong => "File name too long"
  | permissionDenied => "Permission denied"
  | tooManyLinks => "Too many levels of symbolic links"

end SystemCause

/-- A failed operation and the path that it was given. -/
structure SystemError where
  cause : SystemCause
  path : Text
  deriving DecidableEq

/-- The text of an error. -/
def SystemError.message
    (e : SystemError) :
    String :=
  "[Errno " ++ Number.intText e.cause.number ++ "] " ++ e.cause.description ++ ": "
    ++ Text.quoted e.path

/-- Why a path can be no path of any file system. -/
inductive PathDefect
  | nullCharacter
  | loneSurrogates (position : Nat) (units : List Nat)
  deriving DecidableEq

/-- The report on a defect. -/
def PathDefect.message : PathDefect → String
  | nullCharacter => "embedded null byte"
  | loneSurrogates position [unit] =>
      "'utf-8' codec can't encode character '"
        ++ String.ofList (Text.backslash :: 'u' :: Text.hexDigits 4 unit)
        ++ "' in position " ++ Number.intText position ++ ": surrogates not allowed"
  | loneSurrogates position units =>
      "'utf-8' codec can't encode characters in position " ++ Number.intText position ++ "-"
        ++ Number.intText (position + (units.length - 1)) ++ ": surrogates not allowed"

/-- What is wrong with a path, if anything. -/
def Path.defect?
    (p : Path) :
    Option PathDefect :=
  let text := p.toText
  let before := text.takeWhile fun c => c.unnameable?.isNone
  match ((text.drop before.length).map Symbol.unit?).takeWhile Option.isSome with
  | [] => if text.any fun c => c.code == 0 then some .nullCharacter else none
  | units => some (.loneSurrogates before.length (units.filterMap id))

end Diorama
