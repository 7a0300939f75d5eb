import Diorama.Files.FileSystem
import Diorama.Limits

/-!
# Image services

An image file is brought into its format by a library or by a separate tool.  What they can do is up
to the host of the program, so both are values that it is given; said here is only how they are
asked and how they answer.

**Main statements.**
* `ImageLibrary.ofFormats`: the library of some suffixes and encoders.
-/

namespace Diorama

/-- What an image library answers if it fails. -/
inductive LibraryError
  /-- A report on a file or on a picture. -/
  | reported (text : Text)
  /-- A format that it has no encoder for. -/
  | noEncoder (format : Text)
  /-- An error of any other name. -/
  | other (name : Text)
  deriving DecidableEq

/-- A library for image files. -/
structure ImageLibrary where
  /-- The format that it takes a suffix for, if it knows the suffix. -/
  extension? : Text → Option Text
  /-- The picture in the file of a path. -/
  load : Path → FileSystem → Except LibraryError Picture
  /-- Write a picture in a format to the file of a path. -/
  save : Picture → Text → Path → FileSystem → Except LibraryError Unit × FileSystem

/-- Why a tool did not convert a file. -/
inductive ToolError
  /-- It failed, and left this on its error stream. -/
  | failed (stream : List UInt8)
  /-- It could not be run. -/
  | notRun (text : Text)
  deriving DecidableEq

/-- A tool that converts the file of a path in place. -/
abbrev ConvertTool := Path → FileSystem → Except ToolError Unit × FileSystem

/-- What can be done to image files; the tool may be missing. -/
structure ImageServices where
  library : ImageLibrary
  tool? : Option ConvertTool := none

/-- What the program finds on its host. -/
structure Host where
  images : ImageServices
  limits : Limits := {}

namespace ImageLibrary

/--
The library that takes suffixes for formats, can write some of these, and knows a picture in every
format again.
-/
def ofFormats
    (suffixes : List (Text × Text))
    (encoders : List Text) :
    ImageLibrary where
  extension? suffix := suffixes.lookup suffix
  load path fs :=
    match fs.read path with
    | .ok (.image _ picture) => .ok picture
    | .ok (.bytes _) =>
        .error (.reported ("cannot identify image file " ++ Text.quoted path.toText))
    | .error e => .error (.reported e.message)
  save picture format path fs :=
    if encoders.contains format then
      match fs.write path (.image format picture) with
      | .ok fs => (.ok (), fs)
      | .error e => (.error (.reported e.message), fs)
    else (.error (.noEncoder format), fs)

end ImageLibrary
end Diorama
