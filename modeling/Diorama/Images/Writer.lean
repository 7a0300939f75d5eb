import Diorama.Config.Settings
import Diorama.Images.Services
import Diorama.Render.Outlet
import Diorama.Text.Utf8

/-!
# Writing images

A canvas is saved in two steps: it is written as a pixmap, and the file is then converted into the
format of its name by the image library or the tool of the host.  A file whose conversion fails is
removed again, unless the conversion fails in a way that is not a fault of the script.
-/

namespace Diorama

/-- A plain pixmap. -/
def pixmapFormat : Text := "PPM"

/-- Why a written pixmap was not converted. -/
inductive ConversionFailure
  | fault (fault : SaveFault)
  | crash (cause : Crash)

/-- What is done about a file that was written as a pixmap. -/
abbrev Conversion := Path → FileSystem → Except ConversionFailure Unit × FileSystem

/-! ## Pixmaps -/

namespace ImageWriter

/-- The failure of a save under a path that the system refuses. -/
def notWritten
    (path : Path)
    (e : SystemError) :
    SaveFailure :=
  .script (.ofFault (.notSaved (.notWritten path.toText e)))

/-- Write a canvas as a pixmap into a directory that is there. -/
def writeFile
    (canvas : Canvas Float)
    (path : Path)
    (fs : FileSystem) :
    Except SaveFailure Unit × FileSystem :=
  match path.defect? with
  | some defect => (.error (.crash (.badPath defect)), fs)
  | none =>
      match fs.write path (.image pixmapFormat canvas.picture) with
      | .error e => (.error (notWritten path e), fs)
      | .ok fs => (.ok (), fs)

/-- Write a canvas as a pixmap, and first the missing directories of its path. -/
def writePixmap
    (limits : Limits)
    (canvas : Canvas Float)
    (path : Path)
    (fs : FileSystem) :
    Except SaveFailure Unit × FileSystem :=
  let parent := path.parent
  match parent.defect? with
  | some defect => (.error (.crash (.badPath defect)), fs)
  | none =>
      match fs.lookup parent with
      | .error e => (.error (notWritten path e), fs)
      | .ok (some _) => writeFile canvas path fs
      | .ok none =>
          match fs.makeDirectories limits.newDirectories parent with
          | (fs, some (.system e)) => (.error (notWritten path e), fs)
          | (fs, some .tooManyMissing) => (.error (.crash .tooManyDirectories), fs)
          | (fs, none) => writeFile canvas path fs

end ImageWriter

/-! ## Conversions -/

namespace Conversion

/-- Leave the pixmap as it is. -/
def leave : Conversion := fun _ fs => (.ok (), fs)

/-- What comes of a failure of the image library. -/
def libraryFailure
    (path : Path)
    (format : Text) :
    LibraryError → ConversionFailure
  | .reported text => .fault (.notConverted path.toText format text)
  | .noEncoder unknown => .crash (.formatUnknown unknown)
  | .other name => .crash (.libraryFailed name)

/-- Have a library read the file and write it again in a format. -/
def throughLibrary
    (library : ImageLibrary)
    (format : Text) :
    Conversion := fun path fs =>
  match library.load path fs with
  | .error e => (.error (libraryFailure path format e), fs)
  | .ok picture =>
      match library.save picture format path fs with
      | (.error e, fs) => (.error (libraryFailure path format e), fs)
      | (.ok (), fs) => (.ok (), fs)

/-- The name of the tool that converts. -/
def toolName : Text := "magick"

/-- What a tool tells of its failure. -/
def toolReason : ToolError → Text
  | .failed stream => Text.trim (Text.ofChars (Text.decodeReplacing stream))
  | .notRun text => text

/-- Have a tool convert the file, if there is one. -/
def throughTool
    (tool? : Option ConvertTool) :
    Conversion := fun path fs =>
  match tool? with
  | none => (.error (.fault (.toolMissing toolName path.toText)), fs)
  | some tool =>
      match tool path fs with
      | (.error e, fs) => (.error (.fault (.toolFailed toolName path.toText (toolReason e))), fs)
      | (.ok (), fs) => (.ok (), fs)

/-- Remove a file whose conversion failed; where that fails as well, this is what is told. -/
def withdraw
    (fault : SaveFault)
    (path : Path)
    (fs : FileSystem) :
    Except SaveFailure Path × FileSystem :=
  match fs.remove path with
  | .ok fs => (.error (.script (.ofFault (.notSaved fault))), fs)
  | .error e => (.error (.system e.message), fs)

/-- Save a canvas as a pixmap and convert it; a file whose conversion fails is removed. -/
def save
    (convert : Conversion)
    (limits : Limits)
    (canvas : Canvas Float)
    (path : Path)
    (fs : FileSystem) :
    Except SaveFailure Path × FileSystem :=
  match ImageWriter.writePixmap limits canvas path fs with
  | (.error e, fs) => (.error e, fs)
  | (.ok (), fs) =>
      match convert path fs with
      | (.error (.fault fault), fs) => withdraw fault path fs
      | (.error (.crash cause), fs) => (.error (.crash cause), fs)
      | (.ok (), fs) => (.ok path, fs)

/-- The outlet that saves through a conversion; showing a canvas leaves no trace in the files. -/
def outlet
    (convert : Conversion)
    (limits : Limits) :
    Outlet FileSystem where
  save := convert.save limits
  present := fun _ fs => (.ok (), fs)

end Conversion

/-! ## Writers -/

/-- How images are written: by which converter, and in which format where no suffix names one. -/
structure ImageWriter where
  converter : Converter
  defaultFormat : Text

namespace ImageWriter

/-- The writer of a converter and a default format in any case. -/
def new
    (converter : Converter)
    (defaultFormat : Text) :
    ImageWriter :=
  ⟨converter, Text.upper defaultFormat⟩

/-- The format that the name of a file stands for. -/
def formatFor
    (w : ImageWriter)
    (library : ImageLibrary)
    (path : Path) :
    Except SaveFault Text :=
  let suffix := Text.lower path.suffix
  if suffix = "" then .ok w.defaultFormat
  else
    match library.extension? suffix with
    | some format => .ok format
    | none => .error (.unsupportedFormat suffix path.toText)

/-- The conversion of a writer. -/
def conversion
    (w : ImageWriter)
    (images : ImageServices) :
    Conversion := fun path fs =>
  match w.converter with
  | .none => Conversion.leave path fs
  | .magick => Conversion.throughTool images.tool? path fs
  | .pillow =>
      match w.formatFor images.library path with
      | .error fault => (.error (.fault fault), fs)
      | .ok format => Conversion.throughLibrary images.library format path fs

/-- Save a canvas under a path. -/
def save
    (w : ImageWriter)
    (host : Host)
    (canvas : Canvas Float)
    (path : Path)
    (fs : FileSystem) :
    Except SaveFailure Path × FileSystem :=
  (w.conversion host.images).save host.limits canvas path fs

/-- The outlet of a writer. -/
def outlet
    (w : ImageWriter)
    (host : Host) :
    Outlet FileSystem :=
  (w.conversion host.images).outlet host.limits

end ImageWriter

/-- The converter of one of the three names, in any case and between blanks. -/
def Converter.ofName?
    (t : Text) :
    Option Converter :=
  [Converter.pillow, .magick, .none].find? fun c =>
    Text.ofString c.name == Text.lower (Text.trim t)

/-- The writer of a converter by its name. -/
def ImageWriter.ofName?
    (name defaultFormat : Text) :
    Option ImageWriter :=
  (Converter.ofName? name).map fun c => .new c defaultFormat

/-- The writer that settings ask for. -/
def Settings.imageWriter
    (settings : Settings) :
    ImageWriter :=
  .new settings.output.converter settings.output.defaultFormat

end Diorama
