import Diorama.CommandLine.Program
import Diorama.Images.Encoding
import Diorama.Render.WriteLog

/-!
# The executable

The program is a function of the command line and the file system.  This module finds out what
stands at the places that a run may touch, evaluates the program there, and carries out what it
changed.  Only places whose names are made of characters can be reached, and a link is entered as
what it leads to.  Images are written in the formats whose bytes are known; there is no tool.
-/

namespace Diorama

/-- The library of the formats whose bytes are known. -/
def ownLibrary : ImageLibrary :=
  .ofFormats [(".png", "PNG"), (".bmp", "BMP"), (".ppm", "PPM"), (".pgm", "PPM")]
    ["PNG", "BMP", "PPM"]

/-- The host of the executable. -/
def ownHost : Host where
  images := { library := ownLibrary }

/-- The paths in front of a path, and the path itself. -/
def Path.prefixPaths
    (p : Path) :
    List Path :=
  (List.range (p.names.length + 1)).map fun n => { p with names := p.names.take n }

/-- The files that arguments name. -/
def Arguments.paths
    (a : Arguments) :
    List Path :=
  let config :=
    match a.config with
    | .text path => [Path.ofText path]
    | _ => []
  config ++ (a.script.map Path.ofText).toList

/-- The files that a run may write, as far as its settings and its script can be read. -/
def Arguments.targets
    (a : Arguments)
    (fs : FileSystem) :
    List Path :=
  match Settings.load ownHost.limits fs (.ofJson a.config) a.overrides with
  | .error _ => []
  | .ok settings =>
      match Script.load fs (Path.ofText (a.script.getD [])) with
      | .error _ => []
      | .ok statements => (settings.writeLog statements).eraseDups

/-- Enter what stands at one path. -/
def surveyPath
    (fs : FileSystem)
    (p : Path) :
    IO FileSystem := do
  if p.defect?.isSome then return fs
  match fs.place p with
  | .error _ => return fs
  | .ok place =>
      if (fs.node? place).isSome then return fs
      let some text := p.toText.toString? | return fs
      let real := (← IO.currentDir) / text
      if ← real.isDir then return fs.put place (.directory [])
      if ← real.pathExists then
        return fs.put place (.file (.bytes (← IO.FS.readBinFile real).toList))
      return fs

/-- Enter what stands at paths and on the way to them. -/
def survey
    (fs : FileSystem)
    (paths : List Path) :
    IO FileSystem :=
  (paths.flatMap Path.prefixPaths).foldlM surveyPath fs

/-- A text for the terminal: surrogates are escaped by their numbers. -/
def terminalText
    (text : Text) :
    String :=
  String.ofList <| text.flatMap fun
    | .char c => [c]
    | .surrogate index => Json.escapeUnit (Symbol.surrogate index).code

/-- The path of a place that can be reached. -/
def placePath
    (place : Place) :
    IO String :=
  let text := Path.toText ⟨.absolute, place⟩
  match text.toString? with
  | some path => pure path
  | none => throw (IO.userError ("cannot reach " ++ terminalText text))

/-- Carry out the changes from one state of the file system to another. -/
def carryOut
    (before after : FileSystem) :
    IO Unit := do
  for (place, node) in before.nodes do
    match node with
    | .directory _ => pure ()
    | .file _ | .link _ =>
        if (after.node? place).isNone then IO.FS.removeFile (← placePath place)
  for (place, node) in after.nodes do
    match node with
    | .directory _ =>
        if (before.node? place).isNone then IO.FS.createDirAll (← placePath place)
    | .file (.bytes _) | .link _ => pure ()
    | .file content =>
        IO.FS.writeBinFile (← placePath place) (ByteArray.mk content.toBytes.toArray)

/-- What is printed on how the program is called. -/
def usageText : String :=
  "usage: scenescript [-h] [--config CONFIG] [--output-dir OUTPUT_DIR] [--width WIDTH]\n"
    ++ "                   [--height HEIGHT] [--steps STEPS] [--converter CONVERTER]\n"
    ++ "                   [--no-display] [--dump-config] [-v | -q]\n"
    ++ "                   script\n"

/-- Say how the program ended. -/
def announce : Ending → IO Unit
  | .usage .help => IO.print usageText
  | .usage .wrong => IO.eprint usageText
  | .exit _ => pure ()
  | .escaped _ => IO.eprintln "the program cannot go on"

/-- Run the program on the command line. -/
def runProgram
    (argv : List Text) :
    IO UInt32 := do
  let workingDirectory := (Path.ofText (← IO.currentDir).toString).names
  let empty := FileSystem.empty workingDirectory
  let before ←
    match Arguments.read argv with
    | .error _ => pure empty
    | .ok a => do
        let known ← survey empty a.paths
        survey known (a.targets known)
  let o := Program.outcome ownHost argv before
  carryOut before o.files
  IO.print o.printed
  for notice in o.notices do
    IO.eprintln (terminalText notice.line)
  announce o.ending
  return UInt32.ofNat o.ending.status

end Diorama

/-- The entry point. -/
def main (argv : List String) : IO UInt32 :=
  Diorama.runProgram (argv.map Diorama.Text.ofString)
