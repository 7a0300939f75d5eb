import Diorama.CommandLine.Arguments
import Diorama.Config.Load
import Diorama.Images.Writer
import Diorama.Json.Printer
import Diorama.Render.Run
import Diorama.Script.File

/-!
# The program

The program reads its arguments, loads the settings, and draws the frames of one script.  It is a
function of the command line, the host and the file system: its outcome holds the changed file
system, what was printed, what was noticed on the way, and how it ended.
-/

namespace Diorama

/-- What ends the program without a report of its own. -/
inductive Escape
  | conversion (error : ConversionError)
  | deepDocument
  | system (error : SystemError)
  | crash (cause : Crash)

/-- How the program ends. -/
inductive Ending
  | usage (stop : UsageStop)
  | exit (status : Nat)
  | escaped (cause : Escape)

/-- The status of a run that finished. -/
def statusDone : Nat := 0

/-- The status of a run that failed on its script. -/
def statusScriptFailed : Nat := 1

/-- The status of a run that could not be started. -/
def statusUsage : Nat := 2

/-- The status that the program ends with; an escape counts as a failed run. -/
def Ending.status : Ending → Nat
  | usage .help => statusDone
  | usage .wrong => statusUsage
  | exit status => status
  | escaped _ => statusScriptFailed

/-- All that the program does. -/
structure ProgramOutcome where
  ending : Ending
  printed : String
  notices : List Notice
  files : FileSystem

namespace Arguments

/-- The least level of the notices that are shown. -/
def threshold
    (a : Arguments) :
    Level :=
  if a.verbose then .debug else if a.quiet then .warning else .info

/-- The single values that are laid over the settings. -/
def overrides
    (a : Arguments) :
    List (Text × Json) :=
  [("width", a.width), ("height", a.height), ("steps", a.steps), ("output_dir", a.outputDir),
    ("converter", a.converter)]

end Arguments

/--
A failed loading of settings that is not reported: numbers out of range, and documents that are
nested too deeply.
-/
def LoadError.escape? : LoadError → Option Escape
  | value (.conversion .infiniteToInteger) => some (.conversion .infiniteToInteger)
  | value (.conversion .integerOutOfRange) => some (.conversion .integerOutOfRange)
  | badDocument ⟨.tooDeep, _⟩ _ => some .deepDocument
  | _ => none

namespace Program

variable (host : Host)

/-- The outcome of a program that ends with a report. -/
def report
    (status : Nat)
    (notices : List Notice)
    (fs : FileSystem) :
    ProgramOutcome :=
  ⟨.exit status, "", notices, fs⟩

/-- What a finished or failed run is reported as. -/
def conclude
    (o : RunOutcome FileSystem) :
    ProgramOutcome :=
  let notices := o.notices.toList
  match o.failure, o.result with
  | none, some result =>
      report statusDone
        (notices ++ [.runFinished result.frameCount result.written.length]
          ++ result.warnings.map .warningKept)
        o.outside
  | none, none => report statusDone notices o.outside
  | some (.crash cause), _ => ⟨.escaped (.crash cause), "", notices, o.outside⟩
  | some (.script error), result =>
      let kept := ((result.map fun r => r.written.length).getD 0)
      report statusScriptFailed
        (notices ++ .runFailed error :: (if kept = 0 then [] else [.imagesKept kept]))
        o.outside

/-- Draw the frames of a script file. -/
def renderFile
    (settings : Settings)
    (path : Path)
    (fs : FileSystem) :
    ProgramOutcome :=
  match Script.load fs path with
  | .error (.system e) =>
      report statusUsage [.scriptUnreadable path.toText e.message] fs
  | .error (.notUtf8 e) =>
      report statusUsage [.scriptUnreadable path.toText e.message] fs
  | .error (.badPath defect) => ⟨.escaped (.crash (.badPath defect)), "", [], fs⟩
  | .error (.script e) => report statusScriptFailed [.runFailed e] fs
  | .ok statements => conclude (run settings (settings.imageWriter.outlet host) statements fs)

/-- What the program does with settings. -/
def withSettings
    (a : Arguments)
    (settings : Settings)
    (fs : FileSystem) :
    ProgramOutcome :=
  if a.dumpConfig then ⟨.exit statusDone, settings.toJson.indented ++ "\n", [], fs⟩
  else
    let path := Path.ofText (a.script.getD [])
    let missing := report statusUsage [.scriptMissing path.toText] fs
    if path.defect?.isSome then missing
    else
      match fs.lookup path with
      | .error e => ⟨.escaped (.system e), "", [], fs⟩
      | .ok (some (.file _)) => renderFile host settings path fs
      | .ok _ => missing

/-- What the program does with arguments. -/
def withArguments
    (a : Arguments)
    (fs : FileSystem) :
    ProgramOutcome :=
  let shown :=
    match Settings.load host.limits fs (.ofJson a.config) a.overrides with
    | .ok settings => withSettings host a settings fs
    | .error e =>
        match e.escape? with
        | some cause => ⟨.escaped cause, "", [], fs⟩
        | none => report statusUsage [.badConfiguration e.message] fs
  { shown with notices := shown.notices.filter fun n => a.threshold.rank ≤ n.level.rank }

/-- What the program does with a command line. -/
def outcome
    (argv : List Text)
    (fs : FileSystem) :
    ProgramOutcome :=
  match Arguments.read argv with
  | .error stop => ⟨.usage stop, "", [], fs⟩
  | .ok a => withArguments host a fs

end Program

/-- A notice as a line of the log. -/
def Notice.line
    (n : Notice) :
    Text :=
  n.level.name ++ " " ++ n.channel ++ ": " ++ n.message

end Diorama
