import Diorama.Json.Value
import Diorama.Number.Numeral

/-!
# Command line arguments

The arguments of the program are one script and any number of options.

* Options may be shortened as long as the shortened form fits one option only, and take their
  value from the next word or after an equals sign.  Short flags may share one word, and an equals
  sign may follow the first of them.
* A word counts as an option if it begins with a hyphen, unless it is a single hyphen, looks like
  a negative number, or holds a space and is no option.
* After a word of two hyphens all words are operands.  Two hyphens behind an equals sign are left
  out, and the value of the option is then an empty list.

Reading goes from left to right, so a request for help counts only if nothing before it is wrong;
words that nobody takes and a missing script are found last.
-/

namespace Diorama

/-- The options of the program. -/
inductive Flag
  | help
  | config
  | outputDir
  | width
  | height
  | steps
  | converter
  | noDisplay
  | dumpConfig
  | verbose
  | quiet
  deriving DecidableEq

namespace Flag

/-- The long names of the options. -/
def longNames : List (Text × Flag) :=
  [("--help", help), ("--config", config), ("--output-dir", outputDir), ("--width", width),
    ("--height", height), ("--steps", steps), ("--converter", converter),
    ("--no-display", noDisplay), ("--dump-config", dumpConfig), ("--verbose", verbose),
    ("--quiet", quiet)]

/-- The letters of the options that have a short name. -/
def letters : List (Symbol × Flag) :=
  [('h', help), ('v', verbose), ('q', quiet)]

/-- Whether an option is followed by a value. -/
def takesValue : Flag → Bool
  | config | outputDir | width | height | steps | converter => true
  | help | noDisplay | dumpConfig | verbose | quiet => false

/-- Whether the value of an option is a whole number. -/
def isNumeric : Flag → Bool
  | width | height | steps => true
  | _ => false

end Flag

/-- Why the arguments start no run: help is asked for, or they are wrong. -/
inductive UsageStop
  | help
  | wrong
  deriving DecidableEq

/-- What a word of the command line is. -/
inductive Word
  | operand (text : Text)
  | separator
  | long (flag : Flag) (value : Option Text)
  | short (flag : Flag) (letters : Text)
  | stray (text : Text)

namespace Word

/-- Whether a text is a hyphen with digits, which may hold one point. -/
def looksNegative : Text → Bool
  | .char '-' :: rest =>
      let isDigit (s : Symbol) : Bool := s.is fun c => (Text.digitValue? c).isSome
      let rest := if rest.getLast? = some (.char '\n') then rest.dropLast else rest
      match rest.dropWhile isDigit with
      | [] => !rest.isEmpty
      | .char '.' :: fraction => !fraction.isEmpty && fraction.all isDigit
      | _ => false
  | _ => false

/-- A text cut at its first equals sign. -/
def cutAtEquals
    (text : Text) :
    Text × Option Text :=
  match text.dropWhile (· != .char '=') with
  | [] => (text, none)
  | _ :: value => (text.takeWhile (· != .char '='), some value)

/-- The options whose long names begin with a text. -/
def longMatches
    (name : Text) :
    List Flag :=
  (Flag.longNames.filter fun entry => name.isPrefixOf entry.1).map Prod.snd

/-- A word that is no option after all: an operand if it looks like one. -/
def unmatched
    (text : Text) :
    Word :=
  if looksNegative text || text.contains (.char ' ') then .operand text else .stray text

/-- A word with two hyphens in front; a name that fits several options is refused. -/
def ofLong
    (text : Text) :
    Except UsageStop Word :=
  let (name, value) := cutAtEquals text
  match Flag.longNames.lookup text, Flag.longNames.lookup name with
  | some flag, _ => .ok (.long flag none)
  | none, some flag => .ok (.long flag value)
  | none, none =>
      match longMatches name with
      | [] => .ok (unmatched text)
      | [flag] => .ok (.long flag value)
      | _ => .error .wrong

/-- What a word in front of the separator is. -/
def ofText
    (text : Text) :
    Except UsageStop Word :=
  match text with
  | .char '-' :: .char '-' :: _ => ofLong text
  | .char '-' :: letter :: rest =>
      match Flag.letters.lookup letter with
      | some flag => .ok (.short flag rest)
      | none => .ok (unmatched text)
  | _ => .ok (.operand text)

/-- What the words of a command line are; all words behind the separator are operands. -/
def ofTexts : List Text → Except UsageStop (List Word)
  | [] => .ok []
  | text :: rest =>
      if text = "--" then .ok (separator :: rest.map operand)
      else do
        let word ← ofText text
        return word :: (← ofTexts rest)

end Word

/-- The arguments; an option that is not given is null. -/
structure Arguments where
  script : Option Text := none
  config : Json := .null
  outputDir : Json := .null
  width : Json := .null
  height : Json := .null
  steps : Json := .null
  converter : Json := .null
  noDisplay : Bool := false
  dumpConfig : Bool := false
  verbose : Bool := false
  quiet : Bool := false
  leftOver : Bool := false

namespace Arguments

/-- The value of an option; two hyphens are left out, which leaves an empty list. -/
def valueOf
    (flag : Flag)
    (text : Text) :
    Except UsageStop Json :=
  if text = "--" then .ok (.list [])
  else if flag.isNumeric then
    match Number.readInteger text with
    | .value n => .ok (.int n)
    | _ => .error .wrong
  else .ok (.text text)

/-- Enter the value of an option. -/
def enter
    (a : Arguments)
    (flag : Flag)
    (value : Json) :
    Arguments :=
  match flag with
  | .config => { a with config := value }
  | .outputDir => { a with outputDir := value }
  | .width => { a with width := value }
  | .height => { a with height := value }
  | .steps => { a with steps := value }
  | .converter => { a with converter := value }
  | _ => a

/-- Raise a flag; being verbose and being quiet exclude each other. -/
def raise
    (a : Arguments)
    (flag : Flag) :
    Except UsageStop Arguments :=
  match flag with
  | .help => .error .help
  | .noDisplay => .ok { a with noDisplay := true }
  | .dumpConfig => .ok { a with dumpConfig := true }
  | .verbose => if a.quiet then .error .wrong else .ok { a with verbose := true }
  | .quiet => if a.verbose then .error .wrong else .ok { a with quiet := true }
  | _ => .ok a

/-- The flags of letters, each of which has to be one. -/
def flagsOf
    (letters : Text) :
    Except UsageStop (List Flag) :=
  letters.mapM fun letter =>
    match Flag.letters.lookup letter with
    | some flag => .ok flag
    | none => .error .wrong

/-- The flags that follow a flag in its word; an equals sign between them changes nothing. -/
def cluster : Text → Except UsageStop (List Flag)
  | [.char '='] => .error .wrong
  | .char '=' :: letters => flagsOf letters
  | letters => flagsOf letters

/-- Raise all flags of a word. -/
def raiseAll
    (a : Arguments)
    (flag : Flag)
    (letters : Text) :
    Except UsageStop Arguments := do
  (flag :: (← cluster letters)).foldlM raise a

/-- Take an operand: the first one is the script. -/
def takeOperand
    (a : Arguments)
    (text : Text) :
    Arguments :=
  match a.script with
  | none => { a with script := some text }
  | some _ => { a with leftOver := true }

/-- Read words from left to right. -/
def scan : List Word → Arguments → Except UsageStop Arguments
  | [], a => .ok a
  | .stray _ :: rest, a => scan rest { a with leftOver := true }
  | .short flag letters :: rest, a => do
      let a ← a.raiseAll flag letters
      scan rest a
  | .long flag (some value) :: rest, a =>
      if flag.takesValue then do
        let value ← valueOf flag value
        scan rest (a.enter flag value)
      else .error .wrong
  | .long flag none :: rest, a =>
      if flag.takesValue then
        match rest with
        | .operand text :: rest => do
            let value ← valueOf flag text
            scan rest (a.enter flag value)
        | _ => .error .wrong
      else do
        let a ← a.raise flag
        scan rest a
  | .operand text :: .separator :: rest, a =>
      match a.script with
      | none => scan rest (a.takeOperand text)
      | some _ => scan rest { a with leftOver := true }
  | .operand text :: rest, a => scan rest (a.takeOperand text)
  | .separator :: rest, a =>
      match a.script with
      | none => scan rest a
      | some _ => scan rest { a with leftOver := true }

/-- The arguments of a command line. -/
def read
    (argv : List Text) :
    Except UsageStop Arguments := do
  let words ← Word.ofTexts argv
  let a ← scan words {}
  if a.script.isNone || a.leftOver then throw .wrong
  return a

end Arguments
end Diorama
