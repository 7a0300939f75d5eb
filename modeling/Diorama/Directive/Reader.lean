import Diorama.Directive
import Diorama.Fault
import Diorama.Number.Numeral
import Diorama.Text.Blank

/-!
# Reading directives

A script line is cut at the first `//` and split into words.  The first word is the keyword; the
others are its operands.  A word that reads as a finite number is a number and every other word
is a name, and each keyword takes a fixed sequence of names and numbers.
-/

namespace Diorama
namespace Directive

/-- The finite number that a word reads as. -/
def number?
    (token : Text) :
    Option Float :=
  (Number.readFloat? token).filter Float.isFinite

/-- A word that has to be a number. -/
def readNumber
    (keyword token : Text) :
    Except Fault Float :=
  match number? token with
  | some x => .ok x
  | none => .error (.notANumber keyword token)

/-- A word that has to be a name. -/
def readName
    (keyword token : Text) :
    Except Fault Text :=
  match number? token with
  | some _ => .error (.notAName keyword token)
  | none => .ok token

/-- Three words that have to be numbers. -/
def readVec
    (keyword x y z : Text) :
    Except Fault (Vec3 Float) := do
  return ⟨← readNumber keyword x, ← readNumber keyword y, ← readNumber keyword z⟩

/-- A number that has to be whole and not below a minimum. -/
def wholeNumber
    (keyword label : Text)
    (minimum : Nat)
    (x : Float) :
    Except Fault WholeNumber :=
  match (Number.Exact.ofFloat x).isWhole, (Number.Exact.ofFloat x).truncate with
  | true, .ok n =>
      if (minimum : Int) ≤ n then .ok ⟨x, n.toNat⟩
      else .error (.notWhole keyword label minimum x)
  | _, _ => .error (.notWhole keyword label minimum x)

/-- A name in front of `count` further words, if there is one word more than that. -/
def leadingName
    (keyword : Text)
    (count : Nat)
    (tokens : List Text) :
    Except Fault (Option Text × List Text) :=
  match tokens with
  | token :: rest =>
      if rest.length = count then do return (some (← readName keyword token), rest)
      else .ok (none, tokens)
  | [] => .ok (none, tokens)

/-- A name behind `count` other words, if there is one word more than that. -/
def trailingName
    (keyword : Text)
    (count : Nat)
    (tokens : List Text) :
    Except Fault (Option Text × List Text) :=
  if tokens.length = count + 1 then
    match tokens.getLast? with
    | some token => do return (some (← readName keyword token), tokens.dropLast)
    | none => .ok (none, tokens)
  else .ok (none, tokens)

/-- A directive without operands. -/
def readBare
    (keyword : Text)
    (directive : Directive)
    (tokens : List Text) :
    Except Fault Directive :=
  if tokens.isEmpty then .ok directive
  else .error (.operandCount keyword [0] tokens.length)

/-- A name, nine coefficients, and perhaps the three channels of a colour. -/
def readConstants
    (tokens : List Text) :
    Except Fault Directive :=
  if tokens.length = 10 ∨ tokens.length = 13 then
    match tokens with
    | name :: rest => do
        let name ← readName "constants" name
        let numbers ← rest.mapM (readNumber "constants")
        match Coefficients.ofList? (numbers.take 9), numbers.drop 9 with
        | some coefficients, [r, g, b] => .ok (.constants name coefficients (some ⟨r, g, b⟩))
        | some coefficients, _ => .ok (.constants name coefficients none)
        | none, _ => .error (.operandCount "constants" [10, 13] tokens.length)
    | [] => .error (.operandCount "constants" [10, 13] tokens.length)
  else .error (.operandCount "constants" [10, 13] tokens.length)

/-- Three numbers and an optional knob. -/
def readKnobbed
    (keyword : Text)
    (build : Vec3 Float → Option Text → Directive)
    (tokens : List Text) :
    Except Fault Directive := do
  let (knob, rest) ← trailingName keyword 3 tokens
  match rest with
  | [x, y, z] => return build (← readVec keyword x y z) knob
  | _ => .error (.operandCount keyword [3] rest.length)

/-- An axis, an angle and an optional knob. -/
def readRotate
    (tokens : List Text) :
    Except Fault Directive := do
  let (knob, rest) ← trailingName "rotate" 2 tokens
  match rest with
  | [axis, degrees] =>
      return .rotate (← readName "rotate" axis) (← readNumber "rotate" degrees) knob
  | _ => .error (.operandCount "rotate" [2] rest.length)

/-- An optional material, a centre and a radius. -/
def readSphere
    (tokens : List Text) :
    Except Fault Directive := do
  let (material, rest) ← leadingName "sphere" 4 tokens
  match rest with
  | [x, y, z, r] =>
      return .sphere material (← readVec "sphere" x y z) (← readNumber "sphere" r)
  | _ => .error (.operandCount "sphere" [4] rest.length)

/-- An optional material, a corner and a size. -/
def readBox
    (tokens : List Text) :
    Except Fault Directive := do
  let (material, rest) ← leadingName "box" 6 tokens
  match rest with
  | [x, y, z, w, h, d] =>
      return .box material (← readVec "box" x y z) (← readVec "box" w h d)
  | _ => .error (.operandCount "box" [6] rest.length)

/-- An optional material, a centre and two radii. -/
def readTorus
    (tokens : List Text) :
    Except Fault Directive := do
  let (material, rest) ← leadingName "torus" 5 tokens
  match rest with
  | [x, y, z, r, s] =>
      return .torus material (← readVec "torus" x y z) (← readNumber "torus" r)
        (← readNumber "torus" s)
  | _ => .error (.operandCount "torus" [5] rest.length)

/-- Two end points. -/
def readLine : List Text → Except Fault Directive
  | [x, y, z, u, v, w] => do
      return .line (← readVec "line" x y z) (← readVec "line" u v w)
  | tokens => .error (.operandCount "line" [6] tokens.length)

/-- A file name. -/
def readSave : List Text → Except Fault Directive
  | [name] => do return .save (← readName "save" name)
  | tokens => .error (.operandCount "save" [1] tokens.length)

/-- A number of frames. -/
def readFrames : List Text → Except Fault Directive
  | [count] => do
      return .frames (← wholeNumber "frames" "frame count" 1 (← readNumber "frames" count))
  | tokens => .error (.operandCount "frames" [1] tokens.length)

/-- A stem for frame names, or nothing; numbers are accepted as they are written. -/
def readBasename : List Text → Except Fault Directive
  | [] => .ok (.basename none)
  | [name] => .ok (.basename (some name))
  | tokens => .error (.operandCount "basename" [0, 1] tokens.length)

/-- A knob, a range of frames and the values at its ends. -/
def readVary : List Text → Except Fault Directive
  | [knob, first, last, start, stop] => do
      let knob ← readName "vary" knob
      let first ← readNumber "vary" first
      let last ← readNumber "vary" last
      let start ← readNumber "vary" start
      let stop ← readNumber "vary" stop
      let first ← wholeNumber "vary" "start frame" 0 first
      let last ← wholeNumber "vary" "end frame" 0 last
      return .vary knob first last start stop
  | tokens => .error (.operandCount "vary" [5] tokens.length)

/-- The directive of a keyword with its operands. -/
def ofTokens
    (keyword : Text)
    (tokens : List Text) :
    Except Fault Directive :=
  match keyword.toString? with
  | some "constants" => readConstants tokens
  | some "push" => readBare keyword .push tokens
  | some "pop" => readBare keyword .pop tokens
  | some "move" => readKnobbed keyword .move tokens
  | some "rotate" => readRotate tokens
  | some "scale" => readKnobbed keyword .scale tokens
  | some "sphere" => readSphere tokens
  | some "box" => readBox tokens
  | some "torus" => readTorus tokens
  | some "line" => readLine tokens
  | some "display" => readBare keyword .display tokens
  | some "save" => readSave tokens
  | some "frames" => readFrames tokens
  | some "basename" => readBasename tokens
  | some "vary" => readVary tokens
  | _ => .ok (.unknown keyword tokens)

end Directive

/-- A line without its comment, which begins at the first `//`. -/
def stripComment : Text → Text
  | .char '/' :: .char '/' :: _ => []
  | c :: rest => c :: stripComment rest
  | [] => []

namespace Statement

/-- The statement of a script line; a line without words holds none. -/
def read?
    (line : Int)
    (raw : Text) :
    Except ScriptError (Option Statement) :=
  match Text.words (stripComment raw) with
  | [] => .ok none
  | keyword :: tokens =>
      match Directive.ofTokens keyword tokens with
      | .ok directive => .ok (some ⟨line, directive⟩)
      | .error fault => .error (.onLine fault line)

end Statement
end Diorama
