import Diorama.Geometry.Vec3
import Diorama.Number.Shortest
import Diorama.Text.Quoted

/-!
# Directives

The instructions of a scene script, one constructor for each kind with the operands it needs.
`operands` lists the operands of a directive in the order of the script.
-/

namespace Diorama

/-- Reflection coefficients of one colour channel. -/
structure ChannelCoefficients where
  ambient : Float
  diffuse : Float
  specular : Float
  deriving DecidableEq

/-- Reflection coefficients of the three colour channels. -/
structure Coefficients where
  red : ChannelCoefficients
  green : ChannelCoefficients
  blue : ChannelCoefficients
  deriving DecidableEq

namespace Coefficients

/-- The nine coefficients, channel by channel. -/
def toList
    (c : Coefficients) :
    List Float :=
  [c.red.ambient, c.red.diffuse, c.red.specular,
    c.green.ambient, c.green.diffuse, c.green.specular,
    c.blue.ambient, c.blue.diffuse, c.blue.specular]

/-- The coefficients listed channel by channel; there have to be nine. -/
def ofList? : List Float → Option Coefficients
  | [ra, rd, rs, ga, gd, gs, ba, bd, bs] => some ⟨⟨ra, rd, rs⟩, ⟨ga, gd, gs⟩, ⟨ba, bd, bs⟩⟩
  | _ => none

/-- The report on a list of coefficients of another length. -/
def countMessage : String :=
  "material constants require nine coefficients"

@[simp]
theorem ofList?_toList
    (c : Coefficients) :
    ofList? c.toList = some c :=
  rfl

end Coefficients

/-- A whole number as it is written in a script and as a count. -/
structure WholeNumber where
  written : Float
  value : Nat
  deriving DecidableEq

/-- One instruction of a scene script. -/
inductive Directive
  | constants (name : Text) (coefficients : Coefficients) (color : Option (Vec3 Float))
  | push
  | pop
  | move (offset : Vec3 Float) (knob : Option Text)
  | rotate (axis : Text) (degrees : Float) (knob : Option Text)
  | scale (factors : Vec3 Float) (knob : Option Text)
  | sphere (material : Option Text) (center : Vec3 Float) (radius : Float)
  | box (material : Option Text) (corner size : Vec3 Float)
  | torus (material : Option Text) (center : Vec3 Float) (tube ring : Float)
  | line (start stop : Vec3 Float)
  | display
  | save (name : Text)
  | frames (count : WholeNumber)
  | basename (name : Option Text)
  | vary (knob : Text) (first last : WholeNumber) (start stop : Float)
  | unknown (keyword : Text) (tokens : List Text)
  | finish
  deriving DecidableEq

/-- An operand of a directive; optional operands may be absent. -/
inductive Operand
  | number (value : Float)
  | name (text : Text)
  | absent

namespace Operand

/-- An optional name. -/
def ofName? : Option Text → Operand
  | some text => name text
  | none => absent

/-- The operands of a vector. -/
def ofVec
    (v : Vec3 Float) :
    List Operand :=
  v.toList.map number

/-- An operand inside a listing. -/
def display : Operand → String
  | number x => Number.shortest x
  | name text => Text.quoted text
  | absent => "None"

end Operand

namespace Directive

/-- The name of the kind of a directive. -/
def kind : Directive → String
  | constants .. => "constants"
  | push => "push"
  | pop => "pop"
  | move .. => "move"
  | rotate .. => "rotate"
  | scale .. => "scale"
  | sphere .. => "sphere"
  | box .. => "box"
  | torus .. => "torus"
  | line .. => "line"
  | display => "display"
  | save _ => "save"
  | frames _ => "frames"
  | basename _ => "basename"
  | vary .. => "vary"
  | unknown .. => "unknown"
  | finish => "end"

/-- The word that begins the script line of a directive. -/
def keyword : Directive → Text
  | unknown word _ => word
  | d => d.kind

/-- The operands in the order of the script. -/
def operands : Directive → List Operand
  | constants name coefficients color =>
      .name name :: coefficients.toList.map .number
        ++ (match color with
            | some c => Operand.ofVec c
            | none => List.replicate 3 .absent)
  | push | pop | display | finish => []
  | move v knob | scale v knob => Operand.ofVec v ++ [Operand.ofName? knob]
  | rotate axis degrees knob => [.name axis, .number degrees, Operand.ofName? knob]
  | sphere material center radius =>
      Operand.ofName? material :: Operand.ofVec center ++ [.number radius]
  | box material corner size =>
      Operand.ofName? material :: Operand.ofVec corner ++ Operand.ofVec size
  | torus material center tube ring =>
      Operand.ofName? material :: Operand.ofVec center ++ [.number tube, .number ring]
  | line start stop => Operand.ofVec start ++ Operand.ofVec stop
  | save name => [.name name]
  | frames count => [.number count.written]
  | basename name => [Operand.ofName? name]
  | vary knob first last start stop =>
      [.name knob, .number first.written, .number last.written, .number start, .number stop]
  | unknown _ tokens => tokens.map .name

/-- A list of operands in round brackets; a single one is followed by a comma. -/
def operandListing : List Operand → String
  | [] => "()"
  | [operand] => "(" ++ operand.display ++ ",)"
  | operands => "(" ++ ", ".intercalate (operands.map Operand.display) ++ ")"

end Directive

/-- A directive and the script line it stands on. -/
structure Statement where
  line : Int
  directive : Directive
  deriving DecidableEq

end Diorama
