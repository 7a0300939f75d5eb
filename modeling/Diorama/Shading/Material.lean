import Diorama.Directive
import Diorama.Fault
import Diorama.Named

/-!
# Materials

A material says how much of the ambient, diffuse and specular light each colour channel of a
surface reflects.  The registry holds the materials defined so far in a script; it does not look
at their coefficients, which are values of any type `V`.
-/

namespace Diorama

/-- The reflection of a surface. -/
structure Material (V : Type) where
  name : Text
  ambient : V
  diffuse : V
  specular : V
  color : Option V := none

namespace Material

/-- The material with changed coefficients. -/
def map
    {V W : Type}
    (f : V → W)
    (m : Material V) :
    Material W :=
  ⟨m.name, f m.ambient, f m.diffuse, f m.specular, m.color.map f⟩

/-- The material of surfaces about which nothing else is known. -/
def plain
    (name : Text) :
    Material (Vec3 Float) where
  name := name
  ambient := Vec3.replicate 0.1
  diffuse := Vec3.replicate 0.5
  specular := Vec3.replicate 0.5

/-- The material of coefficients given channel by channel. -/
def ofCoefficients
    (name : Text)
    (c : Coefficients)
    (color : Option (Vec3 Float)) :
    Material (Vec3 Float) where
  name := name
  ambient := ⟨c.red.ambient, c.green.ambient, c.blue.ambient⟩
  diffuse := ⟨c.red.diffuse, c.green.diffuse, c.blue.diffuse⟩
  specular := ⟨c.red.specular, c.green.specular, c.blue.specular⟩
  color := color

end Material

/-- The material of surfaces that name none, and the materials defined by name. -/
structure MaterialRegistry (V : Type) where
  default : Material V
  defined : Named (Material V)

namespace MaterialRegistry

variable {V : Type}

/-- A registry without defined materials. -/
def empty
    (default : Material V) :
    MaterialRegistry V :=
  ⟨default, []⟩

/-- Define a material under its name. -/
def register
    (r : MaterialRegistry V)
    (m : Material V) :
    MaterialRegistry V :=
  { r with defined := r.defined.insert m.name m }

/-- The material of a name, or the default one where no name is given. -/
def resolve
    (r : MaterialRegistry V)
    (name : Option Text)
    (line : Option Int) :
    Except ScriptError (Material V) :=
  match name with
  | none => .ok r.default
  | some name =>
      match r.defined.find? name with
      | some m => .ok m
      | none => .error ⟨.unknownMaterial name, line, none⟩

/-- Forget all defined materials. -/
def clear
    (r : MaterialRegistry V) :
    MaterialRegistry V :=
  { r with defined := [] }

end MaterialRegistry
end Diorama
