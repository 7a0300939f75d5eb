import Diorama.Named
import Diorama.Number.Shortest
import Diorama.Text.Quoted

/-!
# Document values

The values of a structured document.  Whole numbers are unbounded and kept apart from doubles,
and the members of an object keep the order of the document.  `display` is the text of a value
inside messages and names.
-/

namespace Diorama

/-- A value of a document. -/
inductive Json
  | null
  | bool (value : Bool)
  | int (value : Int)
  | real (value : Float)
  | text (value : Text)
  | list (items : List Json)
  | object (members : List (Text × Json))

namespace Json

instance : Inhabited Json :=
  ⟨null⟩

/-- The members of an object; other values have none. -/
def members : Json → Named Json
  | object members => members
  | _ => []

/-- The items of a list; other values have none. -/
def items : Json → List Json
  | list items => items
  | _ => []

/-- The member of a name. -/
def get?
    (v : Json)
    (name : Text) :
    Option Json :=
  v.members.find? name

/-- The member of a name, which is null where there is none. -/
def get
    (v : Json)
    (name : Text) :
    Json :=
  (v.get? name).getD null

mutual

/-- The text of a value inside another text: texts are quoted, so it holds characters alone. -/
def quotedDisplay : Json → String
  | null => "None"
  | bool b => if b then "True" else "False"
  | int n => Number.intText n
  | real x => Number.shortest x
  | text s => Text.quoted s
  | list items => "[" ++ ", ".intercalate (itemTexts items) ++ "]"
  | object members => "\x7b" ++ ", ".intercalate (memberTexts members) ++ "\x7d"

/-- The texts of the items of a list. -/
def itemTexts : List Json → List String
  | [] => []
  | v :: rest => quotedDisplay v :: itemTexts rest

/-- The texts of the members of an object. -/
def memberTexts : List (Text × Json) → List String
  | [] => []
  | (name, v) :: rest => (Text.quoted name ++ ": " ++ quotedDisplay v) :: memberTexts rest

end

/-- The text of a value standing alone: a text is itself. -/
def display : Json → Text
  | text s => s
  | v => quotedDisplay v

/-- The name of the type of a value inside messages. -/
def typeName : Json → String
  | null => "NoneType"
  | bool _ => "bool"
  | int _ => "int"
  | real _ => "float"
  | text _ => "str"
  | list _ => "list"
  | object _ => "dict"

end Json
end Diorama
