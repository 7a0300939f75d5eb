import Diorama.Directive.Reader
import Diorama.Text.Lines

/-!
# Scripts

A script is read line by line into statements and closed by an end marker on the line after the
last one.  Reading stops at the first line that cannot be read.
-/

namespace Diorama
namespace Script

/-- The statements of numbered lines, the first of which has number `line`. -/
def readLines
    (line : Nat) :
    List Text → Except ScriptError (List Statement)
  | [] => .ok [⟨line, .finish⟩]
  | raw :: rest =>
      match Statement.read? line raw with
      | .error e => .error e
      | .ok statement? =>
          match readLines (line + 1) rest with
          | .error e => .error e
          | .ok statements => .ok (statement?.toList ++ statements)

/-- The statements of a script text. -/
def read
    (text : Text) :
    Except ScriptError (List Statement) :=
  readLines 1 (Text.lines text)

/-- The statements of a script file, in which every kind of line end counts as a line feed. -/
def readFileText
    (text : String) :
    Except ScriptError (List Statement) :=
  read (Text.ofChars (Text.unifyLineBreaks text.toList))

end Script
end Diorama
