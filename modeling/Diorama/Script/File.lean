import Diorama.Files.FileSystem
import Diorama.Script
import Diorama.Text.Utf8

/-!
# Script files

A script file is text in UTF-8.
-/

namespace Diorama

/-- Why a script file yields no statements. -/
inductive ScriptFileError
  | system (error : SystemError)
  | notUtf8 (error : Text.Utf8Error)
  | badPath (defect : PathDefect)
  | script (error : ScriptError)

namespace Script

/-- The statements of a script file. -/
def load
    (fs : FileSystem)
    (path : Path) :
    Except ScriptFileError (List Statement) := do
  if let some defect := path.defect? then throw (.badPath defect)
  let content ← (fs.read path).mapError .system
  let text ← (Text.decodeUtf8 content.plainBytes).mapError .notUtf8
  (readFileText text).mapError .script

end Script
end Diorama
