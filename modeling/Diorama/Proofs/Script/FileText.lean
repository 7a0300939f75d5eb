import Diorama.Proofs.Fallible
import Diorama.Proofs.Text.Encoding
import Diorama.Proofs.Text.LineBreaks
import Diorama.Script.File
import Mathlib.Order.Basic

/-!
# Script files and script texts

A script file holds a text as bytes, and its line ends are unified when it is read.  Neither the
bytes nor the line ends make a difference: a script is the same from a file as from its text.

**Main statements.**
* `readFileText_eq`: unified line ends do not change what is read.
* `script_file_agrees`: a file that holds a text.
-/

namespace Diorama

/-- Unified line ends do not change the statements of a script, nor their lines. -/
theorem Script.readFileText_eq
    (text : String) :
    readFileText text = read (Text.ofString text) := by
  simp only [readFileText, read, Text.lines_unifyLineBreaks, Text.ofString]

/--
A file that holds a text in UTF-8, with line ends of any kind, is read as the text itself: as the
same statements on the same lines, or with the same error.
-/
theorem script_file_agrees
    {fs : FileSystem}
    {path : Path}
    {text : String}
    (hpath : path.defect? = none)
    (hheld : fs.read path = .ok (.bytes (Text.encodeUtf8 text))) :
    Script.load fs path
      = match Script.read (Text.ofString text) with
        | .ok statements => .ok statements
        | .error e => .error (.script e) := by
  have hload : Script.load fs path
      = (Script.readFileText text).mapError ScriptFileError.script := by
    rw [Script.load, hpath, hheld]
    change (Text.decodeUtf8 (Text.encodeUtf8 text)).mapError ScriptFileError.notUtf8 >>= _ = _
    rw [Text.decodeUtf8_encodeUtf8, mapError_ok]
    rfl
  rw [hload, Script.readFileText_eq]
  cases Script.read (Text.ofString text) <;> rfl

/-- Line ends of all kinds, one inside of another. -/
theorem script_file_agrees_mixed :
    let text := "push\r\r\n\n\rpop"
    let path := Path.ofText "scene.mdl"
    let fs : FileSystem := ⟨[("scene.mdl", .file (.bytes (Text.encodeUtf8 text)))], [], {}⟩
    path.defect? = none
      ∧ fs.read path = .ok (.bytes (Text.encodeUtf8 text))
      ∧ Script.load fs path = .ok [⟨1, .push⟩, ⟨5, .pop⟩, ⟨6, .finish⟩] := by
  intro text path fs
  have hpath : path.defect? = none := by decide +kernel
  have hheld : fs.read path = .ok (.bytes (Text.encodeUtf8 text)) := by decide +kernel
  have hread : Script.read (Text.ofString "push\r\r\n\n\rpop")
      = .ok [⟨1, .push⟩, ⟨5, .pop⟩, ⟨6, .finish⟩] := by cbv
  have hagrees := script_file_agrees hpath hheld
  rw [hread] at hagrees
  exact ⟨hpath, hheld, hagrees⟩

end Diorama
