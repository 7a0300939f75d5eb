import Diorama.Proofs.Images.Saving

/-!
# What a save leaves alone

A save makes missing directories, writes the file that its path leads to, and removes the entry of
its path if the conversion fails.  Everything else stays as it is, however the save ends, provided
that the library and the tool of the host stay at the file that they are asked to convert.

**Main statements.**
* `ImageServices.StaysAt.conversion`: the conversions of a writer stay at their file.
* `Conversion.touched_save`: a save makes directories, sets its file and takes its entry away.
* `saves_change_target_only`: what a save leaves alone in the whole file system.
-/

namespace Diorama

/-- If a file stands at the end of a path, at most this file was written or taken away. -/
def FileSystem.SetsAtMost
    (fs : FileSystem)
    (path : Path)
    (after : FileSystem) :
    Prop :=
  ∀ (place : Place) (content : Content),
    fs.place path = .ok place → fs.kind? place = some (.file content) →
      ∃ held, fs.Sets path place held after

theorem FileSystem.SetsAtMost.refl
    (fs : FileSystem)
    (path : Path) :
    fs.SetsAtMost path fs :=
  fun _ content hplace hkind => ⟨some content, .self hplace hkind⟩

theorem FileSystem.setsAtMost_of_write
    {fs after : FileSystem}
    {path : Path}
    {content : Content}
    (h : fs.write path content = .ok after) :
    fs.SetsAtMost path after := by
  intro place held hplace hkind
  obtain ⟨other, hsets⟩ := sets_of_write h
  obtain rfl : place = other := Except.ok.inj (hplace.symm.trans hsets.place_eq)
  exact ⟨_, hsets⟩

/-- A conversion changes no other file than that of its path. -/
def Conversion.StaysAt
    (convert : Conversion)
    (path : Path) :
    Prop :=
  ∀ fs : FileSystem, fs.SetsAtMost path (convert path fs).2

/-- The library and the tool change no other file than that of the path that they are given. -/
structure ImageServices.StaysAt
    (images : ImageServices)
    (path : Path) : Prop where
  library : ∀ picture format (fs : FileSystem),
    fs.SetsAtMost path (images.library.save picture format path fs).2
  tool : ∀ tool, images.tool? = some tool →
    ∀ fs : FileSystem, fs.SetsAtMost path (tool path fs).2

namespace ImageServices.StaysAt

variable {images : ImageServices} {path : Path} (h : images.StaysAt path)

include h

theorem throughLibrary
    (format : Text) :
    (Conversion.throughLibrary images.library format).StaysAt path := by
  intro fs
  unfold Conversion.throughLibrary
  split
  · exact .refl fs path
  · rename_i picture _
    have hsaved := h.library picture format fs
    split <;> rename_i hsave <;> rwa [hsave] at hsaved

theorem throughTool :
    (Conversion.throughTool images.tool?).StaysAt path := by
  intro fs
  unfold Conversion.throughTool
  split
  · exact .refl fs path
  · rename_i tool htool
    have hrun := h.tool tool htool fs
    split <;> rename_i hresult <;> rwa [hresult] at hrun

/-- The conversions of a writer stay at their file. -/
theorem conversion
    (w : ImageWriter) :
    (w.conversion images).StaysAt path := by
  intro fs
  unfold ImageWriter.conversion
  split
  · exact .refl fs path
  · exact h.throughTool fs
  · split
    · exact .refl fs path
    · exact h.throughLibrary _ fs

end ImageServices.StaysAt

/-- A library of formats stays at the file of its path. -/
theorem ImageServices.staysAt_ofFormats
    (suffixes : List (Text × Text))
    (encoders : List Text)
    (path : Path) :
    (⟨.ofFormats suffixes encoders, none⟩ : ImageServices).StaysAt path := by
  refine ⟨fun picture format fs => ?_, fun tool htool => by cases htool⟩
  simp only [ImageLibrary.ofFormats]
  split
  · split
    · rename_i after hwrite
      exact FileSystem.setsAtMost_of_write hwrite
    · exact .refl fs path
  · exact .refl fs path

namespace Conversion

open FileSystem

variable {convert : Conversion} {limits : Limits} {canvas : Canvas Float} {path : Path}
  {fs ready mid : FileSystem}

/-- What stands after the conversion, whatever it answered: directories were made, a file was set. -/
theorem sets_of_convert
    {answer : Except ConversionFailure Unit}
    (hstays : convert.StaysAt path)
    (hpixmap : ImageWriter.writePixmap limits canvas path fs = (.ok (), ready))
    (hconvert : convert path ready = (answer, mid)) :
    ∃ (made : FileSystem) (place : Place) (held : Option Content),
      fs.Makes path.parent made ∧ made.Sets path place held mid := by
  obtain ⟨made, place, hmakes, hwritten⟩ := ImageWriter.sets_of_writePixmap hpixmap
  obtain ⟨held, hsets⟩ := hstays ready place _ hwritten.place_after hwritten.kind?_after
  rw [hconvert] at hsets
  exact ⟨made, place, held, hmakes, hwritten.trans hsets⟩

/-- A save makes directories, sets its file, and takes its entry away if the conversion fails. -/
theorem touched_save
    (hstays : convert.StaysAt path)
    (limits : Limits)
    (canvas : Canvas Float)
    (fs : FileSystem) :
    Touched path fs (convert.save limits canvas path fs).2 := by
  have hsaved := convert.saved limits canvas path fs
  generalize convert.save limits canvas path fs = outcome at hsaved
  cases hsaved with
  | stopped pixmap_eq =>
      have hpixmap := ImageWriter.pixmapWritten limits canvas path fs
      rw [pixmap_eq] at hpixmap
      cases hpixmap with
      | refused makes e => exact .made makes
      | crashed makes unreachable => exact .made makes
  | withdrawn pixmap_eq convert_eq remove_eq =>
      obtain ⟨made, place, held, hmakes, hsets⟩ := sets_of_convert hstays pixmap_eq convert_eq
      rcases removes_of_remove remove_eq with rfl | ⟨entry, hremoves⟩
      · exact .set hmakes hsets
      · exact .removed hmakes hsets hremoves
  | kept pixmap_eq convert_eq
  | notRemoved pixmap_eq convert_eq
  | crashed pixmap_eq convert_eq =>
      obtain ⟨made, place, held, hmakes, hsets⟩ := sets_of_convert hstays pixmap_eq convert_eq
      exact .set hmakes hsets

end Conversion

namespace ImageWriter

open FileSystem

/--
However a save ends, it changes no file but that to which its path leads, takes away no entry but
that of its path, makes nothing but missing directories on the way of its path, and removes none.
This holds of every conversion that stays at its file, and so of the writers on every host whose
library and tool do.
-/
theorem saves_change_target_only
    (limits : Limits)
    (canvas : Canvas Float)
    (path : Path)
    (fs : FileSystem) :
    (∀ convert : Conversion, convert.StaysAt path →
        ∃ ready, ChangedOnlyAt path fs ready (convert.save limits canvas path fs).2)
      ∧ ∀ (w : ImageWriter) (images : ImageServices), images.StaysAt path →
        ∃ ready, ChangedOnlyAt path fs ready (w.save ⟨images, limits⟩ canvas path fs).2 :=
  ⟨fun _ hstays => (Conversion.touched_save hstays limits canvas fs).exists_changedOnlyAt,
    fun w _ hstays =>
      (Conversion.touched_save (hstays.conversion w) limits canvas fs).exists_changedOnlyAt⟩

/-- A tool that spoils the file and fails: the file is gone, and all that stood there is kept. -/
theorem saves_change_target_only_spoiled :
    let spoil : Conversion := fun path fs =>
      match fs.write path (.bytes [0]) with
      | .ok fs => (.error (.fault (.toolFailed "magick" path.toText "spoiled")), fs)
      | .error _ => (.ok (), fs)
    let images : ImageServices := ⟨.ofFormats [(".png", "PNG")] ["PNG"], none⟩
    let canvas : Canvas Float := .blank 2 1 ⟨0, 0, 0⟩
    let path := Path.ofText "a/x.png"
    let fs : FileSystem := ⟨[("b", .file (.bytes [7])), ("d", .directory [])], [], {}⟩
    let after := (spoil.save {} canvas path fs).2
    spoil.StaysAt path ∧ images.StaysAt path
      ∧ (∃ ready, ChangedOnlyAt path fs ready after)
      ∧ (∃ ready, ChangedOnlyAt path fs ready
        ((ImageWriter.new .pillow "PNG").save ⟨images, {}⟩ canvas path fs).2)
      ∧ after.kind? ["d"] = some .directory
      ∧ after.isDirectory path.parent = true
      ∧ after.isFile path = false := by
  intro spoil images canvas path fs after
  have hspoil : spoil.StaysAt path := by
    intro fs
    simp only [spoil]
    split
    · rename_i spoiled hwrite
      exact setsAtMost_of_write hwrite
    · exact .refl fs path
  have himages : images.StaysAt path := ImageServices.staysAt_ofFormats _ _ path
  obtain ⟨hconversions, hwriters⟩ := saves_change_target_only {} canvas path fs
  obtain ⟨ready, hchanged⟩ := hconversions spoil hspoil
  exact ⟨hspoil, himages, ⟨ready, hchanged⟩, hwriters (.new .pillow "PNG") images himages,
    hchanged.directory_kept ["d"] rfl, by decide +kernel, by decide +kernel⟩

/--
A save through a link fails for its suffix: the link is gone, and the file behind it holds the
pixmap.  A save through the directory above makes a directory that lies on no way to its file.
-/
theorem saves_change_beyond_target :
    let images : ImageServices := ⟨.ofFormats [(".png", "PNG")] ["PNG"], none⟩
    let canvas : Canvas Float := .blank 2 1 ⟨0, 0, 0⟩
    let linked : FileSystem :=
      ⟨[("other.bin", .file (.bytes [7])), ("x.qqq", .link (.ofText "other.bin"))], [], {}⟩
    let behind :=
      ((ImageWriter.new .pillow "PNG").save ⟨images, {}⟩ canvas (.ofText "x.qqq") linked).2
    let climbing := Path.ofText "a/../b/x.ppm"
    let beside := ((ImageWriter.new .none "PNG").save ⟨images, {}⟩ canvas climbing (.empty [])).2
    behind.kind? ["x.qqq"] = none
      ∧ behind.kind? ["other.bin"] = some (.file (.image "PPM" canvas.picture))
      ∧ (beside.place climbing).toOption = some [("b" : Text), "x.ppm"]
      ∧ beside.isDirectory (.ofText "a") = true := by
  intro images canvas linked behind climbing beside
  exact ⟨by decide +kernel, by decide +kernel, by decide +kernel, by decide +kernel⟩

end ImageWriter
end Diorama
