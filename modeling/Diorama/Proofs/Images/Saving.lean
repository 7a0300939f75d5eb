import Diorama.Images.Writer
import Diorama.Proofs.Files.Changes

/-!
# What a save comes to

A save gives back its path, or it fails with an error of saving, and if it was the conversion that
failed, nothing stands under the path any more.  Only a failure that is no error of the script
breaks this: that of a path which no file system could hold or which lies too deep, one of the
image library that is not reported as its own, or that of removing the file again.  Among those of
the library is a format without an encoder; the unconverted pixmap then stays under the path.

**Main statements.**
* `Conversion.saved`: the five ways in which a save ends.
* `saves_cleanly_iff`: a save is clean unless it fails bare, and when it does.
-/

namespace Diorama

namespace ImageWriter

/-- Why writing a pixmap crashes: its path cannot be named, or lies too deep. -/
inductive Unreachable
    (path : Path) : Crash → Prop
  | unnameable
      {defect : PathDefect}
      (h : path.parent.defect? = some defect ∨ path.defect? = some defect) :
      Unreachable path (.badPath defect)
  | tooDeep :
      Unreachable path .tooManyDirectories

/--
What writing a canvas as a pixmap comes to: directories are made on the way, and then the file is
written or not.
-/
inductive PixmapWritten
    (canvas : Canvas Float)
    (path : Path)
    (fs : FileSystem) :
    Except SaveFailure Unit × FileSystem → Prop
  | written
      {made after : FileSystem}
      (makes : fs.Makes path.parent made)
      (write_eq : made.write path (.image pixmapFormat canvas.picture) = .ok after) :
      PixmapWritten canvas path fs (.ok (), after)
  | refused
      {made : FileSystem}
      (makes : fs.Makes path.parent made)
      (e : SystemError) :
      PixmapWritten canvas path fs (.error (notWritten path e), made)
  | crashed
      {made : FileSystem}
      {cause : Crash}
      (makes : fs.Makes path.parent made)
      (unreachable : Unreachable path cause) :
      PixmapWritten canvas path fs (.error (.crash cause), made)

theorem pixmapWritten_writeFile
    (canvas : Canvas Float)
    {path : Path}
    {fs made : FileSystem}
    (h : fs.Makes path.parent made) :
    PixmapWritten canvas path fs (writeFile canvas path made) := by
  unfold writeFile
  split
  · rename_i defect hdefect
    exact .crashed h (.unnameable (.inr hdefect))
  · split
    · exact .refused h _
    · rename_i hwrite
      exact .written h hwrite

theorem pixmapWritten
    (limits : Limits)
    (canvas : Canvas Float)
    (path : Path)
    (fs : FileSystem) :
    PixmapWritten canvas path fs (writePixmap limits canvas path fs) := by
  have hmade := fs.makes_makeDirectories limits.newDirectories path.parent
  have hsame := FileSystem.Makes.refl fs path.parent
  unfold writePixmap
  simp only
  split
  · rename_i defect hdefect
    exact .crashed hsame (.unnameable (.inl hdefect))
  · split
    · exact .refused hsame _
    · exact pixmapWritten_writeFile canvas hsame
    · split <;> rename_i heq <;> rw [heq] at hmade
      · exact .refused hmade _
      · exact .crashed hmade .tooDeep
      · exact pixmapWritten_writeFile canvas hmade

/-- Where a pixmap was written, it stands at the place of its path. -/
theorem sets_of_writePixmap
    {limits : Limits}
    {canvas : Canvas Float}
    {path : Path}
    {fs ready : FileSystem}
    (h : writePixmap limits canvas path fs = (.ok (), ready)) :
    ∃ (made : FileSystem) (place : Place), fs.Makes path.parent made
      ∧ made.Sets path place (some (.image pixmapFormat canvas.picture)) ready := by
  have hpixmap := pixmapWritten limits canvas path fs
  rw [h] at hpixmap
  cases hpixmap with
  | @written made _ makes write_eq =>
      obtain ⟨place, hsets⟩ := FileSystem.sets_of_write write_eq
      exact ⟨made, place, makes, hsets⟩

theorem read_of_writePixmap
    {limits : Limits}
    {canvas : Canvas Float}
    {path : Path}
    {fs ready : FileSystem}
    (h : writePixmap limits canvas path fs = (.ok (), ready)) :
    ready.read path = .ok (.image pixmapFormat canvas.picture) := by
  obtain ⟨made, place, _, hsets⟩ := sets_of_writePixmap h
  exact FileSystem.read_eq_ok_iff.mpr ⟨place, hsets.place_after, hsets.kind?_after⟩

end ImageWriter

namespace Conversion

open ImageWriter

/-- What saving a canvas through a conversion comes to. -/
inductive Saved
    (convert : Conversion)
    (limits : Limits)
    (canvas : Canvas Float)
    (path : Path)
    (fs : FileSystem) :
    Except SaveFailure Path × FileSystem → Prop
  | stopped
      {failure : SaveFailure}
      {after : FileSystem}
      (pixmap_eq : writePixmap limits canvas path fs = (.error failure, after)) :
      Saved convert limits canvas path fs (.error failure, after)
  | kept
      {ready after : FileSystem}
      (pixmap_eq : writePixmap limits canvas path fs = (.ok (), ready))
      (convert_eq : convert path ready = (.ok (), after)) :
      Saved convert limits canvas path fs (.ok path, after)
  | withdrawn
      {fault : SaveFault}
      {ready mid after : FileSystem}
      (pixmap_eq : writePixmap limits canvas path fs = (.ok (), ready))
      (convert_eq : convert path ready = (.error (.fault fault), mid))
      (remove_eq : mid.remove path = .ok after) :
      Saved convert limits canvas path fs (.error (.script (.ofFault (.notSaved fault))), after)
  | notRemoved
      {fault : SaveFault}
      {ready mid : FileSystem}
      {e : SystemError}
      (pixmap_eq : writePixmap limits canvas path fs = (.ok (), ready))
      (convert_eq : convert path ready = (.error (.fault fault), mid))
      (remove_eq : mid.remove path = .error e) :
      Saved convert limits canvas path fs (.error (.system e.message), mid)
  | crashed
      {cause : Crash}
      {ready after : FileSystem}
      (pixmap_eq : writePixmap limits canvas path fs = (.ok (), ready))
      (convert_eq : convert path ready = (.error (.crash cause), after)) :
      Saved convert limits canvas path fs (.error (.crash cause), after)

theorem saved
    (convert : Conversion)
    (limits : Limits)
    (canvas : Canvas Float)
    (path : Path)
    (fs : FileSystem) :
    Saved convert limits canvas path fs (convert.save limits canvas path fs) := by
  unfold save
  rcases hpixmap : writePixmap limits canvas path fs with ⟨failure | _, ready⟩
  · exact .stopped hpixmap
  · simp only
    rcases hconvert : convert path ready with ⟨(fault | cause) | _, mid⟩
    · simp only [withdraw]
      cases hremove : mid.remove path with
      | ok after => exact .withdrawn hpixmap hconvert hremove
      | error e => exact .notRemoved hpixmap hconvert hremove
    · exact .crashed hpixmap hconvert
    · exact .kept hpixmap hconvert

/-- An image library fails on the file of a path. -/
def LibraryFails
    (library : ImageLibrary)
    (format : Text)
    (path : Path)
    (fs : FileSystem)
    (e : LibraryError)
    (after : FileSystem) :
    Prop :=
  (library.load path fs = .error e ∧ after = fs)
    ∨ ∃ picture, library.load path fs = .ok picture
      ∧ library.save picture format path fs = (.error e, after)

/-- A conversion through a library fails where the library does. -/
theorem throughLibrary_eq_error_iff
    {library : ImageLibrary}
    {format : Text}
    {path : Path}
    {fs after : FileSystem}
    {failure : ConversionFailure} :
    throughLibrary library format path fs = (.error failure, after)
      ↔ ∃ e, LibraryFails library format path fs e after
        ∧ libraryFailure path format e = failure := by
  unfold throughLibrary LibraryFails
  cases hload : library.load path fs with
  | error e =>
      constructor
      · intro h
        cases h
        exact ⟨e, .inl ⟨rfl, rfl⟩, rfl⟩
      · rintro ⟨_, ⟨⟨⟩, rfl⟩ | ⟨_, ⟨⟩, _⟩, rfl⟩
        rfl
  | ok picture =>
      simp only [reduceCtorEq, false_and, false_or, Except.ok.injEq, exists_eq_left']
      rcases library.save picture format path fs with ⟨e | _, mid⟩
      · constructor
        · intro h
          cases h
          exact ⟨e, rfl, rfl⟩
        · rintro ⟨_, ⟨⟩, rfl⟩
          rfl
      · simp

end Conversion

namespace ImageWriter

/-- The conversion of a writer crashes only through a library that knows the format of the name. -/
theorem conversion_eq_crash_iff
    {w : ImageWriter}
    {images : ImageServices}
    {path : Path}
    {fs after : FileSystem}
    {cause : Crash} :
    w.conversion images path fs = (.error (.crash cause), after)
      ↔ w.converter = .pillow ∧ ∃ format, w.formatFor images.library path = .ok format
        ∧ ∃ e, Conversion.LibraryFails images.library format path fs e after
          ∧ Conversion.libraryFailure path format e = .crash cause := by
  unfold conversion
  cases w.converter with
  | none => simp [Conversion.leave]
  | magick =>
      simp only [reduceCtorEq, false_and, iff_false, Conversion.throughTool]
      split
      · simp
      · split <;> simp
  | pillow =>
      cases hformat : w.formatFor images.library path with
      | error fault => simp
      | ok format => simp [Conversion.throughLibrary_eq_error_iff]

/--
A save is clean: it gives back the path, or it fails with an error of saving; and if it was the
conversion that failed, nothing stands under the path.
-/
def SavesCleanly
    (w : ImageWriter)
    (host : Host)
    (canvas : Canvas Float)
    (path : Path)
    (fs : FileSystem) :
    Prop :=
  match w.save host canvas path fs with
  | (.ok saved, _) => saved = path
  | (.error (.script error), after) =>
      error.fault.kind = .persistenceFailure
        ∧ ((writePixmap host.limits canvas path fs).1 = .ok () → after.lookup path = .ok none)
  | (.error _, _) => False

/-- How a save fails with anything but an error of the script. -/
inductive FailsBare
    (w : ImageWriter)
    (host : Host)
    (canvas : Canvas Float)
    (path : Path)
    (fs : FileSystem) :
    SaveFailure → Prop
  | notReached
      {cause : Crash}
      (unreachable : Unreachable path cause)
      (stopped : (writePixmap host.limits canvas path fs).1 = .error (.crash cause)) :
      FailsBare w host canvas path fs (.crash cause)
  | notReported
      {ready after : FileSystem}
      {format : Text}
      {e : LibraryError}
      {cause : Crash}
      (pixmap_eq : writePixmap host.limits canvas path fs = (.ok (), ready))
      (converter_eq : w.converter = .pillow)
      (format_eq : w.formatFor host.images.library path = .ok format)
      (fails : Conversion.LibraryFails host.images.library format path ready e after)
      (crash_eq : Conversion.libraryFailure path format e = .crash cause) :
      FailsBare w host canvas path fs (.crash cause)
  | notRemoved
      {ready mid : FileSystem}
      {fault : SaveFault}
      {e : SystemError}
      (pixmap_eq : writePixmap host.limits canvas path fs = (.ok (), ready))
      (convert_eq : w.conversion host.images path ready = (.error (.fault fault), mid))
      (remove_eq : mid.remove path = .error e) :
      FailsBare w host canvas path fs (.system e.message)

section

variable {w : ImageWriter} {host : Host} {canvas : Canvas Float} {path : Path} {fs : FileSystem}
  {failure : SaveFailure}

/-- How a save fails bare. -/
theorem failsBare_of_save
    (h : (w.save host canvas path fs).1 = .error failure)
    (hbare : ∀ error, failure ≠ .script error) :
    w.FailsBare host canvas path fs failure := by
  have hsaved := (w.conversion host.images).saved host.limits canvas path fs
  rw [← save] at hsaved
  generalize w.save host canvas path fs = outcome at hsaved h
  cases hsaved with
  | @stopped failure _ pixmap_eq =>
      cases h
      have hpixmap := pixmapWritten host.limits canvas path fs
      have hstopped : (writePixmap host.limits canvas path fs).1 = .error failure := by
        rw [pixmap_eq]
      rw [pixmap_eq] at hpixmap
      cases hpixmap with
      | refused makes e => exact absurd rfl (hbare _)
      | crashed makes unreachable => exact .notReached unreachable hstopped
  | kept => cases h
  | withdrawn =>
      cases h
      exact absurd rfl (hbare _)
  | notRemoved pixmap_eq convert_eq remove_eq =>
      cases h
      exact .notRemoved pixmap_eq convert_eq remove_eq
  | crashed pixmap_eq convert_eq =>
      cases h
      obtain ⟨hconverter, format, hformat, e, hfails, hcrash⟩ :=
        conversion_eq_crash_iff.mp convert_eq
      exact .notReported pixmap_eq hconverter hformat hfails hcrash

theorem save_of_crash
    {ready after : FileSystem}
    {cause : Crash}
    (hpixmap : writePixmap host.limits canvas path fs = (.ok (), ready))
    (hconvert : w.conversion host.images path ready = (.error (.crash cause), after)) :
    w.save host canvas path fs = (.error (.crash cause), after) := by
  simp only [save, Conversion.save, hpixmap, hconvert]

theorem fst_save_of_failsBare
    (h : w.FailsBare host canvas path fs failure) :
    (w.save host canvas path fs).1 = .error failure := by
  cases h with
  | @notReached cause unreachable stopped =>
      rcases hpixmap : writePixmap host.limits canvas path fs with ⟨result, after⟩
      rw [hpixmap] at stopped
      obtain rfl : result = .error (.crash cause) := stopped
      simp only [save, Conversion.save, hpixmap]
  | notReported pixmap_eq converter_eq format_eq fails crash_eq =>
      have hconvert := conversion_eq_crash_iff.mpr
        ⟨converter_eq, _, format_eq, _, fails, crash_eq⟩
      rw [save_of_crash pixmap_eq hconvert]
  | notRemoved pixmap_eq convert_eq remove_eq =>
      simp only [save, Conversion.save, Conversion.withdraw, pixmap_eq, convert_eq, remove_eq]

/-- Only a bare failure makes a save unclean. -/
theorem savesCleanly_iff_script :
    w.SavesCleanly host canvas path fs
      ↔ ∀ failure, (w.save host canvas path fs).1 = .error failure →
        ∃ error, failure = .script error := by
  have hsaved := (w.conversion host.images).saved host.limits canvas path fs
  unfold SavesCleanly
  rw [← save] at hsaved
  generalize w.save host canvas path fs = outcome at hsaved
  cases hsaved with
  | @stopped failure after pixmap_eq =>
      have hpixmap := pixmapWritten host.limits canvas path fs
      rw [pixmap_eq] at hpixmap ⊢
      cases hpixmap with
      | refused makes e => simp [notWritten, ScriptError.ofFault, Fault.kind]
      | crashed => simp
  | kept => simp
  | withdrawn pixmap_eq convert_eq remove_eq =>
      simp [ScriptError.ofFault, Fault.kind, FileSystem.lookup_of_remove remove_eq]
  | notRemoved => simp
  | crashed => simp

end

end ImageWriter

namespace ImageLibrary

/-- There is no encoder for a format, and this is not reported as an error of saving. -/
def LacksEncoder
    (library : ImageLibrary)
    (format : Text) :
    Prop :=
  ∀ picture path fs, library.save picture format path fs = (.error (.noEncoder format), fs)

theorem lacksEncoder_ofFormats
    (suffixes : List (Text × Text))
    {encoders : List Text}
    {format : Text}
    (h : encoders.contains format = false) :
    (ofFormats suffixes encoders).LacksEncoder format := by
  intro picture path fs
  simp only [ofFormats, h, Bool.false_eq_true, if_false]

theorem load_ofFormats
    (suffixes : List (Text × Text))
    (encoders : List Text)
    {path : Path}
    {fs : FileSystem}
    {format : Text}
    {picture : Picture}
    (h : fs.read path = .ok (.image format picture)) :
    (ofFormats suffixes encoders).load path fs = .ok picture := by
  simp only [ofFormats, h]

end ImageLibrary

namespace ImageWriter

/--
A save is clean exactly if it does not fail bare.  It fails bare while the pixmap is written if the
path cannot be named or too many directories are missing, after that if the image library fails with
an error that is not reported, and in the end if the file cannot be removed.  So it does wherever
the library takes the name for a format that it has no encoder for; then the pixmap stays under the
path.
-/
theorem saves_cleanly_iff
    (w : ImageWriter)
    (host : Host)
    (canvas : Canvas Float)
    (path : Path)
    (fs : FileSystem) :
    (w.SavesCleanly host canvas path fs ↔ ∀ failure, ¬w.FailsBare host canvas path fs failure)
      ∧ (∀ failure, (∀ error, failure ≠ .script error) →
        ((w.save host canvas path fs).1 = .error failure
          ↔ w.FailsBare host canvas path fs failure))
      ∧ ∀ ready format picture, w.converter = .pillow →
        w.formatFor host.images.library path = .ok format →
        host.images.library.LacksEncoder format →
        writePixmap host.limits canvas path fs = (.ok (), ready) →
        host.images.library.load path ready = .ok picture →
          w.save host canvas path fs = (.error (.crash (.formatUnknown format)), ready)
            ∧ ready.read path = .ok (.image pixmapFormat canvas.picture) := by
  refine ⟨?_, fun failure hbare => ⟨fun h => failsBare_of_save h hbare, fst_save_of_failsBare⟩, ?_⟩
  · rw [savesCleanly_iff_script]
    constructor
    · intro hclean failure hfails
      obtain ⟨error, rfl⟩ := hclean failure (fst_save_of_failsBare hfails)
      cases hfails
    · intro hclean failure hfailure
      by_contra hbare
      exact hclean failure (failsBare_of_save hfailure (not_exists.mp hbare))
  · intro ready format picture hconverter hformat hlacks hpixmap hload
    have hfails : Conversion.LibraryFails host.images.library format path ready
        (.noEncoder format) ready := .inr ⟨picture, hload, hlacks picture path ready⟩
    have hconvert := conversion_eq_crash_iff.mpr ⟨hconverter, format, hformat, _, hfails, rfl⟩
    exact ⟨save_of_crash hpixmap hconvert, read_of_writePixmap hpixmap⟩

/-- A cursor, which the library can only read. -/
theorem saves_cleanly_iff_cursor :
    let w : ImageWriter := .new .pillow "PNG"
    let library := ImageLibrary.ofFormats [(".png", "PNG"), (".cur", "CUR")] ["PNG"]
    let host : Host := ⟨⟨library, none⟩, {}⟩
    let canvas : Canvas Float := .blank 4 3 ⟨0, 0, 0⟩
    let path := Path.ofText "x.cur"
    library.LacksEncoder "CUR"
      ∧ ∃ ready, writePixmap host.limits canvas path (.empty []) = (.ok (), ready)
        ∧ w.save host canvas path (.empty [])
          = (.error (.crash (.formatUnknown "CUR")), ready)
        ∧ ready.read path = .ok (.image "PPM" canvas.picture) := by
  intro w library host canvas path
  have hlacks : library.LacksEncoder "CUR" :=
    ImageLibrary.lacksEncoder_ofFormats _ (by decide)
  have hwritten : (writePixmap host.limits canvas path (.empty [])).1 = .ok () := by rfl
  obtain ⟨ready, hpixmap⟩ :
      ∃ ready, writePixmap host.limits canvas path (.empty []) = (.ok (), ready) :=
    ⟨_, Prod.ext hwritten rfl⟩
  have hload : library.load path ready = .ok canvas.picture :=
    ImageLibrary.load_ofFormats _ _ (read_of_writePixmap hpixmap)
  obtain ⟨-, -, hcrash⟩ :=
    saves_cleanly_iff w host canvas path (.empty [])
  exact ⟨hlacks, ready, hpixmap,
    hcrash ready "CUR" canvas.picture rfl (by rfl) hlacks hpixmap hload⟩

/-- A format that can only be read: the save crashes, and the pixmap stays under the path. -/
theorem saves_uncleanly_psd :
    let w : ImageWriter := .new .pillow "PNG"
    let library := ImageLibrary.ofFormats [(".png", "PNG"), (".psd", "PSD")] ["PNG"]
    let host : Host := ⟨⟨library, none⟩, {}⟩
    let canvas : Canvas Float := .blank 4 3 ⟨0, 0, 0⟩
    let path := Path.ofText "x.psd"
    let outcome := w.save host canvas path (.empty [])
    outcome.1 = .error (.crash (.formatUnknown "PSD"))
      ∧ outcome.2.read path = .ok (.image "PPM" canvas.picture)
      ∧ ¬w.SavesCleanly host canvas path (.empty []) := by
  intro w library host canvas path outcome
  have hwritten : (writePixmap {} canvas path (.empty [])).1 = .ok () := by rfl
  obtain ⟨ready, hpixmap⟩ : ∃ ready, writePixmap {} canvas path (.empty []) = (.ok (), ready) :=
    ⟨_, Prod.ext hwritten rfl⟩
  have hload : library.load path ready = .ok canvas.picture :=
    ImageLibrary.load_ofFormats _ _ (read_of_writePixmap hpixmap)
  have hconvert : w.conversion host.images path ready
      = (.error (.crash (.formatUnknown "PSD")), ready) :=
    conversion_eq_crash_iff.mpr
      ⟨rfl, "PSD", by rfl, .noEncoder "PSD", .inr ⟨_, hload, by rfl⟩, rfl⟩
  have hcrash : outcome = (.error (.crash (.formatUnknown "PSD")), ready) :=
    save_of_crash hpixmap hconvert
  refine ⟨congrArg Prod.fst hcrash, ?_, fun hclean => ?_⟩
  · rw [hcrash]
    exact read_of_writePixmap hpixmap
  · obtain ⟨error, ⟨⟩⟩ := savesCleanly_iff_script.mp hclean _ (congrArg Prod.fst hcrash)

end ImageWriter
end Diorama
