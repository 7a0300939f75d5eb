import Diorama.CommandLine.Program
import Diorama.Proofs.Config.Demands
import Diorama.Proofs.Fallible

/-!
# Reported failures of settings

A failed loading of settings is reported when the system, a value or a type is to blame.  What is
not reported are numbers out of range and documents nested too deeply: whether that happens is
decided by the document, by the first of its demands that is not met, and behind it by the first
demand of the overrides.

**Main statements.**
* `LoadError.escape?_eq_none_iff`: the program reports three classes of errors.
* `FieldValue.overflows_iff`: which values are out of range.
* `settings_reported`: when loading a file succeeds or fails with a report.
-/

namespace Diorama

/-- What an error is put down to. -/
inductive ErrorClass
  | system
  | value
  | type
  | overflow
  | recursion
  deriving DecidableEq

/-- Whether the program reports the errors of a class on loading settings. -/
def ErrorClass.isReported : ErrorClass → Bool
  | system | value | type => true
  | overflow | recursion => false

/-- The class of a failed conversion. -/
def ConversionError.errorClass : ConversionError → ErrorClass
  | notAnInteger _ | integerTooLong _ | undefinedToInteger | notAFloat _ => .value
  | integerFromOther _ | floatFromOther _ => .type
  | infiniteToInteger | integerOutOfRange => .overflow

/-- The class of a wrong value. -/
def SettingsError.errorClass : SettingsError → ErrorClass
  | conversion e => e.errorClass
  | _ => .value

/-- The class of a failed loading. -/
def LoadError.errorClass : LoadError → ErrorClass
  | value e => e.errorClass
  | system _ => .system
  | badDocument ⟨.tooDeep, _⟩ _ => .recursion
  | unknownOverride _ | unsupportedFile _ | notUtf8 _ | badDocument .. | badPath _ => .value
  | sectionNotAnObject _ | unknownSource | noMembers _ | listHasNoNames | textHasNoNames => .type

/-- The program reports a failed loading exactly if its class is reported. -/
theorem LoadError.escape?_eq_none_iff
    (e : LoadError) :
    e.escape? = none ↔ e.errorClass.isReported = true := by
  cases e with
  | value e =>
      cases e with
      | conversion e => cases e <;> simp [escape?, errorClass, SettingsError.errorClass,
          ConversionError.errorClass, ErrorClass.isReported]
      | _ => simp [escape?, errorClass, SettingsError.errorClass, ErrorClass.isReported]
  | badDocument e document =>
      obtain ⟨fault, position⟩ := e
      cases fault <;> simp [escape?, errorClass, ErrorClass.isReported]
  | _ => simp [escape?, errorClass, ErrorClass.isReported]

/-- An error that the program does not report. -/
def SettingsError.Escapes
    (e : SettingsError) :
    Prop :=
  e.errorClass.isReported = false

theorem SettingsError.escapes_conversion_iff
    (e : ConversionError) :
    (conversion e).Escapes ↔ e = .infiniteToInteger ∨ e = .integerOutOfRange := by
  cases e <;> simp [Escapes, errorClass, ConversionError.errorClass, ErrorClass.isReported]

/-! ## Numbers out of range -/

/-- An infinite double is cut to no whole number, and it is the only one that escapes. -/
theorem truncateFloat_spec
    (x : Float) :
    (truncateFloat x = .error .infiniteToInteger ↔ x.isInf = true)
      ∧ ((∃ n, truncateFloat x = .ok n) ↔ x.isFinite = true)
      ∧ truncateFloat x ≠ .error .integerOutOfRange := by
  have hinf : x.isInf = x.toModel.unpack.isInf := rfl
  have hfinite : x.isFinite = x.toModel.unpack.isFinite := rfl
  rw [truncateFloat, Number.Exact.ofFloat, hinf, hfinite]
  cases x.toModel.unpack with
  | notANumber =>
      exact ⟨iff_of_false nofun nofun, iff_of_false (fun ⟨_, h⟩ => nomatch h) nofun, nofun⟩
  | infinity sign =>
      exact ⟨iff_of_true rfl rfl, iff_of_false (fun ⟨_, h⟩ => nomatch h) nofun, nofun⟩
  | zero sign => exact ⟨iff_of_false nofun nofun, iff_of_true ⟨_, rfl⟩ rfl, nofun⟩
  | finite sign m e hm => exact ⟨iff_of_false nofun nofun, iff_of_true ⟨_, rfl⟩ rfl, nofun⟩

theorem fails_truncateFloat_iff
    (x : Float) :
    Fails SettingsError.Escapes ((truncateFloat x).mapError .conversion) ↔ x.isInf = true := by
  obtain ⟨hinfinite, _, hrange⟩ := truncateFloat_spec x
  rw [← hinfinite]
  cases h : truncateFloat x with
  | ok n => simp [Fails]
  | error e =>
      rw [h] at hrange
      simp only [Fails, mapError_error, Except.error.injEq, exists_eq_left',
        SettingsError.escapes_conversion_iff]
      exact or_iff_left fun he => hrange (congrArg _ he)

/-- A whole number that is too large for a double. -/
def Json.IsUnbounded
    (v : Json) :
    Prop :=
  ∃ n, v = .int n ∧ (Number.ofInt n).isFinite = false

/-- A value that denotes a double. -/
def Json.IsDouble
    (v : Json) :
    Prop :=
  ∃ x, v.toFloat = .ok x

/-- Three values, the first of which that denotes no double is too large a whole number. -/
def Json.HoldsUnbounded
    (v : Json) :
    Prop :=
  ∃ x y z, v = .list [x, y, z] ∧ First IsUnbounded IsDouble [x, y, z]

/-- A value that is out of range for its field. -/
def FieldValue.Overflows : FieldValue → Prop
  | (.whole, v) => ∃ x, v = .real x ∧ x.isInf = true
  | (.double, v) => v.IsUnbounded
  | (.vector _, v) => v.HoldsUnbounded
  | (.colour label, v) =>
      v.HoldsUnbounded
        ∨ ∃ c, vectorField label v = .ok c
          ∧ First (fun x : Float => x.isInf = true) (fun x => x.isFinite = true) c.toList
  | (.converter, _) | (.text, _) => False

theorem fails_integerField_iff
    (v : Json) :
    Fails SettingsError.Escapes (integerField v) ↔ ∃ x, v = .real x ∧ x.isInf = true := by
  cases v with
  | real x => simpa [integerField, Json.toInteger] using fails_truncateFloat_iff x
  | text s =>
      simp only [integerField, Json.toInteger]
      cases Number.readInteger s <;>
        simp [Fails, SettingsError.escapes_conversion_iff]
  | _ =>
      simp [integerField, Json.toInteger, Fails, SettingsError.escapes_conversion_iff]

theorem fails_floatField_iff
    (v : Json) :
    Fails SettingsError.Escapes (floatField v) ↔ v.IsUnbounded := by
  cases v with
  | int n =>
      simp only [floatField, Json.toFloat, Json.IsUnbounded, Json.int.injEq, exists_eq_left']
      cases hfinite : (Number.ofInt n).isFinite <;>
        simp [Fails, SettingsError.escapes_conversion_iff]
  | text s =>
      simp only [floatField, Json.toFloat]
      cases Number.readFloat? s <;>
        simp [Fails, SettingsError.escapes_conversion_iff, Json.IsUnbounded]
  | _ =>
      simp [floatField, Json.toFloat, Fails, SettingsError.escapes_conversion_iff,
        Json.IsUnbounded]

theorem errorOf?_floatField_eq_none_iff
    (v : Json) :
    errorOf? (floatField v) = none ↔ v.IsDouble := by
  simp only [floatField, errorOf?_mapError, Json.IsDouble]
  cases v.toFloat <;> simp [errorOf?]

theorem fails_vectorField_iff
    (label : String)
    (v : Json) :
    Fails SettingsError.Escapes (vectorField label v) ↔ v.HoldsUnbounded := by
  unfold vectorField
  split
  case h_1 =>
    refine iff_of_false ?_ ?_
    · rintro ⟨_, ⟨⟩, ⟨⟩⟩
    · rintro ⟨_, _, _, ⟨⟩, _⟩
  case h_2 x y z =>
    have hcomponents : FailsWith (fun v => errorOf? (floatField v)) ([x] ++ ([y] ++ ([z] ++ [])))
        (do return (⟨← floatField x, ← floatField y, ← floatField z⟩ : Vec3 Float)) :=
      failsWith_bind (failsWith_singleton rfl) fun _ =>
        failsWith_bind (failsWith_singleton rfl) fun _ =>
          failsWith_bind (failsWith_singleton rfl) fun _ => failsWith_pure _
    rw [hcomponents.fails_iff]
    simp only [exists_mem_errorOf?_iff, fails_floatField_iff, errorOf?_floatField_eq_none_iff,
      List.cons_append, List.nil_append]
    constructor
    · exact fun h => ⟨x, y, z, rfl, h⟩
    · rintro ⟨_, _, _, ⟨⟩, h⟩
      exact h
  case h_3 hlist =>
    refine iff_of_false ?_ ?_
    · rintro ⟨_, ⟨⟩, ⟨⟩⟩
    · rintro ⟨x, y, z, rfl, _⟩
      exact hlist x y z rfl

/-- A channel in front of others: a fraction is cut off, and what is no number is reported. -/
theorem fails_channel_iff
    {α : Type}
    {rest : List Float}
    {next : Int → Except SettingsError α}
    (hnext : ∀ n, Fails SettingsError.Escapes (next n)
      ↔ First (fun x : Float => x.isInf = true) (fun x => x.isFinite = true) rest)
    (x : Float) :
    Fails SettingsError.Escapes ((truncateFloat x).mapError .conversion >>= next)
      ↔ First (fun x : Float => x.isInf = true) (fun x => x.isFinite = true) (x :: rest) := by
  rw [fails_bind_iff, fails_truncateFloat_iff, first_cons_iff]
  obtain ⟨_, hfinite, _⟩ := truncateFloat_spec x
  simp only [mapError_eq_ok_iff, hnext, exists_and_right, hfinite]

theorem fails_colourField_iff
    (label : String)
    (v : Json) :
    Fails SettingsError.Escapes (colourField label v)
      ↔ FieldValue.Overflows (.colour label, v) := by
  unfold colourField
  rw [fails_bind_iff, fails_vectorField_iff]
  refine or_congr_right (exists_congr fun c => and_congr_right fun _ => ?_)
  obtain ⟨x, y, z⟩ := c
  refine fails_channel_iff (fun r => ?_) x
  refine fails_channel_iff (fun g => ?_) y
  refine fails_channel_iff (fun b => ?_) z
  -- what is left is the check of the range, which is reported
  refine iff_of_false ?_ not_first_nil
  split <;> rintro ⟨_, ⟨⟩, ⟨⟩⟩

theorem FieldValue.overflows_iff
    (value : FieldValue) :
    value.Overflows ↔ ∃ e ∈ value.error?, e.Escapes := by
  obtain ⟨kind, v⟩ := value
  cases kind with
  | whole => exact (exists_mem_errorOf?_iff.trans (fails_integerField_iff v)).symm
  | double => exact (exists_mem_errorOf?_iff.trans (fails_floatField_iff v)).symm
  | vector label => exact (exists_mem_errorOf?_iff.trans (fails_vectorField_iff label v)).symm
  | colour label => exact (exists_mem_errorOf?_iff.trans (fails_colourField_iff label v)).symm
  | converter =>
      refine iff_of_false id ?_
      rw [error?, exists_mem_errorOf?_iff, converterField]
      split <;> rintro ⟨_, ⟨⟩, ⟨⟩⟩
  | text => simp [Overflows, error?]

/-! ## Files -/

/-- A failed loading that the program does not report. -/
def LoadError.Escapes
    (e : LoadError) :
    Prop :=
  e.errorClass.isReported = false

/-- A demand that is out of range. -/
def Demand.Overflows : Demand → Prop
  | mapping .. => False
  | field value => value.Overflows

theorem Demand.overflows_iff
    (d : Demand) :
    d.Overflows ↔ ∃ e ∈ d.error?, e.Escapes := by
  cases d with
  | mapping name v =>
      cases v <;> simp [Overflows, error?, LoadError.Escapes, LoadError.errorClass,
        ErrorClass.isReported]
  | field value =>
      rw [Overflows, FieldValue.overflows_iff]
      simp only [error?, Option.mem_def, Option.map_eq_some_iff]
      constructor
      · rintro ⟨e, he, hescapes⟩
        exact ⟨_, ⟨e, he, rfl⟩, hescapes⟩
      · rintro ⟨_, ⟨e, he, rfl⟩, hescapes⟩
        exact ⟨e, he, hescapes⟩

/-- The first demand of an object that is not met is out of range. -/
def Demand.FirstOverflows
    (members : Named Json) :
    Prop :=
  First Overflows (fun d => d.error? = none) (ofMembers members)

theorem Settings.fails_overlay_iff
    (s : Settings)
    (members : Named Json) :
    Fails LoadError.Escapes (s.overlay members) ↔ Demand.FirstOverflows members := by
  rw [(failsWith_overlay s members).fails_iff]
  simp only [← Demand.overflows_iff]
  rfl

namespace Settings

/-- Of the failures to read a document only its depth escapes. -/
theorem nested_of_fileDocument
    {limits : Limits}
    {fs : FileSystem}
    {path : Path}
    {e : LoadError}
    (h : fileDocument limits fs path = .error e)
    (hescapes : e.Escapes) :
    ∃ position text, e = .badDocument ⟨.tooDeep, position⟩ text := by
  unfold fileDocument at h
  cases hdefect : path.defect? with
  | some defect =>
      rw [hdefect] at h
      cases h
      cases hescapes
  | none =>
      cases hread : fs.read path with
      | error cause =>
          rw [hdefect, hread] at h
          cases h
          cases hescapes
      | ok content =>
          cases hraw : Text.decodeUtf8 content.plainBytes with
          | error cause =>
              simp only [hdefect, hread, hraw, mapError_ok, mapError_error, bind, Except.bind] at h
              cases h
              cases hescapes
          | ok raw =>
              simp only [hdefect, hread, hraw, mapError_ok, bind, Except.bind] at h
              split at h
              · cases hdocument : Json.read limits.documentDepth
                  (String.ofList (Text.unifyLineBreaks raw.toList)) with
                | error error =>
                    rw [hdocument] at h
                    cases h
                    obtain ⟨fault, position⟩ := error
                    cases fault <;> first | exact ⟨_, _, rfl⟩ | cases hescapes
                | ok document =>
                    rw [hdocument] at h
                    cases h
              · cases h
                cases hescapes

theorem fails_ofFileDocument_iff
    (document : Json) :
    Fails LoadError.Escapes (ofFileDocument document)
      ↔ ∃ members, document = .object members ∧ Demand.FirstOverflows members := by
  cases document with
  | object members => simp [ofFileDocument, fails_overlay_iff]
  | list items =>
      refine iff_of_false ?_ (by simp)
      simp only [ofFileDocument]
      split <;> rintro ⟨_, ⟨⟩, ⟨⟩⟩
  | text t =>
      refine iff_of_false ?_ (by simp)
      simp only [ofFileDocument]
      split <;> rintro ⟨_, ⟨⟩, ⟨⟩⟩
  | null | bool _ | int _ | real _ =>
      refine iff_of_false ?_ (by simp)
      rintro ⟨_, ⟨⟩, ⟨⟩⟩

/-- An override that is not known is reported. -/
theorem not_fails_readOverrides
    (overrides : List (Text × Json)) :
    ¬Fails LoadError.Escapes (readOverrides overrides) := by
  fun_induction readOverrides overrides with
  | case1 => rintro ⟨_, ⟨⟩, _⟩
  | case2 key rest ih => exact ih
  | case3 key value rest hvalue hunknown => rintro ⟨_, ⟨⟩, ⟨⟩⟩
  | case4 key value rest hvalue place hknown ih =>
      rw [fails_bind_iff, not_or]
      refine ⟨ih, ?_⟩
      rintro ⟨laid, _, _, ⟨⟩, _⟩

/-- What the check finds is reported. -/
theorem not_fails_validate
    (s : Settings) :
    ¬Fails LoadError.Escapes (s.validate.mapError .value) := by
  unfold validate
  repeat' split
  all_goals rintro ⟨_, ⟨⟩, ⟨⟩⟩

/-- Why loading a file fails without a report. -/
inductive LoadEscapes
    (limits : Limits)
    (fs : FileSystem)
    (path : Path)
    (overrides : List (Text × Json)) : Prop
  /-- The document is nested too deeply. -/
  | nested
      {position : Nat}
      {text : String}
      (deep : fileDocument limits fs path = .error (.badDocument ⟨.tooDeep, position⟩ text))
  /-- A number of the document is out of range, and nothing in front of it is wrong. -/
  | document
      {members : Named Json}
      (object : fileDocument limits fs path = .ok (.object members))
      (overflows : Demand.FirstOverflows members)
  /-- The document is sound, the overrides are known, and a number of theirs is out of range. -/
  | override
      {base : Settings}
      {laid : List Override}
      (sound : ofFile limits fs path = .ok base)
      (known : readOverrides overrides = .ok laid)
      (overflows : Demand.FirstOverflows (overrideSections laid))

theorem fails_ofFile_iff
    (limits : Limits)
    (fs : FileSystem)
    (path : Path) :
    Fails LoadError.Escapes (ofFile limits fs path)
      ↔ (∃ position text,
          fileDocument limits fs path = .error (.badDocument ⟨.tooDeep, position⟩ text))
        ∨ ∃ members, fileDocument limits fs path = .ok (.object members)
          ∧ Demand.FirstOverflows members := by
  rw [ofFile, fails_bind_iff]
  refine or_congr ⟨?_, ?_⟩ ⟨?_, ?_⟩
  · rintro ⟨e, hdocument, hescapes⟩
    obtain ⟨position, text, rfl⟩ := nested_of_fileDocument hdocument hescapes
    exact ⟨position, text, hdocument⟩
  · rintro ⟨position, text, hdocument⟩
    exact ⟨_, hdocument, rfl⟩
  · rintro ⟨document, hdocument, hfails⟩
    obtain ⟨members, rfl, hfirst⟩ := (fails_ofFileDocument_iff document).mp hfails
    exact ⟨members, hdocument, hfirst⟩
  · rintro ⟨members, hdocument, hfirst⟩
    exact ⟨_, hdocument, (fails_ofFileDocument_iff _).mpr ⟨members, rfl, hfirst⟩⟩

/-- Loading a file fails without a report for these reasons only. -/
theorem fails_load_iff
    (limits : Limits)
    (fs : FileSystem)
    (path : Path)
    (overrides : List (Text × Json)) :
    Fails LoadError.Escapes (load limits fs (.file path) overrides)
      ↔ LoadEscapes limits fs path overrides := by
  have hchecked (s : Settings) :
      ¬Fails LoadError.Escapes (do s.validate.mapError .value; return s) := by
    rw [fails_bind_iff, not_or]
    refine ⟨not_fails_validate s, ?_⟩
    rintro ⟨_, _, _, ⟨⟩, _⟩
  have hload : Fails LoadError.Escapes (load limits fs (.file path) overrides)
      ↔ Fails LoadError.Escapes (ofFile limits fs path)
        ∨ ∃ base, ofFile limits fs path = .ok base
          ∧ ∃ laid, readOverrides overrides = .ok laid
            ∧ Demand.FirstOverflows (overrideSections laid) := by
    unfold load
    rw [fails_bind_iff]
    refine or_congr_right (exists_congr fun base => and_congr_right fun _ => ?_)
    rw [fails_bind_iff, or_iff_right (not_fails_readOverrides overrides)]
    refine exists_congr fun laid => and_congr_right fun _ => ?_
    rw [fails_bind_iff, fails_overlay_iff]
    refine or_iff_left ?_
    rintro ⟨s, _, hfails⟩
    exact hchecked s hfails
  rw [hload, fails_ofFile_iff]
  constructor
  · rintro ((⟨position, text, hdeep⟩ | ⟨members, hobject, hfirst⟩)
      | ⟨base, hsound, laid, hknown, hfirst⟩)
    · exact .nested hdeep
    · exact .document hobject hfirst
    · exact .override hsound hknown hfirst
  · rintro (⟨hdeep⟩ | ⟨hobject, hfirst⟩ | ⟨hsound, hknown, hfirst⟩)
    · exact .inl (.inl ⟨_, _, hdeep⟩)
    · exact .inl (.inr ⟨_, hobject, hfirst⟩)
    · exact .inr ⟨_, hsound, _, hknown, hfirst⟩

end Settings

/-- A failed loading ends the program with the status of wrong usage if it is reported. -/
theorem Program.ending_of_load_error
    {host : Host}
    {a : Arguments}
    {fs : FileSystem}
    {e : LoadError}
    (h : Settings.load host.limits fs (.ofJson a.config) a.overrides = .error e) :
    (withArguments host a fs).ending = .exit statusUsage ↔ e.errorClass.isReported = true := by
  rw [← LoadError.escape?_eq_none_iff]
  simp only [withArguments, h]
  cases e.escape? with
  | none => exact iff_of_true rfl rfl
  | some cause => exact iff_of_false nofun nofun

/--
Loading the settings of a file either succeeds or fails with an error of the system, of a value or
of a type, unless the document is nested too deeply, or the first thing wrong with the document or
with the overrides is a number out of range.  Exactly those three classes of errors end the program
with the status of wrong usage.
-/
theorem settings_reported
    (host : Host)
    (fs : FileSystem)
    (path : Path)
    (overrides : List (Text × Json)) :
    (((∃ s, Settings.load host.limits fs (.file path) overrides = .ok s)
          ∨ ∃ e, Settings.load host.limits fs (.file path) overrides = .error e
            ∧ e.errorClass.isReported = true)
        ↔ ¬Settings.LoadEscapes host.limits fs path overrides)
      ∧ ∀ (a : Arguments) (e : LoadError),
        Settings.load host.limits fs (.ofJson a.config) a.overrides = .error e →
          ((Program.withArguments host a fs).ending = .exit statusUsage
            ↔ e.errorClass.isReported = true) := by
  constructor
  · rw [← Settings.fails_load_iff, Fails]
    cases Settings.load host.limits fs (.file path) overrides with
    | ok s => simp
    | error e => simp [LoadError.Escapes]
  · exact fun a e => Program.ending_of_load_error

/-- A working directory with one file of settings, in characters that are bytes. -/
def FileSystem.holdingSettings
    (document : String) :
    FileSystem :=
  ⟨[("c.json", .file (.bytes (document.toList.map fun c => UInt8.ofNat c.toNat)))], [], {}⟩

/-- A width that is no number at all is reported. -/
theorem settings_reported_null_width :
    let host : Host := ⟨⟨.ofFormats [] [], none⟩, {}⟩
    let fs := FileSystem.holdingSettings "\x7b\"canvas\": \x7b\"width\": null\x7d\x7d"
    let a : Arguments := { config := .text "c.json" }
    ¬Settings.LoadEscapes host.limits fs (Path.ofText "c.json") []
      ∧ (Program.withArguments host a fs).ending = .exit statusUsage := by
  intro host fs a
  have hfile : (errorOf? (Settings.load host.limits fs (.file (Path.ofText "c.json")) [])).map
      LoadError.errorClass = some .type := by decide +kernel
  have hprogram : (errorOf? (Settings.load host.limits fs (.ofJson a.config) a.overrides)).map
      LoadError.errorClass = some .type := by decide +kernel
  obtain ⟨e, he, htype⟩ := Option.map_eq_some_iff.mp hfile
  obtain ⟨other, hother, hsame⟩ := Option.map_eq_some_iff.mp hprogram
  obtain ⟨hreported, hending⟩ := settings_reported host fs (Path.ofText "c.json") []
  have hload := errorOf?_eq_some_iff.mp he
  refine ⟨hreported.mp (.inr ⟨e, hload, by rw [htype]; rfl⟩), ?_⟩
  refine (hending a other (errorOf?_eq_some_iff.mp hother)).mpr ?_
  rw [hsame]
  rfl

/-- An infinite width is not. -/
theorem settings_unreported_infinite_width :
    let fs := FileSystem.holdingSettings "\x7b\"canvas\": \x7b\"width\": Infinity\x7d\x7d"
    ¬((∃ s, Settings.load {} fs (.file (Path.ofText "c.json")) [] = .ok s)
      ∨ ∃ e, Settings.load {} fs (.file (Path.ofText "c.json")) [] = .error e
        ∧ e.errorClass.isReported = true) := by
  intro fs
  have hclass : (errorOf? (Settings.load {} fs (.file (Path.ofText "c.json")) [])).map
      LoadError.errorClass = some .overflow := by decide +kernel
  obtain ⟨e, he, hoverflow⟩ := Option.map_eq_some_iff.mp hclass
  rw [errorOf?_eq_some_iff] at he
  rintro (⟨s, hs⟩ | ⟨other, hother, hreported⟩)
  · rw [he] at hs
    cases hs
  · rw [he] at hother
    cases hother
    rw [hoverflow] at hreported
    cases hreported

end Diorama
