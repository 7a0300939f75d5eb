import Diorama.Proofs.Config.Overrides
import Diorama.Proofs.Text.Capitals

/-!
# Written settings

Settings are written as a document that has a value at the place of every single setting.  What any
document value was read as is written in a form that reads as the same again: fractions of channels
are cut off once, a converter has one name, and capitals are their own capitals.  As the defaults
are written so too, this holds of all settings that were ever loaded, and loading what they are
written as gives them back.

**Main statements.**
* `Setting.read_written`: what a value was read as is read back.
* `Settings.Loaded.written`: loaded settings are read back, setting by setting.
* `settings_written_back`: loaded settings are loaded again from what they are written as.
-/

namespace Diorama

/-- A whole number that fits a byte is a double, of which cutting off a fraction leaves it. -/
theorem truncateFloat_ofInt :
    ∀ n < 256, truncateFloat (Number.ofInt (n : Nat)) = .ok (n : Int) := by
  decide +kernel

theorem Colour.exists_of_fitsByte
    {channel : Int}
    (h : Colour.fitsByte channel = true) :
    ∃ n < 256, channel = (n : Nat) := by
  simp only [fitsByte, Bool.and_eq_true, decide_eq_true_iff] at h
  exact ⟨channel.toNat, by omega, by omega⟩

/-- A channel that fits a byte is read back as it is. -/
theorem floatField_channel
    {channel : Int}
    (h : Colour.fitsByte channel = true) :
    floatField (.int channel) = .ok (Number.ofInt channel)
      ∧ (truncateFloat (Number.ofInt channel)).mapError SettingsError.conversion = .ok channel := by
  obtain ⟨n, hn, rfl⟩ := Colour.exists_of_fitsByte h
  have htruncate := truncateFloat_ofInt n hn
  have hfinite : (Number.ofInt n).isFinite = true :=
    (truncateFloat_spec _).2.1.mp ⟨n, htruncate⟩
  constructor
  · simp only [floatField, Json.toFloat, hfinite, if_true]
    rfl
  · rw [htruncate]
    rfl

/-- All channels fit into a byte. -/
structure Colour.FitsBytes
    (c : Colour) : Prop where
  red : fitsByte c.red = true
  green : fitsByte c.green = true
  blue : fitsByte c.blue = true

/-- A colour as a list of whole numbers. -/
def colourJson
    (c : Colour) :
    Json :=
  .list [.int c.red, .int c.green, .int c.blue]

/-- A colour that was read fits into bytes. -/
theorem fitsBytes_of_colourField
    {label : String}
    {v : Json}
    {c : Colour}
    (h : colourField label v = .ok c) :
    c.FitsBytes := by
  simp only [colourField, bind_eq_ok_iff] at h
  obtain ⟨_, _, r, _, g, _, b, _, hfits⟩ := h
  split at hfits
  · rename_i hchannels
    cases hfits
    simp only [Bool.and_eq_true] at hchannels
    exact ⟨hchannels.1.1, hchannels.1.2, hchannels.2⟩
  · cases hfits

theorem colourField_colourJson
    (label : String)
    {c : Colour}
    (h : c.FitsBytes) :
    colourField label (colourJson c) = .ok c := by
  obtain ⟨hr, hr'⟩ := floatField_channel h.red
  obtain ⟨hg, hg'⟩ := floatField_channel h.green
  obtain ⟨hb, hb'⟩ := floatField_channel h.blue
  have hvector : vectorField label (colourJson c)
      = .ok ⟨Number.ofInt c.red, Number.ofInt c.green, Number.ofInt c.blue⟩ :=
    vectorField_eq_ok_iff.mpr ⟨_, _, _, rfl, hr, hg, hb⟩
  simp only [colourField, bind_eq_ok_iff]
  refine ⟨_, hvector, _, hr', _, hg', _, hb', ?_⟩
  rw [if_pos (by simp [h.red, h.green, h.blue])]
  rfl

/-- A converter is chosen by its name. -/
theorem converterField_name
    (c : Converter) :
    converterField (.text c.name) = .ok c := by
  have hchoice : Converter.ofChoice? c.name = some c := by cases c <;> decide +kernel
  simp only [converterField, Json.display, hchoice]

namespace Setting

variable {β : Type}

/-- The document value that a setting is written as. -/
def written : Setting β → β → Json
  | width | height | steps => .int
  | background | drawColor => colourJson
  | view | ambient | lightPosition | lightColor => vectorJson
  | ambientReflect | diffuseReflect | specularReflect => vectorJson
  | specularExponent => .real
  | directory | basename | defaultFormat | frameSuffix => .text
  | converter => fun c => .text c.name

/-- Written settings give every setting its value. -/
theorem given?_toJson
    (f : Setting β)
    (s : Settings) :
    f.given? s.toJson.members = some (f.written (f.get s)) := by
  cases f <;> rfl

/-- What a value was read as is read back from what it is written as. -/
theorem read_written
    (f : Setting β)
    {v : Json}
    {b : β}
    (h : f.read v = .ok b) :
    f.read (f.written b) = .ok b := by
  cases f with
  | width | height | steps => rfl
  | background | drawColor => exact colourField_colourJson _ (fitsBytes_of_colourField h)
  | view | ambient | lightPosition | lightColor => rfl
  | ambientReflect | diffuseReflect | specularReflect => rfl
  | specularExponent => rfl
  | directory | basename | frameSuffix => rfl
  | converter => exact converterField_name b
  | defaultFormat =>
      cases h
      exact congrArg Except.ok (Text.upper_upper _)

theorem read_written_default
    (f : Setting β) :
    f.read (f.written (f.get {})) = .ok (f.get {}) := by
  cases f with
  | background | drawColor => exact colourField_colourJson _ ⟨rfl, rfl, rfl⟩
  | converter => exact converterField_name .pillow
  | defaultFormat => exact congrArg Except.ok (by decide +kernel)
  | _ => rfl

end Setting

namespace Settings

/-- Settings that are read back from what they are written as. -/
def Written
    (s : Settings) :
    Prop :=
  ∀ ⦃β : Type⦄ (f : Setting β), f.read (f.written (f.get s)) = .ok (f.get s)

theorem written_default :
    Written {} :=
  fun _ f => f.read_written_default

/-- Laying an object over settings keeps them such as are read back. -/
theorem Written.overlay
    {s t : Settings}
    {members : Named Json}
    (hs : s.Written)
    (h : s.overlay members = .ok t) :
    t.Written := by
  intro β f
  have hget := (overlay_eq_ok_iff.mp h).2 f
  rw [Setting.overlaid] at hget
  cases hgiven : f.given? members with
  | some v =>
      rw [hgiven] at hget
      exact f.read_written hget
  | none =>
      rw [hgiven] at hget
      rw [← Except.ok.inj hget]
      exact hs f

/-- What settings are written as, laid over any others, gives them back. -/
theorem Written.overlay_toJson
    {s : Settings}
    (hs : s.Written)
    (base : Settings) :
    base.overlay s.toJson.members = .ok s := by
  rw [overlay_eq_ok_iff]
  refine ⟨fun name hname => ?_, fun f => ?_⟩
  · simp only [sectionNames, List.mem_cons, List.not_mem_nil, or_false] at hname
    rcases hname with rfl | rfl | rfl | rfl <;> exact ⟨_, rfl⟩
  · rw [Setting.overlaid, f.given?_toJson]
    exact hs f

/-- Settings that were loaded, from elsewhere or from such settings. -/
inductive Loaded : Settings → Prop
  | first
      {limits : Limits}
      {fs : FileSystem}
      {source : SettingsSource}
      {overrides : List (Text × Json)}
      {s : Settings}
      (elsewhere : ∀ given, source ≠ .settings given)
      (loaded : load limits fs source overrides = .ok s) :
      Loaded s
  | again
      {limits : Limits}
      {fs : FileSystem}
      {base : Settings}
      {overrides : List (Text × Json)}
      {s : Settings}
      (earlier : Loaded base)
      (loaded : load limits fs (.settings base) overrides = .ok s) :
      Loaded s

theorem Loaded.validate
    {s : Settings}
    (h : Loaded s) :
    s.validate = .ok () := by
  cases h with
  | first _ loaded => exact validate_of_load loaded
  | again _ loaded => exact validate_of_load loaded

/-- Loaded settings are read back from what they are written as. -/
theorem Loaded.written
    {s : Settings}
    (h : Loaded s) :
    s.Written := by
  induction h with
  | first elsewhere loaded =>
      obtain ⟨members, hsource⟩ := holds_of_load loaded elsewhere
      obtain ⟨base, _, hbase, _, hoverlay, _⟩ := load_eq_ok_iff.mp loaded
      exact (written_default.overlay (overlay_of_ofSource hsource hbase)).overlay hoverlay
  | again _ loaded ih =>
      obtain ⟨base, _, hbase, _, hoverlay, _⟩ := load_eq_ok_iff.mp loaded
      cases hbase
      exact ih.overlay hoverlay

end Settings

/--
Settings that were ever loaded are accepted again, as what they are written as and as they are, and
come out the same.
-/
theorem settings_written_back
    {s : Settings}
    (h : s.Loaded)
    (limits : Limits)
    (fs : FileSystem) :
    Settings.load limits fs (.document s.toJson) [] = .ok s
      ∧ Settings.load limits fs (.settings s) [] = .ok s := by
  have hload : Settings.load limits fs (.document s.toJson) [] = .ok s :=
    Settings.load_eq_ok_iff.mpr
      ⟨s, [], h.written.overlay_toJson {}, rfl, rfl, h.validate⟩
  exact ⟨hload, (Settings.load_settings hload []).trans hload⟩

/-- A format with a letter of two capitals, a converter by another name, and channels to be cut. -/
theorem settings_written_back_capitals :
    ∃ s, Settings.load {} (.empty []) .defaults
          [("default_format", .text "ß"), ("converter", .text "Image-Magick"),
            ("background", .list [.real 0.5, .real 255.9, .bool true])] = .ok s
      ∧ s.output.defaultFormat = "SS" ∧ s.output.converter = .magick
      ∧ s.canvas.background = ⟨0, 255, 1⟩
      ∧ Settings.load {} (.empty []) (.document s.toJson) [] = .ok s := by
  obtain ⟨s, hs⟩ : ∃ s, Settings.load {} (.empty []) .defaults
      [("default_format", .text "ß"), ("converter", .text "Image-Magick"),
        ("background", .list [.real 0.5, .real 255.9, .bool true])] = .ok s :=
    exists_ok_of_isOk (by decide +kernel)
  have hset {β : Type} (f : Setting β) := Setting.chosen_of_load .defaults hs f
  refine ⟨s, hs, ?_, ?_, ?_, (settings_written_back (.first (fun _ => by simp) hs) _ _).1⟩
  · exact (Except.ok.inj (hset .defaultFormat)).symm.trans (by decide +kernel)
  · exact (Except.ok.inj (hset .converter)).symm
  · exact (Except.ok.inj (hset .background)).symm

end Diorama
