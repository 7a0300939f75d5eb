import Diorama.Proofs.Config.Demands
import Diorama.Proofs.Fallible

/-!
# Single settings

Settings are a record of records, and an object is laid over them section by section.  Seen from
outside there are only single settings, each with a place in a document, a reading of the value that
stands there, and a written form.  Laying an object over settings is then the same for all of them:
what stands at the place of a setting is read, and where nothing stands there the setting is kept.

**Main statements.**
* `Settings.ext_setting`: settings are known by their single settings.
* `Settings.overlay_eq_ok_iff`: what laying an object over settings comes to, setting by setting.
-/

namespace Diorama

/-- A value that reads as three doubles. -/
theorem vectorField_eq_ok_iff
    {label : String}
    {v : Json}
    {c : Vec3 Float} :
    vectorField label v = .ok c ↔
      ∃ x y z, v = .list [x, y, z] ∧ floatField x = .ok c.x ∧ floatField y = .ok c.y
        ∧ floatField z = .ok c.z := by
  unfold vectorField
  split
  · simp
  · rename_i x y z
    simp only [bind_eq_ok_iff, pure, Except.pure, Except.ok.injEq, Json.list.injEq,
      List.cons.injEq, and_true]
    constructor
    · rintro ⟨_, hx, _, hy, _, hz, rfl⟩
      exact ⟨x, y, z, ⟨rfl, rfl, rfl⟩, hx, hy, hz⟩
    · rintro ⟨_, _, _, ⟨rfl, rfl, rfl⟩, hx, hy, hz⟩
      exact ⟨_, hx, _, hy, _, hz, rfl⟩
  · rename_i hlist
    simp only [reduceCtorEq, false_iff]
    rintro ⟨x, y, z, rfl, _⟩
    exact hlist x y z rfl

/-- A single setting, by the type of its values. -/
inductive Setting : Type → Type
  | width : Setting Int
  | height : Setting Int
  | background : Setting Colour
  | view : Setting (Vec3 Float)
  | ambient : Setting (Vec3 Float)
  | lightPosition : Setting (Vec3 Float)
  | lightColor : Setting (Vec3 Float)
  | specularExponent : Setting Float
  | steps : Setting Int
  | drawColor : Setting Colour
  | ambientReflect : Setting (Vec3 Float)
  | diffuseReflect : Setting (Vec3 Float)
  | specularReflect : Setting (Vec3 Float)
  | directory : Setting Text
  | basename : Setting Text
  | converter : Setting Converter
  | defaultFormat : Setting Text
  | frameSuffix : Setting Text

namespace Setting

variable {β : Type}

/-- The section of a setting, and its name there. -/
def place : Setting β → Text × Text
  | width => ("canvas", "width")
  | height => ("canvas", "height")
  | background => ("canvas", "background")
  | view => ("lighting", "view")
  | ambient => ("lighting", "ambient")
  | lightPosition => ("lighting", "light_position")
  | lightColor => ("lighting", "light_color")
  | specularExponent => ("lighting", "specular_exponent")
  | steps => ("shading", "steps")
  | drawColor => ("shading", "draw_color")
  | ambientReflect => ("shading", "ambient_reflect")
  | diffuseReflect => ("shading", "diffuse_reflect")
  | specularReflect => ("shading", "specular_reflect")
  | directory => ("output", "directory")
  | basename => ("output", "basename")
  | converter => ("output", "converter")
  | defaultFormat => ("output", "default_format")
  | frameSuffix => ("output", "frame_suffix")

/-- How the value of a setting is read. -/
def read : Setting β → Json → Except SettingsError β
  | width | height | steps => integerField
  | background => colourField "canvas.background"
  | drawColor => colourField "shading.draw_color"
  | view => vectorField "lighting.view"
  | ambient => vectorField "lighting.ambient"
  | lightPosition => vectorField "lighting.light_position"
  | lightColor => vectorField "lighting.light_color"
  | ambientReflect => vectorField "shading.ambient_reflect"
  | diffuseReflect => vectorField "shading.diffuse_reflect"
  | specularReflect => vectorField "shading.specular_reflect"
  | specularExponent => floatField
  | directory | basename | frameSuffix => textField
  | defaultFormat => fun v => .ok (Text.upper v.display)
  | converter => converterField

/-- The value that settings have for a setting. -/
def get : Setting β → Settings → β
  | width, s => s.canvas.width
  | height, s => s.canvas.height
  | background, s => s.canvas.background
  | view, s => s.lighting.view
  | ambient, s => s.lighting.ambient
  | lightPosition, s => s.lighting.lightPosition
  | lightColor, s => s.lighting.lightColor
  | specularExponent, s => s.lighting.specularExponent
  | steps, s => s.shading.steps
  | drawColor, s => s.shading.drawColor
  | ambientReflect, s => s.shading.ambientReflect
  | diffuseReflect, s => s.shading.diffuseReflect
  | specularReflect, s => s.shading.specularReflect
  | directory, s => s.output.directory
  | basename, s => s.output.basename
  | converter, s => s.output.converter
  | defaultFormat, s => s.output.defaultFormat
  | frameSuffix, s => s.output.frameSuffix

theorem section_mem
    (f : Setting β) :
    f.place.1 ∈ Settings.sectionNames := by
  cases f <;> decide

end Setting

/-- Settings are known by their single settings. -/
theorem Settings.ext_setting
    {s t : Settings}
    (h : ∀ {β : Type} (f : Setting β), f.get s = f.get t) :
    s = t := by
  obtain ⟨canvas, lighting, shading, output⟩ := s
  obtain ⟨canvas', lighting', shading', output'⟩ := t
  simp only [mk.injEq]
  refine ⟨?_, ?_, ?_, ?_⟩
  · obtain ⟨_, _, _⟩ := canvas
    obtain ⟨_, _, _⟩ := canvas'
    rw [CanvasSettings.mk.injEq]
    exact ⟨h .width, h .height, h .background⟩
  · obtain ⟨_, _, _, _, _⟩ := lighting
    obtain ⟨_, _, _, _, _⟩ := lighting'
    rw [LightingSettings.mk.injEq]
    exact ⟨h .view, h .ambient, h .lightPosition, h .lightColor, h .specularExponent⟩
  · obtain ⟨_, _, _, _, _⟩ := shading
    obtain ⟨_, _, _, _, _⟩ := shading'
    rw [ShadingSettings.mk.injEq]
    exact ⟨h .steps, h .drawColor, h .ambientReflect, h .diffuseReflect, h .specularReflect⟩
  · obtain ⟨_, _, _, _, _⟩ := output
    obtain ⟨_, _, _, _, _⟩ := output'
    rw [OutputSettings.mk.injEq]
    exact ⟨h .directory, h .basename, h .converter, h .defaultFormat, h .frameSuffix⟩

/-! ## Sections -/

/-- The members of a section; a section that is not there has none. -/
def Settings.entries?
    (members : Named Json)
    (name : Text) :
    Option (Named Json) :=
  match members.find? name with
  | none => some []
  | some (.object entries) => some entries
  | some _ => none

/-- The value that an object gives to a setting. -/
def Setting.given?
    {β : Type}
    (f : Setting β)
    (members : Named Json) :
    Option Json :=
  (Settings.entries? members f.place.1).bind fun entries => entries.find? f.place.2

/-- The value of a setting once an object is laid over it. -/
def Setting.overlaid
    {β : Type}
    (f : Setting β)
    (members : Named Json)
    (current : β) :
    Except SettingsError β :=
  match f.given? members with
  | some v => f.read v
  | none => .ok current

theorem Setting.overlaid_eq
    {β : Type}
    (f : Setting β)
    {members entries : Named Json}
    (h : Settings.entries? members f.place.1 = some entries)
    (current : β) :
    f.overlaid members current = overlayField entries f.place.2 f.read current := by
  have hgiven : f.given? members = entries.find? f.place.2 := by simp [given?, h]
  cases hfind : entries.find? f.place.2 <;> simp [overlaid, overlayField, hgiven, hfind]

theorem CanvasSettings.overlay_eq_ok_iff
    {s t : CanvasSettings}
    {entries : Named Json} :
    s.overlay entries = .ok t ↔
      overlayField entries "width" integerField s.width = .ok t.width
        ∧ overlayField entries "height" integerField s.height = .ok t.height
        ∧ overlayField entries "background" (colourField "canvas.background") s.background
          = .ok t.background := by
  simp only [overlay, bind_eq_ok_iff, pure, Except.pure, Except.ok.injEq]
  constructor
  · rintro ⟨_, hwidth, _, hheight, _, hbackground, rfl⟩
    exact ⟨hwidth, hheight, hbackground⟩
  · rintro ⟨hwidth, hheight, hbackground⟩
    exact ⟨_, hwidth, _, hheight, _, hbackground, rfl⟩

theorem LightingSettings.overlay_eq_ok_iff
    {s t : LightingSettings}
    {entries : Named Json} :
    s.overlay entries = .ok t ↔
      overlayField entries "view" (vectorField "lighting.view") s.view = .ok t.view
        ∧ overlayField entries "ambient" (vectorField "lighting.ambient") s.ambient
          = .ok t.ambient
        ∧ overlayField entries "light_position" (vectorField "lighting.light_position")
          s.lightPosition = .ok t.lightPosition
        ∧ overlayField entries "light_color" (vectorField "lighting.light_color") s.lightColor
          = .ok t.lightColor
        ∧ overlayField entries "specular_exponent" floatField s.specularExponent
          = .ok t.specularExponent := by
  simp only [overlay, bind_eq_ok_iff, pure, Except.pure, Except.ok.injEq]
  constructor
  · rintro ⟨_, hview, _, hambient, _, hposition, _, hcolor, _, hexponent, rfl⟩
    exact ⟨hview, hambient, hposition, hcolor, hexponent⟩
  · rintro ⟨hview, hambient, hposition, hcolor, hexponent⟩
    exact ⟨_, hview, _, hambient, _, hposition, _, hcolor, _, hexponent, rfl⟩

theorem ShadingSettings.overlay_eq_ok_iff
    {s t : ShadingSettings}
    {entries : Named Json} :
    s.overlay entries = .ok t ↔
      overlayField entries "steps" integerField s.steps = .ok t.steps
        ∧ overlayField entries "draw_color" (colourField "shading.draw_color") s.drawColor
          = .ok t.drawColor
        ∧ overlayField entries "ambient_reflect" (vectorField "shading.ambient_reflect")
          s.ambientReflect = .ok t.ambientReflect
        ∧ overlayField entries "diffuse_reflect" (vectorField "shading.diffuse_reflect")
          s.diffuseReflect = .ok t.diffuseReflect
        ∧ overlayField entries "specular_reflect" (vectorField "shading.specular_reflect")
          s.specularReflect = .ok t.specularReflect := by
  simp only [overlay, bind_eq_ok_iff, pure, Except.pure, Except.ok.injEq]
  constructor
  · rintro ⟨_, hsteps, _, hcolor, _, hambient, _, hdiffuse, _, hspecular, rfl⟩
    exact ⟨hsteps, hcolor, hambient, hdiffuse, hspecular⟩
  · rintro ⟨hsteps, hcolor, hambient, hdiffuse, hspecular⟩
    exact ⟨_, hsteps, _, hcolor, _, hambient, _, hdiffuse, _, hspecular, rfl⟩

theorem OutputSettings.overlay_eq_ok_iff
    {s t : OutputSettings}
    {entries : Named Json} :
    s.overlay entries = .ok t ↔
      overlayField entries "directory" textField s.directory = .ok t.directory
        ∧ overlayField entries "basename" textField s.basename = .ok t.basename
        ∧ overlayField entries "converter" converterField s.converter = .ok t.converter
        ∧ overlayField entries "default_format" (fun v => .ok (Text.upper v.display))
          s.defaultFormat = .ok t.defaultFormat
        ∧ overlayField entries "frame_suffix" textField s.frameSuffix = .ok t.frameSuffix := by
  simp only [overlay, bind_eq_ok_iff, pure, Except.pure, Except.ok.injEq]
  constructor
  · rintro ⟨_, hdirectory, _, hbasename, _, hconverter, _, hformat, _, hsuffix, rfl⟩
    exact ⟨hdirectory, hbasename, hconverter, hformat, hsuffix⟩
  · rintro ⟨hdirectory, hbasename, hconverter, hformat, hsuffix⟩
    exact ⟨_, hdirectory, _, hbasename, _, hconverter, _, hformat, _, hsuffix, rfl⟩

/-- Laying a section over its part of the settings, where a missing section is an empty one. -/
theorem overlaySection_eq_ok_iff
    {β : Type}
    {overlay : β → Named Json → Except SettingsError β}
    (hempty : ∀ current, overlay current [] = .ok current)
    {members : Named Json}
    {name : Text}
    {current result : β} :
    Settings.overlaySection members name overlay current = .ok result ↔
      ∃ entries, Settings.entries? members name = some entries
        ∧ overlay current entries = .ok result := by
  unfold Settings.overlaySection Settings.entries?
  cases members.find? name with
  | none => simp [hempty]
  | some v =>
      cases v with
      | object entries => simp [mapError_eq_ok_iff]
      | null | bool _ | int _ | real _ | text _ | list _ => simp

/-- Laying an object over settings, setting by setting. -/
theorem Settings.overlay_eq_ok_iff
    {s t : Settings}
    {members : Named Json} :
    s.overlay members = .ok t ↔
      (∀ name ∈ sectionNames, ∃ entries, entries? members name = some entries)
        ∧ ∀ {β : Type} (f : Setting β), f.overlaid members (f.get s) = .ok (f.get t) := by
  have hsections : s.overlay members = .ok t ↔
      (∃ entries, entries? members "canvas" = some entries
        ∧ s.canvas.overlay entries = .ok t.canvas)
      ∧ (∃ entries, entries? members "lighting" = some entries
        ∧ s.lighting.overlay entries = .ok t.lighting)
      ∧ (∃ entries, entries? members "shading" = some entries
        ∧ s.shading.overlay entries = .ok t.shading)
      ∧ ∃ entries, entries? members "output" = some entries
        ∧ s.output.overlay entries = .ok t.output := by
    simp only [overlay, bind_eq_ok_iff, pure, Except.pure, Except.ok.injEq]
    rw [← overlaySection_eq_ok_iff fun _ => rfl, ← overlaySection_eq_ok_iff fun _ => rfl,
      ← overlaySection_eq_ok_iff fun _ => rfl, ← overlaySection_eq_ok_iff fun _ => rfl]
    constructor
    · rintro ⟨_, hcanvas, _, hlighting, _, hshading, _, houtput, rfl⟩
      exact ⟨hcanvas, hlighting, hshading, houtput⟩
    · rintro ⟨hcanvas, hlighting, hshading, houtput⟩
      exact ⟨_, hcanvas, _, hlighting, _, hshading, _, houtput, rfl⟩
  rw [hsections]
  constructor
  · rintro ⟨⟨canvas, hcanvas, hc⟩, ⟨lighting, hlighting, hl⟩, ⟨shading, hshading, hs⟩,
      output, houtput, ho⟩
    rw [CanvasSettings.overlay_eq_ok_iff] at hc
    rw [LightingSettings.overlay_eq_ok_iff] at hl
    rw [ShadingSettings.overlay_eq_ok_iff] at hs
    rw [OutputSettings.overlay_eq_ok_iff] at ho
    refine ⟨?_, fun f => ?_⟩
    · simp only [sectionNames, List.forall_mem_cons, List.not_mem_nil, false_implies,
        implies_true, and_true]
      exact ⟨⟨_, hcanvas⟩, ⟨_, hlighting⟩, ⟨_, hshading⟩, ⟨_, houtput⟩⟩
    · cases f with
      | width => exact (Setting.overlaid_eq .width hcanvas _).trans hc.1
      | height => exact (Setting.overlaid_eq .height hcanvas _).trans hc.2.1
      | background => exact (Setting.overlaid_eq .background hcanvas _).trans hc.2.2
      | view => exact (Setting.overlaid_eq .view hlighting _).trans hl.1
      | ambient => exact (Setting.overlaid_eq .ambient hlighting _).trans hl.2.1
      | lightPosition => exact (Setting.overlaid_eq .lightPosition hlighting _).trans hl.2.2.1
      | lightColor => exact (Setting.overlaid_eq .lightColor hlighting _).trans hl.2.2.2.1
      | specularExponent =>
          exact (Setting.overlaid_eq .specularExponent hlighting _).trans hl.2.2.2.2
      | steps => exact (Setting.overlaid_eq .steps hshading _).trans hs.1
      | drawColor => exact (Setting.overlaid_eq .drawColor hshading _).trans hs.2.1
      | ambientReflect => exact (Setting.overlaid_eq .ambientReflect hshading _).trans hs.2.2.1
      | diffuseReflect => exact (Setting.overlaid_eq .diffuseReflect hshading _).trans hs.2.2.2.1
      | specularReflect =>
          exact (Setting.overlaid_eq .specularReflect hshading _).trans hs.2.2.2.2
      | directory => exact (Setting.overlaid_eq .directory houtput _).trans ho.1
      | basename => exact (Setting.overlaid_eq .basename houtput _).trans ho.2.1
      | converter => exact (Setting.overlaid_eq .converter houtput _).trans ho.2.2.1
      | defaultFormat => exact (Setting.overlaid_eq .defaultFormat houtput _).trans ho.2.2.2.1
      | frameSuffix => exact (Setting.overlaid_eq .frameSuffix houtput _).trans ho.2.2.2.2
  · rintro ⟨hnames, hsettings⟩
    simp only [sectionNames, List.forall_mem_cons, List.not_mem_nil, false_implies,
      implies_true, and_true] at hnames
    obtain ⟨⟨canvas, hcanvas⟩, ⟨lighting, hlighting⟩, ⟨shading, hshading⟩, output, houtput⟩ :=
      hnames
    have hread {β : Type} (f : Setting β) {entries : Named Json}
        (hsection : entries? members f.place.1 = some entries) :
        overlayField entries f.place.2 f.read (f.get s) = .ok (f.get t) :=
      (f.overlaid_eq hsection _).symm.trans (hsettings f)
    refine ⟨⟨canvas, hcanvas, ?_⟩, ⟨lighting, hlighting, ?_⟩, ⟨shading, hshading, ?_⟩,
      output, houtput, ?_⟩
    · exact CanvasSettings.overlay_eq_ok_iff.mpr
        ⟨hread .width hcanvas, hread .height hcanvas, hread .background hcanvas⟩
    · exact LightingSettings.overlay_eq_ok_iff.mpr
        ⟨hread .view hlighting, hread .ambient hlighting, hread .lightPosition hlighting,
          hread .lightColor hlighting, hread .specularExponent hlighting⟩
    · exact ShadingSettings.overlay_eq_ok_iff.mpr
        ⟨hread .steps hshading, hread .drawColor hshading, hread .ambientReflect hshading,
          hread .diffuseReflect hshading, hread .specularReflect hshading⟩
    · exact OutputSettings.overlay_eq_ok_iff.mpr
        ⟨hread .directory houtput, hread .basename houtput, hread .converter houtput,
          hread .defaultFormat houtput, hread .frameSuffix houtput⟩

end Diorama
