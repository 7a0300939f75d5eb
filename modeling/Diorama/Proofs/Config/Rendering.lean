import Diorama.Proofs.Config.RoundTrip
import Diorama.Proofs.Config.Validation
import Diorama.Proofs.Geometry.Sampling
import Diorama.Render.Renderer
import Diorama.Render.Run

/-!
# Rendering with loaded settings

What a renderer is made of is checked by each part on its own: the sizes and the background by the
canvas, the converter by the writer, the steps by the surfaces.  Settings that were loaded pass all
of these checks, with one exception: nothing bounds the steps from above, and no array can hold the
samples of a surface with too many of them.

**Main statements.**
* `Canvas.new?_eq_ok`: a canvas of a size in range and a background of bytes.
* `Settings.Loaded.renderer`, `Settings.Loaded.newFrame?`: loaded settings make a renderer, and it
  starts its frames as a run does.
* `settings_renderable`: all that can be relied on once settings were loaded.
-/

namespace Diorama

/-! ## Colours -/

/-- The colour that a pixel stores. -/
def Pixel.colour
    (p : Pixel) :
    Colour :=
  ⟨p.red.toNat, p.green.toNat, p.blue.toNat⟩

namespace Colour

theorem toNat_byte
    {channel : Int}
    (h : fitsByte channel = true) :
    ((byte channel).toNat : Int) = channel := by
  obtain ⟨n, hn, rfl⟩ := exists_of_fitsByte h
  simp only [byte, Int.toNat_natCast, UInt8.toNat_ofNat']
  omega

/-- A colour of bytes is stored as it is. -/
theorem FitsBytes.toPixel?
    {c : Colour}
    (h : c.FitsBytes) :
    ∃ pixel, c.toPixel? = some pixel ∧ pixel.colour = c := by
  refine ⟨_, if_pos (by simp [h.red, h.green, h.blue]), ?_⟩
  simp only [Pixel.colour, toNat_byte h.red, toNat_byte h.green, toNat_byte h.blue]

/-- A colour of bytes is plotted wherever it is. -/
theorem FitsBytes.plot
    {c : Colour}
    (h : c.FitsBytes)
    (x y : Int)
    (z : Float)
    (canvas : Canvas Float) :
    ∃ after, Draw.plot x y z c canvas = .ok () after := by
  obtain ⟨pixel, hpixel, _⟩ := h.toPixel?
  exact ⟨canvas.put x y z pixel, by rw [Draw.plot, hpixel]⟩

end Colour

/-! ## Canvases -/

/-- A canvas of a size that shows one colour everywhere. -/
structure Canvas.ShowsOnly
    (canvas : Canvas Float)
    (width height : Int)
    (colour : Colour) : Prop where
  width_eq : (canvas.width : Int) = width
  height_eq : (canvas.height : Int) = height
  pixels_eq : ∀ pixel ∈ canvas.pixels, pixel.colour = colour

theorem Canvas.showsOnly_blank
    {width height : Int}
    (hwidth : 0 < width)
    (hheight : 0 < height)
    (pixel : Pixel) :
    (Canvas.blank width.toNat height.toNat pixel : Canvas Float).ShowsOnly width height
      pixel.colour where
  width_eq := Int.toNat_of_nonneg (Int.le_of_lt hwidth)
  height_eq := Int.toNat_of_nonneg (Int.le_of_lt hheight)
  pixels_eq := by
    intro shown hshown
    simp only [Canvas.pixels, Canvas.blank, Array.toList_replicate, List.map_replicate] at hshown
    rw [List.eq_of_mem_replicate hshown]

/-- There is a canvas of every size in range and every background of bytes. -/
theorem Canvas.new?_eq_ok
    {width height : Int}
    {background : Colour}
    {pixel : Pixel}
    (hpositive : 0 < width ∧ 0 < height)
    (hbounded : width ≤ maxDimension ∧ height ≤ maxDimension)
    (hpixel : background.toPixel? = some pixel) :
    (Canvas.new? width height background : Except CanvasError (Canvas Float))
      = .ok (.blank width.toNat height.toNat pixel) := by
  rw [Canvas.new?, if_neg (by omega), if_neg (by omega), hpixel]

/-! ## Renderers -/

/-- The writer of settings is that of the name of their converter. -/
theorem Settings.ofName?_imageWriter
    (s : Settings) :
    ImageWriter.ofName? s.output.converter.name s.output.defaultFormat = some s.imageWriter := by
  have hname (c : Converter) : Converter.ofName? c.name = some c := by cases c <;> decide +kernel
  rw [ImageWriter.ofName?, hname]
  rfl

/-- The renderer of settings that were checked. -/
def Settings.renderer
    (s : Settings) :
    Renderer :=
  ⟨s, s.imageWriter, s.lighting.toLighting, s.shading.defaultMaterial⟩

/-- A renderer gives a frame from zero on the knobs that a run gives it. -/
theorem Renderer.knobsOn_of_nonneg
    (knobs : Option KnobTable)
    {index : Int}
    (h : 0 ≤ index) :
    knobsOn knobs index = .ok ((knobs.map (·.valuesOn index.toNat)).getD []) := by
  cases knobs with
  | none => rfl
  | some table =>
      simp only [knobsOn, Option.map_some, Option.getD_some, KnobTable.valuesOn]
      split
      · rename_i hlt
        have hposition : table.position? index = some index.toNat := by
          simp only [KnobTable.position?, if_neg (Int.not_lt.mpr h)]
          rw [if_pos ⟨h, hlt⟩]
        obtain ⟨values, hvalues⟩ : ∃ values, table.frames[index.toNat]? = some values :=
          ⟨_, Array.getElem?_eq_getElem (by unfold KnobTable.size at hlt; omega)⟩
        simp only [KnobTable.frame?, hposition, Option.bind_eq_bind, Option.bind_some, hvalues]
        rfl
      · rename_i hge
        have hnone : table.frames[index.toNat]? = none :=
          Array.getElem?_eq_none (by unfold KnobTable.size at hge; omega)
        rw [hnone]
        rfl

namespace Settings

variable {s : Settings}

theorem Written.fitsBytes_background
    (h : s.Written) :
    s.canvas.background.FitsBytes :=
  fitsBytes_of_colourField (h .background)

theorem Written.fitsBytes_drawColor
    (h : s.Written) :
    s.shading.drawColor.FitsBytes :=
  fitsBytes_of_colourField (h .drawColor)

/-- Loaded settings make a renderer. -/
theorem Loaded.renderer
    (h : s.Loaded)
    (limits : Limits)
    (fs : FileSystem) :
    Renderer.new? limits fs (.settings s) = .ok s.renderer := by
  have hload : load limits fs (.settings s) [] = .ok s :=
    load_eq_ok_iff.mpr ⟨s, [], rfl, rfl, rfl, h.validate⟩
  simp only [Renderer.new?, hload, ofName?_imageWriter]
  rfl

/-- A renderer of loaded settings starts every frame as a run does. -/
theorem Loaded.newFrame?
    (h : s.Loaded)
    {index : Int}
    (hindex : 0 ≤ index)
    (knobs : Option KnobTable) :
    s.renderer.newFrame? index knobs
      = .ok (Frame.start s index ((knobs.map (·.valuesOn index.toNat)).getD [])) := by
  obtain ⟨hpositive, hbounded, _⟩ := validate_eq_ok_iff.mp h.validate
  obtain ⟨pixel, hpixel, _⟩ := h.written.fitsBytes_background.toPixel?
  have hcanvas : Canvas.new? s.canvas.width s.canvas.height s.canvas.background
      = .ok s.blankCanvas := by
    rw [Canvas.new?_eq_ok hpositive hbounded hpixel, blankCanvas, hpixel]
    rfl
  simp only [Renderer.newFrame?, Settings.renderer, hcanvas,
    Renderer.knobsOn_of_nonneg knobs hindex]
  rfl

/-- The canvas of loaded settings has their size and shows their background. -/
theorem Loaded.showsOnly_blankCanvas
    (h : s.Loaded) :
    s.blankCanvas.ShowsOnly s.canvas.width s.canvas.height s.canvas.background := by
  obtain ⟨hpositive, _⟩ := validate_eq_ok_iff.mp h.validate
  obtain ⟨pixel, hpixel, hcolour⟩ := h.written.fitsBytes_background.toPixel?
  rw [blankCanvas, hpixel, ← hcolour]
  exact Canvas.showsOnly_blank hpositive.1 hpositive.2 pixel

/-- What can be relied on once settings were loaded. -/
structure Renderable
    (s : Settings)
    (limits : Limits)
    (fs : FileSystem) : Prop where
  writer :
    ImageWriter.ofName? s.output.converter.name s.output.defaultFormat = some s.imageWriter
  renderer : Renderer.new? limits fs (.settings s) = .ok s.renderer
  frame {index : Int} (hindex : 0 ≤ index) (knobs : Option KnobTable) :
    ∃ frame, s.renderer.newFrame? index knobs = .ok frame
      ∧ frame.canvas.ShowsOnly s.canvas.width s.canvas.height s.canvas.background
  sphere (center : Vec3 Float) (radius : Float) :
    (∃ triangles, Sphere.triangles? center radius s.shading.steps = .ok triangles)
      ↔ cornerBytes * (2 * s.shading.steps.toNat * (s.shading.steps.toNat - 1)) ≤ maxArrayBytes
  torus (center : Vec3 Float) (tube ring : Float) :
    (∃ triangles, Torus.triangles? center tube ring s.shading.steps = .ok triangles)
      ↔ cornerBytes * (2 * s.shading.steps.toNat * s.shading.steps.toNat) ≤ maxArrayBytes
  colours {colour : Colour} (hcolour : colour ∈ [s.shading.drawColor, s.canvas.background]) :
    colour.FitsBytes
      ∧ ∀ x y z (canvas : Canvas Float), ∃ after, Draw.plot x y z colour canvas = .ok () after

end Settings

/--
Settings that were ever loaded are accepted by whatever is made of them.  Only spheres and tori may
have more corners than an array can hold, which depends on nothing but the steps.
-/
theorem settings_renderable
    {s : Settings}
    (h : s.Loaded)
    (limits : Limits)
    (fs : FileSystem) :
    s.Renderable limits fs where
  writer := s.ofName?_imageWriter
  renderer := h.renderer limits fs
  frame hindex knobs := ⟨_, h.newFrame? hindex knobs, h.showsOnly_blankCanvas⟩
  sphere center radius := by
    have hsteps : 3 ≤ s.shading.steps := (Settings.validate_eq_ok_iff.mp h.validate).2.2.1
    simp only [Sphere.triangles?_eq_ok_iff, show 2 ≤ s.shading.steps by omega, true_and,
      exists_and_left, exists_eq', and_true]
  torus center tube ring := by
    have hsteps : 3 ≤ s.shading.steps := (Settings.validate_eq_ok_iff.mp h.validate).2.2.1
    simp only [Torus.triangles?_eq_ok_iff, hsteps, true_and, exists_and_left, exists_eq', and_true]
  colours hcolour := by
    simp only [List.mem_cons, List.not_mem_nil, or_false] at hcolour
    rcases hcolour with rfl | rfl
    · exact ⟨h.written.fitsBytes_drawColor, h.written.fitsBytes_drawColor.plot⟩
    · exact ⟨h.written.fitsBytes_background, h.written.fitsBytes_background.plot⟩

/-- Few pixels and many steps: there is a frame of a number beyond every table, and every torus. -/
theorem settings_renderable_small :
    ∃ s, Settings.load {} (.empty []) (.document (.object [("canvas", .object [("width", .int 2)])]))
          [("converter", .text "off"), ("steps", .int 600)] = .ok s
      ∧ (∃ frame, s.renderer.newFrame? 1000 none = .ok frame ∧ frame.canvas.width = 2)
      ∧ ∀ center tube ring, ∃ triangles,
        Torus.triangles? center tube ring s.shading.steps = .ok triangles := by
  obtain ⟨s, hs⟩ : ∃ s, Settings.load {} (.empty [])
      (.document (.object [("canvas", .object [("width", .int 2)])]))
      [("converter", .text "off"), ("steps", .int 600)] = .ok s :=
    exists_ok_of_isOk (by decide +kernel)
  have hwidth : 2 = s.canvas.width :=
    Except.ok.inj (Setting.chosen_of_load .document hs .width)
  have hsteps : 600 = s.shading.steps :=
    Except.ok.inj (Setting.chosen_of_load .document hs .steps)
  have hrenderable := settings_renderable (.first (fun _ => by simp) hs) {} (.empty [])
  obtain ⟨frame, hframe, hshows⟩ := hrenderable.frame (by decide : (0 : Int) ≤ 1000) none
  refine ⟨s, hs, ⟨frame, hframe, ?_⟩, fun center tube ring => ?_⟩
  · have hsize := hshows.width_eq
    omega
  · rw [hrenderable.torus, ← hsteps]
    decide

/-- A thousand million steps are accepted, but there is no sphere and no torus of so many. -/
theorem settings_unrenderable_steps :
    ∃ s, Settings.load {} (.empty [])
          (.document (.object [("shading", .object [("steps", .int 1000000000)])])) [] = .ok s
      ∧ (∀ center radius,
        Sphere.triangles? center radius s.shading.steps = .error .arrayTooLarge)
      ∧ ∀ center tube ring,
        Torus.triangles? center tube ring s.shading.steps = .error .arrayTooLarge := by
  obtain ⟨s, hs⟩ : ∃ s, Settings.load {} (.empty [])
      (.document (.object [("shading", .object [("steps", .int 1000000000)])])) [] = .ok s :=
    exists_ok_of_isOk (by decide +kernel)
  have hsteps : 1000000000 = s.shading.steps :=
    Except.ok.inj (Setting.chosen_of_load .document hs .steps)
  have hsphere : checkSamples 2 1000000000
      (Int.toNat 1000000000 * (Int.toNat 1000000000 + 1)) = .error .arrayTooLarge := by decide
  have htorus : checkSamples 3 1000000000
      (Int.toNat 1000000000 * Int.toNat 1000000000) = .error .arrayTooLarge := by decide
  refine ⟨s, hs, fun center radius => ?_, fun center tube ring => ?_⟩
  · rw [← hsteps, Sphere.triangles?, Sphere.samples?, hsphere]
    rfl
  · rw [← hsteps, Torus.triangles?, Torus.samples?, htorus]
    rfl

end Diorama
