import Diorama.Proofs.Config.Overrides
import Diorama.Proofs.Number.FloatOrder

/-!
# Checked settings

Settings are checked once everything is laid over them, and the checks are comparisons that refuse
what is wrong.  What is not a number compares to nothing, so it passes them: an exponent that is
accepted is positive or not a number, and a view that is accepted has a part other than zero, which
may be not a number either.

**Main statements.**
* `Settings.validate_eq_ok_iff`: what the checks come to.
* `lighting_checked`: a view and an exponent that are accepted are sound, unless a value for one of
  them reads as not-a-number.
-/

namespace Diorama

/-- What the checks of settings come to. -/
theorem Settings.validate_eq_ok_iff
    {s : Settings} :
    s.validate = .ok () ↔
      (0 < s.canvas.width ∧ 0 < s.canvas.height)
        ∧ (s.canvas.width ≤ maxDimension ∧ s.canvas.height ≤ maxDimension)
        ∧ 3 ≤ s.shading.steps
        ∧ ¬s.lighting.specularExponent ≤ 0
        ∧ (∃ x ∈ s.lighting.view.toList, (x == 0) = false)
        ∧ s.output.basename ≠ [] := by
  have hview : s.lighting.view.toList.any isGiven = true ↔
      ∃ x ∈ s.lighting.view.toList, (x == 0) = false := by
    simp only [List.any_eq_true, isGiven, Bool.not_eq_true']
  rw [← hview, validate]
  grind

/-- A value that reads as not-a-number. -/
def Json.readsNaN
    (v : Json) :
    Bool :=
  match v.toFloat with
  | .ok x => x.isNaN
  | .error _ => false

theorem Json.readsNaN_of_floatField
    {v : Json}
    {x : Float}
    (h : floatField v = .ok x) :
    v.readsNaN = x.isNaN := by
  rw [readsNaN, mapError_eq_ok_iff.mp h]

namespace LightingSettings

/-- The exponent is positive, and the view is a vector of numbers other than zero. -/
structure Sound
    (s : LightingSettings) : Prop where
  exponent_pos : 0 < s.specularExponent
  view_numbers : ∀ x ∈ s.view.toList, x.isNaN = false
  view_nonzero : ∃ x ∈ s.view.toList, (x == 0) = false

/-- Whether a value asked for as the exponent, or in the view, reads as not-a-number. -/
def asksNaN
    (members : Named Json)
    (overrides : List (Text × Json)) :
    Bool :=
  (Setting.specularExponent.asked? members overrides).any Json.readsNaN
    || (Setting.view.asked? members overrides).any fun v => v.items.any Json.readsNaN

end LightingSettings

section

variable {limits : Limits} {fs : FileSystem} {source : SettingsSource} {members : Named Json}
  {overrides : List (Text × Json)} {s : Settings}

/-- The exponent is not-a-number where the value asked for reads as that. -/
theorem isNaN_specularExponent
    (hsource : source.Holds limits fs members)
    (h : Settings.load limits fs source overrides = .ok s) :
    s.lighting.specularExponent.isNaN
      = (Setting.specularExponent.asked? members overrides).any Json.readsNaN := by
  have hchosen := Setting.chosen_of_load hsource h .specularExponent
  rw [Setting.chosen] at hchosen
  cases hasked : Setting.specularExponent.asked? members overrides with
  | none =>
      rw [hasked] at hchosen
      rw [← show (8 : Float) = s.lighting.specularExponent from Except.ok.inj hchosen]
      decide +kernel
  | some v =>
      rw [hasked] at hchosen
      exact (Json.readsNaN_of_floatField hchosen).symm

/-- A part of the view is not-a-number where a part of the value asked for reads as that. -/
theorem isNaN_view
    (hsource : source.Holds limits fs members)
    (h : Settings.load limits fs source overrides = .ok s) :
    s.lighting.view.toList.any Float.isNaN
      = (Setting.view.asked? members overrides).any fun v => v.items.any Json.readsNaN := by
  have hchosen := Setting.chosen_of_load hsource h .view
  rw [Setting.chosen] at hchosen
  cases hasked : Setting.view.asked? members overrides with
  | none =>
      rw [hasked] at hchosen
      rw [← show (⟨0, 0, 1⟩ : Vec3 Float) = s.lighting.view from Except.ok.inj hchosen]
      decide +kernel
  | some v =>
      rw [hasked] at hchosen
      obtain ⟨x, y, z, rfl, hx, hy, hz⟩ := vectorField_eq_ok_iff.mp hchosen
      change _ = [x, y, z].any Json.readsNaN
      simp only [List.any_cons, List.any_nil, Json.readsNaN_of_floatField hx,
        Json.readsNaN_of_floatField hy, Json.readsNaN_of_floatField hz]
      rfl

/--
Light that is loaded is sound unless a value asked for as the exponent, or in the view, reads as
not-a-number; then it is not.  Even so the exponent is not at most zero, and the view has a part
other than zero.
-/
theorem lighting_checked
    (hsource : source.Holds limits fs members)
    (h : Settings.load limits fs source overrides = .ok s) :
    (s.lighting.Sound ↔ LightingSettings.asksNaN members overrides = false)
      ∧ (s.lighting.specularExponent.isNaN = true ∨ 0 < s.lighting.specularExponent)
      ∧ ∃ x ∈ s.lighting.view.toList, (x == 0) = false := by
  obtain ⟨_, _, _, hexponent, hview, _⟩ :=
    Settings.validate_eq_ok_iff.mp (Settings.validate_of_load h)
  have hpos (hnumber : s.lighting.specularExponent.isNaN = false) :
      0 < s.lighting.specularExponent :=
    FloatOrder.lt_of_not_le hnumber (by decide +kernel) hexponent
  have hasks : LightingSettings.asksNaN members overrides = false ↔
      s.lighting.specularExponent.isNaN = false
        ∧ ∀ x ∈ s.lighting.view.toList, x.isNaN = false := by
    rw [LightingSettings.asksNaN, ← isNaN_specularExponent hsource h, ← isNaN_view hsource h,
      Bool.or_eq_false_iff, List.any_eq_false]
    simp only [Bool.not_eq_true]
  refine ⟨?_, ?_, hview⟩
  · rw [hasks]
    constructor
    · intro hsound
      exact ⟨FloatOrder.isNaN_of_lt hsound.exponent_pos, hsound.view_numbers⟩
    · rintro ⟨hnumber, hnumbers⟩
      exact ⟨hpos hnumber, hnumbers, hview⟩
  · cases hnumber : s.lighting.specularExponent.isNaN with
    | true => exact .inl rfl
    | false => exact .inr (hpos hnumber)

end

/-- An override of the view counts, whatever the document asks for. -/
theorem lighting_checked_override :
    let members : Named Json :=
      [("lighting", .object [("view", .list [.text "nan", .int 0, .int 0]),
        ("specular_exponent", .text "2.5")])]
    ∃ s, Settings.load {} (.empty []) (.document (.object members))
          [("view", .list [.bool true, .int 0, .int 0])] = .ok s
      ∧ s.lighting.Sound := by
  intro members
  obtain ⟨s, hs⟩ : ∃ s, Settings.load {} (.empty []) (.document (.object members))
      [("view", .list [.bool true, .int 0, .int 0])] = .ok s :=
    exists_ok_of_isOk (by decide +kernel)
  exact ⟨s, hs, (lighting_checked .document hs).1.mpr (by decide +kernel)⟩

/-- Not-a-number is accepted as the exponent, and in the view. -/
theorem lighting_unchecked_nan :
    let members : Named Json :=
      [("lighting", .object [("view", .list [.text "nan", .int 0, .int 0]),
        ("specular_exponent", .text "nan")])]
    ∃ s, Settings.load {} (.empty []) (.document (.object members)) [] = .ok s
      ∧ ¬0 < s.lighting.specularExponent
      ∧ ∃ x ∈ s.lighting.view.toList, x.isNaN = true := by
  intro members
  obtain ⟨s, hs⟩ : ∃ s, Settings.load {} (.empty []) (.document (.object members)) [] = .ok s :=
    exists_ok_of_isOk (by decide +kernel)
  have hexponent : s.lighting.specularExponent.isNaN = true :=
    (isNaN_specularExponent .document hs).trans (by decide +kernel)
  have hview : s.lighting.view.toList.any Float.isNaN = true :=
    (isNaN_view .document hs).trans (by decide +kernel)
  refine ⟨s, hs, fun hpos => ?_, List.any_eq_true.mp hview⟩
  exact absurd hexponent (Bool.eq_false_iff.mp (FloatOrder.isNaN_of_lt hpos))

end Diorama
