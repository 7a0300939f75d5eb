import Diorama.Proofs.Images.Saving
import Diorama.Proofs.Render.Effects
import Diorama.Proofs.Render.Steps

/-!
# Refused directives

A directive is refused for what its frame lacks (an enclosing scope, a material), for what it says
itself (an axis that is none), or because the outlet does not take the picture.  Then the frame is
what it was, and the error names a line.  A directive that is not supported is passed over; it
leaves a warning on the first frame, and it is the only one that leaves any.

**Main statements.**
* `perform_of_refuses`, `refused_of_perform`: a directive fails with an error of the script if its
  frame refuses it or it is not supported, and then nothing has changed.
* `refused_directive_changes_nothing`: what becomes of a statement and its frame.
-/

namespace Diorama

variable {σ : Type}

/-- Whatever an outlet blames on the script is that a picture was not saved. -/
def Outlet.FailsBySaving
    (outlet : Outlet σ) :
    Prop :=
  ∀ canvas path outside error,
    (outlet.save canvas path outside).1 = .error (.script error) →
      error.fault.kind = .persistenceFailure

/-- Saving to files is such an outlet, whatever the conversion. -/
theorem Conversion.outlet_failsBySaving
    (convert : Conversion)
    (limits : Limits) :
    (convert.outlet limits).FailsBySaving := by
  intro canvas path fs error herror
  have hsaved := convert.saved limits canvas path fs
  change (convert.save limits canvas path fs).1 = _ at herror
  generalize convert.save limits canvas path fs = outcome at hsaved herror
  cases hsaved with
  | stopped pixmap_eq =>
      cases herror
      have hpixmap := ImageWriter.pixmapWritten limits canvas path fs
      rw [pixmap_eq] at hpixmap
      cases hpixmap with
      | refused makes e => rfl
  | kept => cases herror
  | withdrawn =>
      cases herror
      rfl
  | notRemoved => cases herror
  | crashed => cases herror

namespace Drawing

variable {settings : Settings} {outlet : Outlet σ} {line : Int} {directive : Directive}
  {s t : Session σ} {error : ScriptError}

/-- Why a directive on a line is refused on a frame, and with which error. -/
inductive Refuses
    (settings : Settings)
    (outlet : Outlet σ)
    (frame : Frame)
    (outside : σ)
    (line : Int) :
    Directive → ScriptError → Prop
  | axis
      {name : Text}
      {degrees : Float}
      {knob : Option Text}
      (noAxis : Axis.ofName? name = none) :
      Refuses settings outlet frame outside line (.rotate name degrees knob)
        (.onLine (.invalidAxis name) line)
  | outermost
      (depth_eq : frame.stack.depth = 1) :
      Refuses settings outlet frame outside line .pop (.onLine .stackUnderflow line)
  | material
      {directive : Directive}
      {name : Text}
      (names : directive.material? = some name)
      (undefined : frame.materials.defined.find? name = none) :
      Refuses settings outlet frame outside line directive
        (.onLine (.unknownMaterial name) line)
  /-- The system does not let the outlet save the picture. -/
  | system
      {name text : Text}
      (answer : (outlet.save frame.canvas (settings.outputPath name) outside).1
        = .error (.system text)) :
      Refuses settings outlet frame outside line (.save name)
        (.onLine (.notSaved (.notSaved (settings.outputPath name).toText text)) line)
  /-- The outlet itself refuses the picture; a line that it gives is kept. -/
  | outlet
      {name : Text}
      {error : ScriptError}
      (answer : (outlet.save frame.canvas (settings.outputPath name) outside).1
        = .error (.script error)) :
      Refuses settings outlet frame outside line (.save name) (error.withLine line)

/-- Every refusal ends its frame. -/
theorem isFatal_of_refuses
    {frame : Frame}
    {outside : σ}
    (hsaving : outlet.FailsBySaving)
    (h : Refuses settings outlet frame outside line directive error) :
    error.fault.kind.isFatal = true := by
  cases h with
  | axis noAxis | outermost depth_eq | material names undefined | system answer => rfl
  | @outlet name own answer =>
      have hkind : (own.withLine line).fault.kind = .persistenceFailure :=
        hsaving _ _ _ own answer
      rw [hkind]
      rfl

/-- The error of a refusal is on the line of the directive, unless the outlet gave another. -/
theorem line_of_refuses
    {frame : Frame}
    {outside : σ}
    (h : Refuses settings outlet frame outside line directive error) :
    ∃ n, error.line = some n
      ∧ (n = line ∨ ∃ path own,
        (outlet.save frame.canvas path outside).1 = .error (.script own)
          ∧ own.line = some n) := by
  cases h with
  | axis noAxis | outermost depth_eq | material names undefined | system answer =>
      exact ⟨line, rfl, .inl rfl⟩
  | @outlet name own answer =>
      cases hline : own.line with
      | none => exact ⟨line, by simp [ScriptError.withLine, hline], .inl rfl⟩
      | some n => exact ⟨n, by simp [ScriptError.withLine, hline], .inr ⟨_, own, answer, hline⟩⟩

/-- A directive that is refused fails. -/
theorem perform_of_refuses
    (h : Refuses settings outlet s.frame s.outside line directive error) :
    ∃ own t, perform settings outlet line directive s = .error (.script own) t
      ∧ own.withLine line = error := by
  cases h with
  | @axis name degrees knob noAxis =>
      obtain ⟨notices, hbind⟩ := knobValue_bind knob _ s
      simp only [perform]
      rw [hbind, noAxis]
      exact ⟨_, _, rfl, rfl⟩
  | outermost depth_eq =>
      have hpop := s.frame.stack.pop?_eq_none_iff.mpr depth_eq
      simp only [perform, takeStep, TransformStack.step?, hpop]
      exact ⟨_, _, rfl, rfl⟩
  | @material _ name names undefined =>
      have hmaterial : Drawing.material line (some name) s
          = .error (.script (.onLine (.unknownMaterial name) line)) s := by
        simp [Drawing.material, MaterialRegistry.resolve, undefined, ScriptError.onLine]
      cases directive <;> cases names
      all_goals
        simp only [perform, bind, EStateM.bind, hmaterial]
        exact ⟨_, _, rfl, rfl⟩
  | @system name text answer =>
      rcases hsave : outlet.save s.frame.canvas (settings.outputPath name) s.outside
        with ⟨result, outside⟩
      obtain rfl : result = .error (.system text) := by rw [← answer, hsave]
      simp only [perform, save, hsave, Failure.ofSave, Failure.ofFault]
      exact ⟨_, _, rfl, rfl⟩
  | @outlet name own answer =>
      rcases hsave : outlet.save s.frame.canvas (settings.outputPath name) s.outside
        with ⟨result, outside⟩
      obtain rfl : result = .error (.script own) := by rw [← answer, hsave]
      simp only [perform, save, hsave, Failure.ofSave]
      exact ⟨_, _, rfl, rfl⟩

theorem Draws.ne_script
    {step : Drawing σ Unit}
    (h : Draws outlet step) :
    step s ≠ .error (.script error) t := by
  rcases h s with ⟨_, hdone, _⟩ | ⟨_, _, hcrash, _⟩
  · simp [hdone]
  · simp [hcrash]

/-- A failed directive was refused by a frame that has not changed. -/
structure Refused
    (settings : Settings)
    (outlet : Outlet σ)
    (line : Int)
    (directive : Directive)
    (s t : Session σ)
    (error : ScriptError) : Prop where
  refuses : Refuses settings outlet s.frame s.outside line directive (error.withLine line)
  unchanged : t.frame = s.frame

/-- A shape is refused for its material only. -/
theorem refused_shape
    {name : Option Text}
    {shape : Material (Vec3 Float) → Drawing σ Unit}
    (names : directive.material? = name)
    (hshape : ∀ m, Draws outlet (shape m))
    (h : (material line name >>= shape) s = .error (.script error) t) :
    Refused settings outlet line directive s t error := by
  cases name with
  | none => exact absurd h (hshape s.frame.materials.default).ne_script
  | some n =>
      cases hfound : s.frame.materials.defined.find? n with
      | some m =>
          simp only [bind, EStateM.bind, material, MaterialRegistry.resolve, hfound] at h
          exact absurd h (hshape m).ne_script
      | none =>
          simp only [bind, EStateM.bind, material, MaterialRegistry.resolve, hfound] at h
          cases h
          exact ⟨.material names hfound, rfl⟩

/-- So is a picture, by the outlet only. -/
theorem refused_save
    {name : Text}
    (h : save outlet (settings.outputPath name) s = .error (.script error) t) :
    Refused settings outlet line (.save name) s t error := by
  rcases hsave : outlet.save s.frame.canvas (settings.outputPath name) s.outside
    with ⟨result, outside⟩
  simp only [save, hsave] at h
  cases result with
  | ok saved => cases h
  | error failure =>
      have hanswer : (outlet.save s.frame.canvas (settings.outputPath name) s.outside).1
          = .error failure := by rw [hsave]
      cases failure with
      | system text =>
          cases h
          exact ⟨.system hanswer, rfl⟩
      | script own =>
          cases h
          exact ⟨.outlet hanswer, rfl⟩
      | crash cause => cases h

/-- A directive that fails with an error of the script is refused, or it is not supported. -/
theorem refused_of_perform
    (h : perform settings outlet line directive s = .error (.script error) t) :
    Refused settings outlet line directive s t error
      ∨ ∃ keyword tokens, directive = .unknown keyword tokens
        ∧ error = .onLine (.unsupportedDirective keyword) line ∧ t = s := by
  cases directive with
  | constants name coefficients color => cases h
  | push => cases h
  | pop =>
      simp only [perform, takeStep, TransformStack.step?] at h
      split at h
      · cases h
      · rename_i hpop
        cases h
        exact .inl ⟨.outermost (s.frame.stack.pop?_eq_none_iff.mp hpop), rfl⟩
  | move offset knob | scale offset knob =>
      simp only [perform] at h
      obtain ⟨notices, hbind⟩ := knobValue_bind knob _ s
      rw [hbind] at h
      cases h
  | rotate name degrees knob =>
      simp only [perform] at h
      obtain ⟨notices, hbind⟩ := knobValue_bind knob _ s
      rw [hbind] at h
      cases haxis : Axis.ofName? name with
      | none =>
          rw [haxis] at h
          cases h
          exact .inl ⟨.axis haxis, rfl⟩
      | some axis =>
          rw [haxis] at h
          cases hangle : cosineSine (stretch degrees (knob.bind s.frame.knobs.find?)) with
          | ok turn =>
              simp only [hangle] at h
              cases h
          | error cause =>
              simp only [hangle] at h
              cases h
  | sphere name center radius =>
      exact .inl (refused_shape rfl (fun m => draws_orCrash_bind
        (Sphere.triangles?_sparesAngle _ _ _) fun ts => draws_triangles _ m ts) h)
  | box name corner size =>
      exact .inl (refused_shape rfl (fun m => draws_triangles _ m _) h)
  | torus name center tube ring =>
      exact .inl (refused_shape rfl (fun m => draws_orCrash_bind
        (Torus.triangles?_sparesAngle _ _ _ _) fun ts => draws_triangles _ m ts) h)
  | line start stop =>
      have hdraws : Draws outlet (edge settings.shading.drawColor start stop) :=
        draws_edge _ start stop
      exact absurd h hdraws.ne_script
  | display => exact absurd h (draws_present line).ne_script
  | save name => exact .inl (refused_save h)
  | unknown keyword tokens =>
      cases h
      exact .inr ⟨keyword, tokens, rfl, rfl, rfl⟩
  | frames _ | basename _ | vary _ _ _ _ _ | finish => cases h

/-- A statement fails with an error of the script if its directive does with a fatal one. -/
theorem execute_eq_script_iff
    {statement : Statement} :
    execute settings outlet statement s = .error (.script error) t
      ↔ ∃ own, perform settings outlet statement.line statement.directive
          (s.note (.executing s.frame.index statement)) = .error (.script own) t
        ∧ own.fault.kind.isFatal = true ∧ own.withLine statement.line = error := by
  simp only [execute]
  generalize perform settings outlet statement.line statement.directive
    (s.note (.executing s.frame.index statement)) = outcome
  cases outcome with
  | ok _ u => simp
  | error failure u =>
      cases failure with
      | crash cause => simp
      | script own =>
          simp only
          constructor
          · intro h
            split at h
            · rename_i hfatal
              cases h
              exact ⟨own, rfl, hfatal, rfl⟩
            · cases h
          · rintro ⟨_, ⟨⟩, hfatal, rfl⟩
            exact if_pos hfatal

/-- A statement fails with an error of the script exactly if it is refused. -/
theorem execute_script_iff_refuses
    (hsaving : outlet.FailsBySaving)
    (statement : Statement) :
    (∃ t, execute settings outlet statement s = .error (.script error) t)
      ↔ Refuses settings outlet s.frame s.outside statement.line statement.directive error := by
  constructor
  · rintro ⟨t, hfailed⟩
    obtain ⟨own, hperform, hfatal, rfl⟩ := execute_eq_script_iff.mp hfailed
    rcases refused_of_perform hperform with hrefused | ⟨keyword, tokens, _, rfl, _⟩
    · exact hrefused.refuses
    · cases hfatal
  · intro hrefuses
    obtain ⟨own, t, hperform, rfl⟩ :=
      perform_of_refuses (s := s.note (.executing s.frame.index statement)) hrefuses
    have hfatal := isFatal_of_refuses hsaving hrefuses
    exact ⟨t, execute_eq_script_iff.mpr ⟨own, hperform, hfatal, rfl⟩⟩

/-- Then the frame is what it was. -/
theorem frame_eq_of_execute
    {statement : Statement}
    (h : execute settings outlet statement s = .error (.script error) t) :
    t.frame = s.frame := by
  obtain ⟨own, hperform, _, _⟩ := execute_eq_script_iff.mp h
  rcases refused_of_perform hperform with hrefused | ⟨keyword, tokens, _, _, rfl⟩
  · exact hrefused.unchanged
  · rfl

/-- A directive that is not supported is passed over with a warning on the first frame. -/
theorem execute_unknown
    {statement : Statement}
    {keyword : Text}
    {tokens : List Text}
    (h : statement.directive = .unknown keyword tokens) :
    ∃ notices, execute settings outlet statement s = .ok ()
      { frame := { s.frame with
          warnings := s.frame.warnings
            ++ if s.frame.index = 0
              then [.onLine (.unsupportedDirective keyword) statement.line] else [] }
        outside := s.outside
        notices } := by
  obtain ⟨line, directive⟩ := statement
  obtain rfl : directive = .unknown keyword tokens := h
  have hexecute : execute settings outlet ⟨line, .unknown keyword tokens⟩ s
      = .ok () ((s.note (.executing s.frame.index ⟨line, .unknown keyword tokens⟩)).warn
          (.onLine (.unsupportedDirective keyword) line)) := rfl
  obtain ⟨notices, hwarn⟩ :=
    warn_eq (s.note (.executing s.frame.index ⟨line, .unknown keyword tokens⟩))
      (.onLine (.unsupportedDirective keyword) line)
  exact ⟨notices, hexecute.trans (congrArg _ hwarn)⟩

/-- No other directive adds a warning, however it ends. -/
theorem warnings_attempt
    (hsaving : outlet.FailsBySaving)
    {statement : Statement}
    (hsupported : ∀ keyword tokens, statement.directive ≠ .unknown keyword tokens) :
    (attempt settings outlet s statement).frame.warnings = s.frame.warnings := by
  have hperform := relates_perform outlet Frame.respected_warnsLike settings statement.line
    statement.directive (s.note (.executing s.frame.index statement))
  rcases attempt_cases settings outlet s statement with hdone | ⟨error, t, houtcome, hmild, _⟩
  · rw [hdone]
    exact hperform.warnings
  · rcases refused_of_perform houtcome with hrefused | ⟨keyword, tokens, hunknown, _, _⟩
    · have hfatal := isFatal_of_refuses hsaving hrefused.refuses
      exact absurd hfatal hmild
    · exact absurd hunknown (hsupported keyword tokens)

end Drawing

/--
A statement fails with an error of the script exactly if its frame or the outlet refuses it; then
the frame is what it was, and the error has the line of the statement or that of the outlet.  A
directive that is not supported does nothing but warn on the first frame, and no other directive
warns.
-/
theorem refused_directive_changes_nothing
    {outlet : Outlet σ}
    (hsaving : outlet.FailsBySaving)
    (settings : Settings)
    (statement : Statement)
    (s : Session σ) :
    (∀ error, (∃ t, Drawing.execute settings outlet statement s = .error (.script error) t)
        ↔ Drawing.Refuses settings outlet s.frame s.outside statement.line statement.directive
            error)
      ∧ (∀ error t, Drawing.execute settings outlet statement s = .error (.script error) t →
          t.frame = s.frame
            ∧ ∃ n, error.line = some n
              ∧ (n = statement.line ∨ ∃ path own,
                (outlet.save s.frame.canvas path s.outside).1 = .error (.script own)
                  ∧ own.line = some n))
      ∧ (∀ keyword tokens, statement.directive = .unknown keyword tokens →
          ∃ notices, Drawing.execute settings outlet statement s = .ok ()
            { frame := { s.frame with
                warnings := s.frame.warnings
                  ++ if s.frame.index = 0
                    then [.onLine (.unsupportedDirective keyword) statement.line] else [] }
              outside := s.outside
              notices })
      ∧ ((∀ keyword tokens, statement.directive ≠ .unknown keyword tokens) →
          (Drawing.attempt settings outlet s statement).frame.warnings = s.frame.warnings) := by
  refine ⟨fun error => Drawing.execute_script_iff_refuses hsaving statement, ?_, ?_, ?_⟩
  case refine_1 =>
    intro error t hfailed
    have hrefuses := (Drawing.execute_script_iff_refuses hsaving statement).mp ⟨t, hfailed⟩
    exact ⟨Drawing.frame_eq_of_execute hfailed, Drawing.line_of_refuses hrefuses⟩
  case refine_2 => exact fun keyword tokens => Drawing.execute_unknown
  case refine_3 => exact Drawing.warnings_attempt hsaving

/-- A picture whose name asks for an unknown format: the writer refuses it, on line 7. -/
theorem refused_directive_changes_nothing_unknown_suffix :
    let images : ImageServices := ⟨.ofFormats [(".png", "PNG")] ["PNG"], none⟩
    let outlet := (ImageWriter.new .pillow "PNG").outlet ⟨images, {}⟩
    let s : Session FileSystem := ⟨Frame.start {} 0 [], .empty [], #[]⟩
    outlet.FailsBySaving
      ∧ ∃ t, Drawing.execute {} outlet ⟨7, .save "x.xyz"⟩ s
          = .error (.script (.onLine (.notSaved (.unsupportedFormat ".xyz" "x.xyz")) 7)) t
        ∧ t.frame = s.frame := by
  intro images outlet s
  have hsaving : outlet.FailsBySaving := Conversion.outlet_failsBySaving _ _
  obtain ⟨hrefused, hunchanged, _⟩ :=
    refused_directive_changes_nothing hsaving {} ⟨7, .save "x.xyz"⟩ s
  have hanswer : (outlet.save s.frame.canvas (Settings.outputPath {} "x.xyz") s.outside).1
      = .error (.script (.ofFault (.notSaved (.unsupportedFormat ".xyz" "x.xyz")))) :=
    errorOf?_eq_some_iff.mp (by decide +kernel)
  obtain ⟨t, hfailed⟩ := (hrefused _).mpr (.outlet hanswer)
  exact ⟨hsaving, t, hfailed, (hunchanged _ t hfailed).1⟩

end Diorama
