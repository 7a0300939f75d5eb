import Diorama.Proofs.Render.Alike
import Diorama.Proofs.Render.Replay

/-!
# Knobs worked into a script

A knob multiplies the numbers of a directive by its value on the frame that is drawn.  Working the
values of one frame into the numbers gives a script without knobs, and drawing the frame is
drawing that script: a frame depends on nothing but the script and the values of the knobs that it
names.

**Main statements.**
* `alike_perform_specialise`: a directive does on a frame what its specialised form does anywhere.
* `alike_replay_specialise`: and so does a whole script.
* `Frame.outcome_specialise`: the outcome of a frame of a run is that of its specialised script.
-/

namespace Diorama

namespace Directive

/-- The knob that a directive names. -/
def knob? : Directive → Option Text
  | move _ knob | scale _ knob | rotate _ _ knob => knob
  | _ => none

/--
A directive without its knob: its numbers, and of a rotation the angle, are multiplied by the value
of the knob, or left as they are where the knob has none.
-/
def specialise
    (knobs : Named Float) :
    Directive → Directive
  | move offset (some knob) =>
      match knobs.find? knob with
      | some k => move ⟨offset.x * k, offset.y * k, offset.z * k⟩ none
      | none => move offset none
  | scale factors (some knob) =>
      match knobs.find? knob with
      | some k => scale ⟨factors.x * k, factors.y * k, factors.z * k⟩ none
      | none => scale factors none
  | rotate axis degrees (some knob) =>
      match knobs.find? knob with
      | some k => rotate axis (degrees * k) none
      | none => rotate axis degrees none
  | directive => directive

/-- Specialising looks at the value of the named knob only. -/
theorem specialise_congr
    {knobs others : Named Float}
    {directive : Directive}
    (h : ∀ knob, directive.knob? = some knob → knobs.find? knob = others.find? knob) :
    directive.specialise knobs = directive.specialise others := by
  cases directive with
  | move offset knob | scale offset knob =>
      cases knob with
      | none => rfl
      | some knob => simp only [specialise, h knob rfl]
  | rotate axis degrees knob =>
      cases knob with
      | none => rfl
      | some knob => simp only [specialise, h knob rfl]
  | _ => rfl

/-- Specialising neither makes nor removes an end marker. -/
theorem specialise_eq_finish_iff
    (knobs : Named Float)
    (directive : Directive) :
    directive.specialise knobs = .finish ↔ directive = .finish := by
  cases directive with
  | move offset knob | scale offset knob =>
      cases knob with
      | none => simp [specialise]
      | some knob =>
          simp only [specialise]
          split <;> simp
  | rotate axis degrees knob =>
      cases knob with
      | none => simp [specialise]
      | some knob =>
          simp only [specialise]
          split <;> simp
  | _ => simp [specialise]

end Directive

/-- A statement with its directive specialised. -/
def Statement.specialise
    (knobs : Named Float)
    (statement : Statement) :
    Statement :=
  ⟨statement.line, statement.directive.specialise knobs⟩

/-- The knobs that a script names. -/
def Script.knobs
    (statements : List Statement) :
    List Text :=
  statements.filterMap fun statement => statement.directive.knob?

theorem Script.map_specialise_congr
    {knobs others : Named Float}
    {statements : List Statement}
    (h : ∀ knob ∈ Script.knobs statements, knobs.find? knob = others.find? knob) :
    statements.map (Statement.specialise knobs)
      = statements.map (Statement.specialise others) := by
  apply List.map_congr_left
  intro statement hmem
  have hdirective : statement.directive.specialise knobs
      = statement.directive.specialise others := by
    apply Directive.specialise_congr
    intro knob hknob
    exact h knob (List.mem_filterMap.mpr ⟨statement, hmem, hknob⟩)
  simp only [Statement.specialise, hdirective]

theorem Script.body_map_specialise
    (knobs : Named Float)
    (statements : List Statement) :
    Script.body (statements.map (Statement.specialise knobs))
      = (Script.body statements).map (Statement.specialise knobs) := by
  induction statements with
  | nil => rfl
  | cons statement rest ih =>
      by_cases hend : statement.directive = .finish
      · obtain ⟨line, directive⟩ := statement
        obtain rfl : directive = .finish := hend
        rfl
      · have hkeep : (statement.specialise knobs).directive ≠ .finish := by
          simpa only [Statement.specialise, ne_eq, Directive.specialise_eq_finish_iff] using hend
        rw [List.map_cons, body_cons_of_ne hkeep, body_cons_of_ne hend, List.map_cons, ih]

namespace Drawing

variable {σ τ : Type} {R : σ → τ → Prop} {knobs others : Named Float}

/-- Asking for a knob comes to going on with its value, if it has one. -/
theorem alike_knobValue
    {β : Type}
    (knob : Option Text)
    {next : Option Float → Drawing σ β}
    {follow : Option Float → Drawing τ β}
    (hnext : Alike R knobs others
      (next (knob.bind fun name => knobs.find? name)) (follow none)) :
    Alike R knobs others (knobValue knob >>= next) (knobValue none >>= follow) := by
  intro s t h
  cases knob with
  | none => exact hnext s t h
  | some name =>
      have hvalue : s.frame.knobs.find? name = knobs.find? name := by rw [h.knobs]
      simp only [bind, EStateM.bind, knobValue, hvalue]
      simp only [Option.bind_some] at hnext
      cases hfind : knobs.find? name with
      | some value =>
          rw [hfind] at hnext
          exact hnext s t h
      | none =>
          rw [hfind] at hnext
          exact hnext _ t ⟨h.view, h.outside, h.knobs, h.others⟩

/-- A move or a scaling takes the numbers that specialising writes down. -/
theorem specialise_vector
    (v : Vec3 Float)
    (knob : Option Text)
    (build : Vec3 Float → Option Text → Directive)
    (hbuild : build = .move ∨ build = .scale) :
    (build v knob).specialise knobs
      = build (v.stretch (knob.bind fun name => knobs.find? name)) none := by
  rcases hbuild with rfl | rfl <;>
    cases knob with
    | none => rfl
    | some name =>
        simp only [Directive.specialise, Option.bind_some]
        cases knobs.find? name <;> rfl

/-- A rotation takes the angle that specialising writes down. -/
theorem specialise_rotate
    (axis : Text)
    (degrees : Float)
    (knob : Option Text) :
    (Directive.rotate axis degrees knob).specialise knobs
      = .rotate axis (stretch degrees (knob.bind fun name => knobs.find? name)) none := by
  cases knob with
  | none => rfl
  | some name =>
      simp only [Directive.specialise, Option.bind_some]
      cases knobs.find? name <;> rfl

variable {settings : Settings} {first : Outlet σ} {second : Outlet τ}

/-- A directive does on a frame what its specialised form does on any other. -/
theorem alike_perform_specialise
    (houtlet : Outlet.Alike R first second)
    (line : Int)
    (directive : Directive) :
    Alike R knobs others
      (perform settings first line directive)
      (perform settings second line (directive.specialise knobs)) := by
  cases directive with
  | constants name coefficients color => exact alike_register _
  | push => exact alike_takeStep line .enter
  | pop => exact alike_takeStep line .leave
  | move offset knob =>
      rw [specialise_vector offset knob .move (.inl rfl)]
      exact alike_knobValue knob (alike_takeStep line _)
  | scale factors knob =>
      rw [specialise_vector factors knob .scale (.inr rfl)]
      exact alike_knobValue knob (alike_takeStep line _)
  | rotate axis degrees knob =>
      rw [specialise_rotate]
      refine alike_knobValue knob ?_
      cases Axis.ofName? axis with
      | none => exact alike_throw _
      | some turned =>
          exact alike_bind (alike_orCrash _) fun _ => alike_takeStep line _
  | sphere name center radius =>
      refine alike_bind (alike_material line name) fun m => ?_
      exact alike_bind (alike_orCrash _) fun ts => alike_triangles _ m ts
  | box name corner size =>
      exact alike_bind (alike_material line name) fun m => alike_triangles _ m _
  | torus name center tube ring =>
      refine alike_bind (alike_material line name) fun m => ?_
      exact alike_bind (alike_orCrash _) fun ts => alike_triangles _ m ts
  | line start stop => exact alike_edge _ start stop
  | display => exact alike_present houtlet line
  | save name => exact alike_save houtlet _
  | unknown keyword tokens => exact alike_throw _
  | frames count => exact alike_pure ()
  | basename name => exact alike_pure ()
  | vary knob first last start stop => exact alike_pure ()
  | finish => exact alike_pure ()

/-- A script does on a frame what its specialised form does on any other. -/
theorem alike_replay_specialise
    (houtlet : Outlet.Alike R first second)
    (statements : List Statement) :
    Alike R knobs others
      (replay settings first statements)
      (replay settings second (statements.map (Statement.specialise knobs))) := by
  rw [replay_eq_forM, replay_eq_forM, Script.body_map_specialise]
  induction Script.body statements with
  | nil => exact alike_pure ()
  | cons statement rest ih =>
      have hstep : Alike R knobs others
          (execute settings first statement)
          (execute settings second (statement.specialise knobs)) :=
        alike_execute (alike_perform_specialise houtlet statement.line statement.directive)
      exact alike_bind hstep fun _ => ih

end Drawing

/-- What comes of drawing a frame: a failure if there is one, the frame, and the pictures saved. -/
structure FrameOutcome where
  failure : Option Failure
  view : FrameView
  saved : List (Path × Canvas Float)

/-- An outlet that also keeps the pictures saved through it, with their paths. -/
def Outlet.recording
    {σ : Type}
    (outlet : Outlet σ) :
    Outlet (σ × List (Path × Canvas Float)) where
  save := fun canvas path s =>
    match outlet.save canvas path s.1 with
    | (.ok saved, state) => (.ok saved, state, s.2 ++ [(saved, canvas)])
    | (.error failure, state) => (.error failure, state, s.2)
  present := fun canvas s =>
    let (answer, state) := outlet.present canvas s.1
    (answer, state, s.2)

theorem Outlet.alike_recording
    {σ τ : Type}
    {R : σ → τ → Prop}
    {first : Outlet σ}
    {second : Outlet τ}
    (h : Outlet.Alike R first second) :
    Outlet.Alike (fun s t => R s.1 t.1 ∧ s.2 = t.2) first.recording second.recording where
  answer := by
    rintro canvas path ⟨s, kept⟩ ⟨t, others⟩ ⟨hst, hkept⟩
    have hanswer := h.answer canvas path s t hst
    simp only [recording]
    split <;> split <;> simp_all
  save := by
    rintro canvas path ⟨s, kept⟩ ⟨t, others⟩ ⟨hst, hkept⟩
    have hanswer := h.answer canvas path s t hst
    have hstate := h.save canvas path s t hst
    simp only [recording]
    split <;> split <;> simp_all
  present := by
    rintro canvas ⟨s, kept⟩ ⟨t, others⟩ ⟨hst, hkept⟩
    exact ⟨h.present canvas s t hst, hkept⟩

/-- What is seen of a replay that records its pictures. -/
def FrameOutcome.ofResult
    {σ : Type} :
    EStateM.Result Failure (Session (σ × List (Path × Canvas Float))) Unit → FrameOutcome
  | .ok () s => ⟨none, s.frame.view, s.outside.2⟩
  | .error failure s => ⟨some failure, s.frame.view, s.outside.2⟩

/-- The outcome of drawing a script on a new frame. -/
def Frame.outcome
    {σ : Type}
    (settings : Settings)
    (outlet : Outlet σ)
    (statements : List Statement)
    (outside : σ)
    (frame : Frame) :
    FrameOutcome :=
  .ofResult (Drawing.replay settings outlet.recording statements ⟨frame, (outside, []), #[]⟩)

/-- The outcome of a frame in a run that has come to `p`. -/
def Progress.frameOutcome
    {σ : Type}
    (settings : Settings)
    (outlet : Outlet σ)
    (statements : List Statement)
    (p : Progress σ)
    (index : Nat) :
    FrameOutcome :=
  (Frame.start settings index (p.result.knobs.valuesOn index)).outcome settings outlet statements
    p.outside

section Outcomes

variable {σ τ : Type} {R : σ → τ → Prop} {first : Outlet σ} {second : Outlet τ}

/-- Nothing tells alike replays apart. -/
theorem FrameOutcome.ofResult_eq_of_alike
    {knobs others : Named Float}
    {left : EStateM.Result Failure (Session (σ × List (Path × Canvas Float))) Unit}
    {right : EStateM.Result Failure (Session (τ × List (Path × Canvas Float))) Unit}
    (h : Drawing.AlikeOutcome (fun s t => R s.1 t.1 ∧ s.2 = t.2) knobs others left right) :
    ofResult left = ofResult right := by
  cases h with
  | done _ h => simp only [ofResult, h.view, h.outside.2]
  | failed failure h => simp only [ofResult, h.view, h.outside.2]

/-- A frame has the outcome of its specialised script on a frame without knobs. -/
theorem Frame.outcome_specialise
    (houtlet : Outlet.Alike R first second)
    (settings : Settings)
    (statements : List Statement)
    (index fresh : Int)
    (knobs : Named Float)
    {outside : σ}
    {beside : τ}
    (hstate : R outside beside) :
    (Frame.start settings index knobs).outcome settings first statements outside
      = (Frame.start settings fresh []).outcome settings second
          (statements.map (Statement.specialise knobs)) beside := by
  let Together (s : σ × List (Path × Canvas Float)) (t : τ × List (Path × Canvas Float)) : Prop :=
    R s.1 t.1 ∧ s.2 = t.2
  have hsession : Session.Alike Together knobs []
      ⟨Frame.start settings index knobs, (outside, []), #[]⟩
      ⟨Frame.start settings fresh [], (beside, []), #[]⟩ :=
    ⟨rfl, ⟨hstate, rfl⟩, rfl, rfl⟩
  apply FrameOutcome.ofResult_eq_of_alike
  exact Drawing.alike_replay_specialise (Outlet.alike_recording houtlet) statements _ _ hsession

/-- Drawing frames does not change the knob values of a run. -/
theorem Running.knobs_frames
    {settings : Settings}
    {outlet : Outlet σ}
    {statements : List Statement}
    {indices : List Nat}
    {p q : Progress σ}
    (h : Running.frames settings outlet statements indices p = .ok () q) :
    q.result.knobs = p.result.knobs := by
  induction indices generalizing p with
  | nil =>
      cases h
      rfl
  | cons index rest ih =>
      simp only [frames, bind, EStateM.bind] at h
      split at h
      · rename_i _ p' hframe
        have hkept : p'.result.knobs = p.result.knobs := by
          simp only [frame] at hframe
          split at hframe
          · cases hframe
            rfl
          · cases hframe
        rw [ih h, hkept]
      · cases h

/--
The outcome of a frame is that of its specialised script on a frame without knobs.  Two frames
whose values agree on the knobs that the script names have the same outcome, whichever frames were
drawn before them.
-/
theorem frame_outcome_determined
    (houtlet : Outlet.Alike R first second)
    (settings : Settings)
    (statements : List Statement)
    (table : KnobTable) :
    (∀ (index : Nat) (fresh : Int) (outside : σ) (beside : τ),
      R outside beside →
      (Frame.start settings index (table.valuesOn index)).outcome settings first statements outside
        = (Frame.start settings fresh []).outcome settings second
            (statements.map (Statement.specialise (table.valuesOn index))) beside)
    ∧
    (∀ (start p : Progress σ) (other q : Progress τ) (before beforeOther : List Nat) (i j : Nat),
      start.result.knobs = table →
      other.result.knobs = table →
      Running.frames settings first statements before start = .ok () p →
      Running.frames settings second statements beforeOther other = .ok () q →
      R p.outside q.outside →
      (∀ knob ∈ Script.knobs statements,
        (table.valuesOn i).find? knob = (table.valuesOn j).find? knob) →
      p.frameOutcome settings first statements i = q.frameOutcome settings second statements j) := by
  constructor
  · intro index fresh outside beside hstate
    exact Frame.outcome_specialise houtlet settings statements index fresh _ hstate
  · intro start p other q before beforeOther i j hstart hother hp hq hstate hagree
    have hpk : p.result.knobs = table := (Running.knobs_frames hp).trans hstart
    have hqk : q.result.knobs = table := (Running.knobs_frames hq).trans hother
    have hscript := Script.map_specialise_congr hagree
    have hleft := Frame.outcome_specialise houtlet settings statements i 0
      (table.valuesOn i) hstate
    have hright := Frame.outcome_specialise (Outlet.alike_refl second) settings statements j 0
      (table.valuesOn j) (rfl : q.outside = q.outside)
    simp only [Progress.frameOutcome, hpk, hqk]
    rw [hleft, hright, hscript]

/-- A knob moves by its value on the frame, and the frame after another with that value is alike. -/
theorem frame_outcome_determined_move :
    let script : List Statement :=
      [⟨1, .move ⟨1, 2, 3⟩ (some "k")⟩, ⟨2, .rotate "x" 5 (some "h")⟩, ⟨3, .save "a"⟩, ⟨4, .finish⟩]
    let table : KnobTable := ⟨#[[("k", 2)], [("h", 1), ("k", 2)], [("k", 2)]], true⟩
    let start : Progress Unit :=
      ⟨⟨⟨some 3, "output", true, []⟩, table, 0, [], []⟩, (), #[]⟩
    (Frame.start {} 0 (table.valuesOn 0)).outcome {} Outlet.accepting script ()
        = (Frame.start {} 7 []).outcome {} Outlet.accepting
            [⟨1, .move ⟨1 * 2, 2 * 2, 3 * 2⟩ none⟩, ⟨2, .rotate "x" 5 none⟩, ⟨3, .save "a"⟩,
              ⟨4, .finish⟩] ()
    ∧ ∃ q, Running.frames {} Outlet.accepting script [0] start = .ok () q
        ∧ q.frameOutcome {} Outlet.accepting script 2
            = start.frameOutcome {} Outlet.accepting script 0 := by
  intro script table start
  have hdetermined := frame_outcome_determined (Outlet.alike_refl Outlet.accepting) {} script table
  refine ⟨hdetermined.1 0 7 () () rfl, _, rfl, ?_⟩
  apply hdetermined.2 start _ start start [0] [] 2 0 rfl rfl rfl rfl rfl
  intro knob hknob
  rfl

end Outcomes
end Diorama
