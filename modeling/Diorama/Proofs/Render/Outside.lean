import Diorama.Proofs.Render.Effects
import Diorama.Proofs.Render.Replay

/-!
# What a run does outside

A frame reaches its outlet only by showing and saving its canvas: `display` shows it, `save` saves
it under a path of the script, and a frame of an animation is saved under the path of its number.
A property of the state of the outlet that every one of these keeps is kept by whole frames and
runs, however they end.

**Main statements.**
* `outside_perform`: what a directive does outside.
* `preserves_execute`, `preserves_replay`, `preserves_frames`: statements, scripts and frames keep
  what saving and showing keep.
-/

namespace Diorama

variable {σ β γ : Type}

namespace Drawing

/-- The state of the outlet after a directive on a frame with a given canvas. -/
def outsideAfter
    (settings : Settings)
    (outlet : Outlet σ)
    (canvas : Canvas Float)
    (outside : σ) :
    Directive → σ
  | .display => (outlet.present canvas outside).2
  | .save name => (outlet.save canvas (settings.outputPath name) outside).2
  | _ => outside

theorem outside_takeStep
    (line : Int)
    (step : ScopeStep Float)
    (s : Session σ) :
    (final (takeStep line step s)).outside = s.outside := by
  simp only [takeStep]
  split <;> rfl

theorem outside_present
    (outlet : Outlet σ)
    (line : Int)
    (s : Session σ) :
    (final (present outlet line s)).outside = (outlet.present s.frame.canvas s.outside).2 := by
  simp only [present]
  split <;> rename_i hanswer <;> rw [hanswer] <;> rfl

theorem outside_save
    (outlet : Outlet σ)
    (path : Path)
    (s : Session σ) :
    (final (save outlet path s)).outside = (outlet.save s.frame.canvas path s.outside).2 := by
  simp only [save]
  split <;> rename_i hanswer <;> rw [hanswer] <;> rfl

/-- Only showing and saving reach the outlet. -/
theorem outside_perform
    (settings : Settings)
    (outlet : Outlet σ)
    (line : Int)
    (directive : Directive)
    (s : Session σ) :
    (final (perform settings outlet line directive s)).outside
      = outsideAfter settings outlet s.frame.canvas s.outside directive := by
  cases directive with
  | push => exact outside_takeStep line .enter s
  | pop => exact outside_takeStep line .leave s
  | move offset knob =>
      obtain ⟨notices, hbind⟩ := knobValue_bind knob _ s
      simp only [perform]
      rw [hbind]
      exact outside_takeStep line _ _
  | scale factors knob =>
      obtain ⟨notices, hbind⟩ := knobValue_bind knob _ s
      simp only [perform]
      rw [hbind]
      exact outside_takeStep line _ _
  | rotate name degrees knob =>
      obtain ⟨notices, hbind⟩ := knobValue_bind knob _ s
      simp only [perform]
      rw [hbind]
      cases Axis.ofName? name with
      | none => rfl
      | some axis =>
          cases cosineSine (stretch degrees (knob.bind s.frame.knobs.find?)) with
          | error cause => rfl
          | ok turn => exact outside_takeStep line (.turn axis turn.1 turn.2) _
  | sphere name center radius => exact (shape_leaves line name _ _ s).2
  | box name corner size => exact (shape_leaves line name _ (.ok _) s).2
  | torus name center tube ring => exact (shape_leaves line name _ _ s).2
  | line start stop =>
      simp only [perform, edge]
      split <;> rfl
  | display => exact outside_present outlet line s
  | save name => exact outside_save outlet _ s
  | constants name coefficients color => rfl
  | unknown _ _ | frames _ | basename _ | vary _ _ _ _ _ | finish => rfl

/-- A property of the state of the outlet that a step keeps, however it ends. -/
def Preserves
    (P : σ → Prop)
    (step : Drawing σ β) :
    Prop :=
  ∀ s, P s.outside → P (final (step s)).outside

variable {P : σ → Prop} {settings : Settings} {outlet : Outlet σ}

theorem preserves_bind
    {step : Drawing σ β}
    {next : β → Drawing σ γ}
    (hstep : Preserves P step)
    (hnext : ∀ b, Preserves P (next b)) :
    Preserves P (step >>= next) := by
  intro s hs
  have hafter := hstep s hs
  simp only [bind, EStateM.bind]
  cases hresult : step s with
  | ok b t =>
      rw [hresult] at hafter
      exact hnext b t hafter
  | error failure t =>
      rw [hresult] at hafter
      exact hafter

theorem preserves_pure
    (b : β) :
    Preserves P (pure b : Drawing σ β) :=
  fun _ hs => hs

theorem preserves_save
    {path : Path}
    (hsave : ∀ canvas outside, P outside → P (outlet.save canvas path outside).2) :
    Preserves P (save outlet path) := by
  intro s hs
  rw [outside_save]
  exact hsave _ _ hs

/-- A statement keeps what showing keeps, and saving under its path if it has one. -/
theorem preserves_execute
    {statement : Statement}
    (hpresent : ∀ canvas outside, P outside → P (outlet.present canvas outside).2)
    (hsave : ∀ path, settings.savePath? statement = some path →
      ∀ canvas outside, P outside → P (outlet.save canvas path outside).2) :
    Preserves P (execute settings outlet statement) := by
  have hperform : Preserves P (perform settings outlet statement.line statement.directive) := by
    intro s hs
    rw [outside_perform]
    obtain ⟨line, directive⟩ := statement
    cases directive with
    | display => exact hpresent _ _ hs
    | save name => exact hsave _ rfl _ _ hs
    | _ => exact hs
  intro s hs
  have hdone := hperform (s.note (.executing s.frame.index statement)) hs
  rcases attempt_cases settings outlet s statement with hattempt | ⟨error, t, houtcome, _, hattempt⟩
  · rw [attempt] at hattempt
    rw [hattempt]
    exact hdone
  · obtain ⟨notices, hwarning⟩ := warn_eq t (error.withLine statement.line)
    rw [houtcome] at hdone
    rw [attempt] at hattempt
    rw [hattempt, hwarning]
    exact hdone

/-- A script keeps what its statements keep. -/
theorem preserves_replay
    {statements : List Statement}
    (h : ∀ statement ∈ Script.body statements, Preserves P (execute settings outlet statement)) :
    Preserves P (replay settings outlet statements) := by
  rw [replay_eq_forM]
  generalize Script.body statements = body at h
  induction body with
  | nil => exact preserves_pure ()
  | cons statement rest ih =>
      exact preserves_bind (h statement List.mem_cons_self)
        fun _ => ih fun other hother => h other (List.mem_cons_of_mem _ hother)

end Drawing

namespace Running

/-- The progress with which a part of a run ends, whether it fails or not. -/
def final : EStateM.Result Failure (Progress σ) β → Progress σ
  | .ok _ p => p
  | .error _ p => p

variable {P : σ → Prop} {settings : Settings} {outlet : Outlet σ} {statements : List Statement}

/-- A frame keeps what its statements keep, and the save of its picture if there is one. -/
theorem preserves_frame
    (h : ∀ statement ∈ Script.body statements,
      Drawing.Preserves P (Drawing.execute settings outlet statement))
    {index : Nat}
    {p : Progress σ}
    (hsave : p.result.animation.isAnimated = true →
      ∀ canvas outside, P outside →
        P (outlet.save canvas (settings.framePath p.result.animation index) outside).2)
    (hp : P p.outside) :
    P (final (frame settings outlet statements index p)).outside := by
  have hdrawing : Drawing.Preserves P
      (drawing settings outlet statements p.result.animation index) := by
    refine Drawing.preserves_bind (Drawing.preserves_replay h) fun _ => ?_
    split
    · rename_i hanimated
      exact Drawing.preserves_save (hsave hanimated)
    · exact Drawing.preserves_pure ()
  have hafter := hdrawing
    ⟨Frame.start settings index (p.result.knobs.valuesOn index), p.outside, #[]⟩ hp
  simp only [frame]
  generalize drawing settings outlet statements p.result.animation index _ = result at hafter
  cases result <;> exact hafter

/-- No frame changes the animation. -/
theorem animation_frame
    (index : Nat)
    (p : Progress σ) :
    (final (frame settings outlet statements index p)).result.animation = p.result.animation := by
  simp only [frame]
  split <;> rfl

/-- Frames in order keep what each of them keeps. -/
theorem preserves_frames
    (h : ∀ statement ∈ Script.body statements,
      Drawing.Preserves P (Drawing.execute settings outlet statement))
    {indices : List Nat}
    {p : Progress σ}
    (hsave : ∀ index ∈ indices, ∀ canvas outside, P outside →
      P (outlet.save canvas (settings.framePath p.result.animation index) outside).2)
    (hp : P p.outside) :
    P (final (frames settings outlet statements indices p)).outside := by
  induction indices generalizing p with
  | nil => exact hp
  | cons index rest ih =>
      have hframe := preserves_frame h (fun _ => hsave index List.mem_cons_self) hp
      have hanimation := @animation_frame _ settings outlet statements index p
      simp only [frames, bind, EStateM.bind]
      generalize frame settings outlet statements index p = result at hframe hanimation
      cases result with
      | error failure q => exact hframe
      | ok _ q =>
          refine ih (fun other hother => ?_) hframe
          rw [show q.result.animation = p.result.animation from hanimation]
          exact hsave other (List.mem_cons_of_mem _ hother)

end Running
end Diorama
