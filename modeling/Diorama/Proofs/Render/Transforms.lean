import Mathlib.Analysis.SpecialFunctions.Trigonometric.Basic
import Diorama.Proofs.Geometry.Rigid
import Diorama.Proofs.Number.FloatValue
import Diorama.Proofs.Render.Effects
import Diorama.Proofs.Render.Replay

/-!
# The transforms of a frame

Which steps the directives of a frame take on its stack of transforms depends on how their numbers
are read: a frame reads them as doubles, with rounded products, cosines and sines, and the same
steps can be read in exact arithmetic, such as that of the real numbers.  Read exactly, with a
cosine and a sine on the unit circle for each angle, the transforms of a fresh frame are affine at
all times, and rigid as long as nothing is scaled.

**Main statements.**
* `Drawing.stack_attemptAll`: the stack of a frame is the outcome of the steps of its directives,
  read as doubles.
* `transforms_affine_and_rigid`: what the same steps are, read in exact arithmetic.
-/

namespace Diorama

/-- How the numbers of directives are read: operands, values of knobs, and angles in degrees. -/
structure Reading (α : Type) where
  number : Float → α
  knob : Text → Option α
  cosineSine : α → Option (α × α)

namespace Reading

/-- The doubles of a frame with the given knobs. -/
def doubles
    (knobs : Named Float) :
    Reading Float where
  number x := x
  knob name := knobs.find? name
  cosineSine degrees := (Diorama.cosineSine degrees).toOption

/-- The real numbers that stand in a script and in a table of knobs, without rounding. -/
noncomputable def real
    (knobs : Named Float) :
    Reading ℝ where
  number := Double.value
  knob name := (knobs.find? name).map Double.value
  cosineSine degrees :=
    some (Real.cos (degrees * (Real.pi / 180)), Real.sin (degrees * (Real.pi / 180)))

section

variable {α : Type} [Scalar α]

/-- Angles are read as points of the unit circle. -/
def OnCircle
    (r : Reading α) :
    Prop :=
  ∀ degrees cosine sine, r.cosineSine degrees = some (cosine, sine) →
    cosine * cosine + sine * sine = Scalar.one

/-- An operand, multiplied by the value of its knob if there is one. -/
def operand
    (r : Reading α)
    (x : Float)
    (knob : Option Text) :
    α :=
  match knob.bind r.knob with
  | some factor => r.number x * factor
  | none => r.number x

/-- The step that a directive takes on the stack, if it takes one. -/
def step?
    (r : Reading α) :
    Directive → Option (ScopeStep α)
  | .push => some .enter
  | .pop => some .leave
  | .move offset knob => some (.move (offset.map fun x => r.operand x knob))
  | .scale factors knob => some (.scale (factors.map fun x => r.operand x knob))
  | .rotate name degrees knob => do
      let axis ← Axis.ofName? name
      let (cosine, sine) ← r.cosineSine (r.operand degrees knob)
      return .turn axis cosine sine
  | _ => none

/-- The stack after the step of a directive; one that is impossible leaves it as it is. -/
def advance
    (r : Reading α)
    (s : TransformStack α)
    (directive : Directive) :
    TransformStack α :=
  ((r.step? directive).bind s.step?).getD s

/-- The stack of a fresh frame after directives in order. -/
def stack
    (r : Reading α)
    (directives : List Directive) :
    TransformStack α :=
  directives.foldl r.advance TransformStack.reset

end
end Reading

theorem Vec3.map_stretch
    (v : Vec3 Float)
    (factor : Option Float) :
    v.map (fun x => Diorama.stretch x factor) = v.stretch factor := by
  cases factor <;> rfl

/-- Read as doubles, an operand is stretched as a frame stretches it. -/
theorem Reading.operand_doubles
    (knobs : Named Float)
    (x : Float)
    (knob : Option Text) :
    (Reading.doubles knobs).operand x knob = stretch x (knob.bind knobs.find?) := by
  simp only [operand, doubles, stretch]
  cases knob.bind knobs.find? <;> rfl

/-- No change of a frame touches its knobs. -/
theorem Frame.respected_knobs :
    Frame.Respected fun f g => g.knobs = f.knobs where
  refl _ := rfl
  trans _ _ _ hfg hgh := hgh.trans hfg
  register _ _ := rfl
  stack _ _ _ _ := rfl
  triangles _ _ := rfl
  edges _ _ := rfl
  written _ _ := rfl

namespace Drawing

variable {σ : Type}

/-- A step that is taken is the one read, and a step that fails leaves the stack. -/
theorem stack_takeStep
    (line : Int)
    (step : ScopeStep Float)
    (s : Session σ) :
    (final (takeStep line step s)).frame.stack = (s.frame.stack.step? step).getD s.frame.stack := by
  simp only [takeStep]
  cases s.frame.stack.step? step <;> rfl

/-- A directive takes its step on the stack, read as doubles, and does nothing else to it. -/
theorem stack_perform
    (settings : Settings)
    (outlet : Outlet σ)
    (line : Int)
    (directive : Directive)
    (s : Session σ) :
    (final (perform settings outlet line directive s)).frame.stack
      = (Reading.doubles s.frame.knobs).advance s.frame.stack directive := by
  cases directive with
  | push => exact stack_takeStep line .enter s
  | pop => exact stack_takeStep line .leave s
  | move offset knob =>
      obtain ⟨notices, hbind⟩ := knobValue_bind knob _ s
      simp only [perform]
      rw [hbind, stack_takeStep]
      simp only [Reading.advance, Reading.step?, Reading.operand_doubles, Vec3.map_stretch]
      rfl
  | scale factors knob =>
      obtain ⟨notices, hbind⟩ := knobValue_bind knob _ s
      simp only [perform]
      rw [hbind, stack_takeStep]
      simp only [Reading.advance, Reading.step?, Reading.operand_doubles, Vec3.map_stretch]
      rfl
  | rotate name degrees knob =>
      obtain ⟨notices, hbind⟩ := knobValue_bind knob _ s
      simp only [perform]
      rw [hbind]
      simp only [Reading.advance, Reading.step?, Reading.operand_doubles]
      cases Axis.ofName? name with
      | none => rfl
      | some axis =>
          simp only [Reading.doubles]
          cases cosineSine (stretch degrees (knob.bind s.frame.knobs.find?)) with
          | error cause => rfl
          | ok turn => exact stack_takeStep line (.turn axis turn.1 turn.2) _
  | sphere name center radius => exact (shape_leaves line name _ _ s).1
  | box name corner size => exact (shape_leaves line name _ (.ok _) s).1
  | torus name center tube ring => exact (shape_leaves line name _ _ s).1
  | line start stop =>
      simp only [perform, edge]
      split <;> rfl
  | display =>
      simp only [perform, present]
      split <;> rfl
  | save name =>
      simp only [perform, save]
      split <;> rfl
  | constants name coefficients color => rfl
  | unknown _ _ | frames _ | basename _ | vary _ _ _ _ _ | finish => rfl

/-- So does a statement. -/
theorem stack_attempt
    (settings : Settings)
    (outlet : Outlet σ)
    (statement : Statement)
    (s : Session σ) :
    (attempt settings outlet s statement).frame.stack
      = (Reading.doubles s.frame.knobs).advance s.frame.stack statement.directive := by
  have hperform := stack_perform settings outlet statement.line statement.directive
    (s.note (.executing s.frame.index statement))
  rcases attempt_cases settings outlet s statement with hdone | ⟨error, t, houtcome, _, hwarn⟩
  · rw [hdone]
    exact hperform
  · obtain ⟨notices, hwarning⟩ := warn_eq t (error.withLine statement.line)
    rw [hwarn, hwarning]
    rw [houtcome] at hperform
    exact hperform

/-- The stack is the outcome of the steps of all directives so far, with the knobs of the frame. -/
theorem stack_attemptAll
    (settings : Settings)
    (outlet : Outlet σ)
    (statements : List Statement)
    (s : Session σ) :
    (attemptAll settings outlet s statements).frame.stack
      = (statements.map Statement.directive).foldl (Reading.doubles s.frame.knobs).advance
          s.frame.stack := by
  induction statements generalizing s with
  | nil => rfl
  | cons statement rest ih =>
      have hknobs : (attempt settings outlet s statement).frame.knobs = s.frame.knobs :=
        relates_attempt outlet Frame.respected_knobs (fun _ _ => rfl) settings statement s
      have hrest := ih (attempt settings outlet s statement)
      rw [hknobs, stack_attempt] at hrest
      exact hrest

end Drawing

namespace Reading

variable {α : Type} [Scalar α] {r : Reading α} {P : Transform α → Prop}

/-- What products keep and the steps of all directives have, the stack of a frame has. -/
theorem forall_stack
    (hidentity : P Transform.identity)
    (hcompose : ∀ {first second}, P first → P second → P (first.compose second))
    {directives : List Directive}
    (hsteps : ∀ directive ∈ directives, ∀ step first, r.step? directive = some step →
      step.elementary? = some first → P first) :
    ∀ m ∈ (r.stack directives).toList, P m := by
  have hadvance : ∀ s : TransformStack α, ∀ directive ∈ directives,
      (∀ m ∈ s.toList, P m) → ∀ m ∈ (r.advance s directive).toList, P m := by
    intro s directive hmem hs
    rw [advance]
    cases htaken : (r.step? directive).bind s.step? with
    | none => exact hs
    | some t =>
        obtain ⟨step, hstep, ht⟩ := Option.bind_eq_some_iff.mp htaken
        exact TransformStack.forall_step hcompose
          (fun first => hsteps directive hmem step first hstep) hs ht
  refine List.foldlRecOn directives r.advance (motive := fun s => ∀ m ∈ s.toList, P m) ?_ ?_
  · exact fun m hm => List.mem_singleton.mp hm ▸ hidentity
  · exact fun s hs directive hmem => hadvance s directive hmem hs

/-- The turns that a directive takes are on the unit circle. -/
theorem OnCircle.turn
    {r : Reading α}
    (h : r.OnCircle)
    {directive : Directive}
    {axis : Axis}
    {cosine sine : α}
    (hstep : r.step? directive = some (.turn axis cosine sine)) :
    cosine * cosine + sine * sine = Scalar.one := by
  cases directive with
  | rotate name degrees knob =>
      simp only [step?, Option.bind_eq_bind, Option.bind_eq_some_iff] at hstep
      obtain ⟨axis', -, ⟨c, s⟩, hangle, hturn⟩ := hstep
      cases hturn
      exact h _ _ _ hangle
  | _ => cases hstep

/-- Only a scaling directive takes a scaling step. -/
theorem step?_ne_scale
    (r : Reading α)
    {directive : Directive}
    (h : ∀ factors knob, directive ≠ .scale factors knob)
    (factors : Vec3 α) :
    r.step? directive ≠ some (.scale factors) := by
  intro hstep
  cases directive with
  | scale factors' knob => exact h factors' knob rfl
  | rotate name degrees knob =>
      simp only [step?, Option.bind_eq_bind, Option.bind_eq_some_iff] at hstep
      obtain ⟨axis', -, ⟨c, s⟩, -, hturn⟩ := hstep
      cases hturn
  | _ => cases hstep

end Reading

section Exact

variable {α : Type} [Scalar α] [RingScalar α]

attribute [local instance] RingScalar.commRing

open scoped Matrix

/--
The stack of a frame is the outcome of the steps of its directives, whatever they are and however
they ended.  Read in exact arithmetic with any values of the knobs, every transform on it has the
last column `(0, 0, 0, 1)`, so that transforming a buffer keeps the fourth coordinate of its
points.  If nothing was scaled, the block `R` of every transform has `R * Rᵀ = 1` and `det R = 1`,
distances between points stay the same, and so does the side from which a triangle is seen
counter-clockwise.
-/
theorem transforms_affine_and_rigid
    {σ : Type}
    (settings : Settings)
    (outlet : Outlet σ)
    (index : Int)
    (knobs : Named Float)
    (outside : σ)
    (statements : List Statement)
    (r : Reading α)
    (hcircle : r.OnCircle) :
    let start : Session σ := ⟨Frame.start settings index knobs, outside, #[]⟩
    let directives := statements.map Statement.directive
    let exact := r.stack directives
    (Drawing.attemptAll settings outlet start statements).frame.stack
        = (Reading.doubles knobs).stack directives
      ∧ (∀ m ∈ exact.toList,
        m.transpose.row3 = ⟨Scalar.zero, Scalar.zero, Scalar.zero, Scalar.one⟩
        ∧ ∀ {group : Nat} (b : PointBuffer α group), (∀ p ∈ b.points, p.w = Scalar.one) →
          ∀ p ∈ (b.transform m).points, p.w = Scalar.one)
      ∧ ((∀ factors knob, .scale factors knob ∉ directives) → ∀ m ∈ exact.toList,
        m.block * m.blockᵀ = 1
        ∧ m.block.det = 1
        ∧ (∀ p q : Point α, p.w = Scalar.one → q.w = Scalar.one →
          let offset := p.xyz - q.xyz
          let image := (m.apply p).xyz - (m.apply q).xyz
          image.dot image = offset.dot offset)
        ∧ ∀ p q t place : Point α, p.w = Scalar.one → q.w = Scalar.one → t.w = Scalar.one →
          place.w = Scalar.one →
          (surfaceNormal (m.apply p).xyz (m.apply q).xyz (m.apply t).xyz).dot
              ((m.apply place).xyz - (m.apply p).xyz)
            = (surfaceNormal p.xyz q.xyz t.xyz).dot (place.xyz - p.xyz)) := by
  intro start directives exact
  refine ⟨Drawing.stack_attemptAll settings outlet statements start, ?_, ?_⟩
  · have haffine : ∀ m ∈ exact.toList, m.IsAffine :=
      Reading.forall_stack Transform.isAffine_identity Transform.IsAffine.compose
        fun _ _ _ _ _ hfirst => ScopeStep.affine_of_elementary? hfirst
    intro m hm
    refine ⟨(haffine m hm).column, fun b hb p hp => ?_⟩
    rw [PointBuffer.points_transform] at hp
    obtain ⟨q, hq, rfl⟩ := List.mem_map.mp hp
    rw [(haffine m hm).apply_w, hb q hq]
  · intro hscale
    have hrigid : ∀ m ∈ exact.toList, m.IsRigid :=
      Reading.forall_stack Transform.isRigid_identity Transform.IsRigid.compose
        fun directive hmem step first hstep hfirst =>
          ScopeStep.rigid_of_elementary?
            (fun factors hfactors => r.step?_ne_scale
              (fun factors' knob hdirective => hscale factors' knob (hdirective ▸ hmem))
              factors (hfactors ▸ hstep))
            (fun axis c s hturn => hcircle.turn (hturn ▸ hstep)) hfirst
    intro m hm
    have h := hrigid m hm
    exact ⟨h.orthogonal, h.proper, fun p q hp hq => h.distance hp hq,
      fun p q t place hp hq ht hplace => h.orientation hp hq ht hplace⟩

attribute [local instance] Scalar.real Scalar.ringScalar_real

/-- The real numbers have a cosine and a sine for each angle. -/
theorem Reading.onCircle_real
    (knobs : Named Float) :
    (Reading.real knobs).OnCircle := by
  intro degrees cosine sine h
  cases h
  rw [← sq, ← sq, Real.cos_sq_add_sin_sq, Scalar.one_real]

/-- A turn by an angle from a knob, inside a scope that was moved, read as real numbers. -/
theorem transforms_affine_and_rigid_turned :
    let knobs : Named Float := [([.char 'k'], 2)]
    let directives : List Directive :=
      [.move ⟨1, 2, 3⟩ none, .push, .rotate [.char 'y'] 30 (some [.char 'k'])]
    let p : Point ℝ := .ofVec ⟨3, 0, 0⟩
    let q : Point ℝ := .ofVec ⟨0, 4, 0⟩
    let edge : EdgeBuffer ℝ := EdgeBuffer.addEdge PointBuffer.empty p.xyz q.xyz
    (Reading.real knobs).OnCircle
      ∧ ∀ m ∈ ((Reading.real knobs).stack directives).toList,
        m.IsRigid
        ∧ (∀ image ∈ (edge.transform m).points, image.w = Scalar.one)
        ∧ ((m.apply p).xyz - (m.apply q).xyz).dot ((m.apply p).xyz - (m.apply q).xyz) = 25 := by
  intro knobs directives p q edge
  have hcircle := Reading.onCircle_real knobs
  obtain ⟨-, haffine, hrigid⟩ := transforms_affine_and_rigid {} Outlet.accepting 0 knobs ()
    (directives.map (Statement.mk 1)) (Reading.real knobs) hcircle
  have hedge : ∀ corner ∈ edge.points, corner.w = Scalar.one := by
    simp [edge, EdgeBuffer.addEdge, PointBuffer.empty, Point.ofVec]
  refine ⟨hcircle, fun m hm => ?_⟩
  obtain ⟨horthogonal, hproper, hdistance, -⟩ := hrigid (by simp [directives]) m hm
  refine ⟨⟨⟨(haffine m hm).1⟩, horthogonal, hproper⟩, (haffine m hm).2 edge hedge, ?_⟩
  refine (hdistance p q rfl rfl).trans ?_
  simp only [p, q, Point.ofVec, Point.xyz, Vec3.dot, Vec3.sub_eq]
  norm_num

end Exact
end Diorama
