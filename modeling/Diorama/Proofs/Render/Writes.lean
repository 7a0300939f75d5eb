import Diorama.Proofs.Render.Replay
import Diorama.Proofs.Render.Steps
import Mathlib.Control.Monad.Basic

/-!
# What a run writes

The files of a run are written in the order of its write log.  Where the outlet refuses a picture,
the run ends with an error of saving that names the frame and, for the picture of a `save`
directive, its line; what was written is the part of the log in front of the refused picture.

A step *writes* a list of pictures when it writes all of them, or stops at one that is refused, or
crashes after some of them.  Steps one after the other write their lists one after the other.

**Main statements.**
* `Drawing.Wrote.after`, `Running.Wrote.cons`: lists one after the other.
* `Drawing.wrote_body`, `Running.wrote_frame`, `Running.wrote_frames`: replays, frames and runs.
* `write_log`: a run that does not crash follows its write log.
-/

namespace Diorama

/-- A picture that a run writes: its frame, the line of its directive if it has one, its path. -/
structure Write where
  frame : Nat
  line : Option Int
  path : Path

namespace Settings

variable (settings : Settings) (statements : List Statement) (animation : Animation)

/-- What the `save` directives of statements write on a frame. -/
def saves
    (index : Nat)
    (statements : List Statement) :
    List Write :=
  statements.filterMap fun statement =>
    (settings.savePath? statement).map fun path => ⟨index, some statement.line, path⟩

/-- What a frame writes: its `save` directives, and in an animation the picture of the frame. -/
def frameWrites
    (index : Nat) :
    List Write :=
  settings.saves index (Script.body statements)
    ++ (if animation.isAnimated then [⟨index, none, settings.framePath animation index⟩] else [])

/-- What a run writes. -/
def writes : List Write :=
  (List.range animation.framesToRender).flatMap (settings.frameWrites statements animation)

/-- The paths of the writes are the write log. -/
theorem writes_map_path
    (hscan : Animation.scan statements settings.output.basename = animation) :
    (settings.writes statements animation).map Write.path = settings.writeLog statements := by
  subst hscan
  have hframe : ∀ index, (settings.frameWrites statements
        (Animation.scan statements settings.output.basename) index).map Write.path
      = settings.framePaths statements
        (Animation.scan statements settings.output.basename) index := by
    intro index
    have hsaves : (settings.saves index (Script.body statements)).map Write.path
        = (Script.body statements).filterMap settings.savePath? := by
      simp only [saves, List.map_filterMap, Option.map_map]
      congr 1
      funext statement
      cases settings.savePath? statement <;> rfl
    simp only [frameWrites, framePaths, List.map_append, hsaves]
    split <;> rfl
  simp only [writes, writeLog, List.map_flatMap, hframe]

theorem frame_of_mem_frameWrites
    {index : Nat}
    {write : Write}
    (h : write ∈ settings.frameWrites statements animation index) :
    write.frame = index := by
  rcases List.mem_append.mp h with hsave | hpicture
  · obtain ⟨statement, _, hwrite⟩ := List.mem_filterMap.mp hsave
    obtain ⟨path, _, rfl⟩ := Option.map_eq_some_iff.mp hwrite
    rfl
  · split at hpicture
    · obtain rfl := List.mem_singleton.mp hpicture
      rfl
    · cases hpicture

end Settings

/-- A failure of saving that is an error, and whose place is left open. -/
def SaveFailure.Fresh : SaveFailure → Prop
  | .system _ => True
  | .script error =>
      error.fault.kind = .persistenceFailure ∧ error.line = none ∧ error.frame = none
  | .crash _ => False

/-- A fresh failure becomes an error of saving without a place. -/
theorem SaveFailure.Fresh.ofSave
    {failure : SaveFailure}
    (h : failure.Fresh)
    (path : Path) :
    ∃ error, Failure.ofSave path failure = .script error
      ∧ error.fault.kind = .persistenceFailure ∧ error.line = none ∧ error.frame = none := by
  cases failure with
  | system text => exact ⟨_, rfl, rfl, rfl, rfl⟩
  | script error => exact ⟨error, rfl, h⟩
  | crash cause => cases h

theorem Failure.place_of_frame_none
    (animated : Bool)
    (error : ScriptError)
    (h : error.frame = none)
    (index : Int) :
    (if animated then (Failure.script error).withFrame index else .script error)
      = .script { error with frame := if animated then some index else none } := by
  cases animated with
  | true => simp [withFrame, ScriptError.withFrame, h]
  | false => simp [← h]

variable {σ : Type}

/--
An outlet that takes pictures under their paths except for one at most: where there is a `refused`
call, it fails on that one, counted from zero.
-/
structure Outlet.Refuses
    (outlet : Outlet σ)
    (calls : σ → Nat)
    (refused : Option Nat) : Prop where
  takes : ∀ canvas path s, refused ≠ some (calls s) →
    (outlet.save canvas path s).1 = .ok path
  fails : ∀ canvas path s, refused = some (calls s) →
    ∃ failure, (outlet.save canvas path s).1 = .error failure ∧ failure.Fresh
  save : ∀ canvas path s, calls (outlet.save canvas path s).2 = calls s + 1
  present : ∀ canvas s, calls (outlet.present canvas s).2 = calls s

/-- None of the next calls is the refused one. -/
def Takes
    (refused : Option Nat)
    (start count : Nat) :
    Prop :=
  ∀ i < count, refused ≠ some (start + i)

theorem takes_zero
    (refused : Option Nat)
    (start : Nat) :
    Takes refused start 0 :=
  fun i hi => absurd hi (Nat.not_lt_zero i)

theorem takes_one
    {refused : Option Nat}
    {start : Nat}
    (h : refused ≠ some start) :
    Takes refused start 1 := by
  intro i hi
  obtain rfl : i = 0 := Nat.lt_one_iff.mp hi
  exact h

/-- What an outlet answers: it takes a picture, or the call is the refused one. -/
theorem Outlet.Refuses.answer
    {outlet : Outlet σ}
    {calls : σ → Nat}
    {refused : Option Nat}
    (h : outlet.Refuses calls refused)
    (canvas : Canvas Float)
    (path : Path)
    (s : σ) :
    (Takes refused (calls s) 1 ∧ ∃ t, outlet.save canvas path s = (.ok path, t)
        ∧ calls t = calls s + 1)
      ∨ (refused = some (calls s) ∧ ∃ failure t, outlet.save canvas path s = (.error failure, t)
        ∧ failure.Fresh) := by
  by_cases hcall : refused = some (calls s)
  · obtain ⟨failure, hfailure, hfresh⟩ := h.fails canvas path s hcall
    exact .inr ⟨hcall, failure, (outlet.save canvas path s).2, by rw [← hfailure], hfresh⟩
  · have htaken := h.takes canvas path s hcall
    have hcalls := h.save canvas path s
    exact .inl ⟨takes_one hcall, (outlet.save canvas path s).2, by rw [← htaken], hcalls⟩

theorem Takes.append
    {refused : Option Nat}
    {start first rest : Nat}
    (hfirst : Takes refused start first)
    (hrest : Takes refused (start + first) rest) :
    Takes refused start (first + rest) := by
  intro i hi
  by_cases hlow : i < first
  · exact hfirst i hlow
  · obtain ⟨j, rfl⟩ := Nat.exists_eq_add_of_le (Nat.le_of_not_lt hlow)
    rw [← Nat.add_assoc]
    exact hrest j (by omega)

namespace Drawing

variable {calls : σ → Nat} {refused : Option Nat}

/-- What becomes of the writes of a drawing step. -/
inductive Wrote
    (calls : σ → Nat)
    (refused : Option Nat)
    (writes : List Write)
    (s : Session σ) :
    EStateM.Result Failure (Session σ) Unit → Prop
  | all
      {t : Session σ}
      (takes : Takes refused (calls s.outside) writes.length)
      (count : calls t.outside = calls s.outside + writes.length)
      (written : t.frame.written = s.frame.written ++ writes.map Write.path) :
      Wrote calls refused writes s (.ok () t)
  | stopped
      {i : Nat}
      {write : Write}
      {error : ScriptError}
      {t : Session σ}
      (hit : writes[i]? = some write)
      (limit : refused = some (calls s.outside + i))
      (kind : error.fault.kind = .persistenceFailure)
      (line : error.line = write.line)
      (frame : error.frame = none)
      (written : t.frame.written = s.frame.written ++ (writes.take i).map Write.path) :
      Wrote calls refused writes s (.error (.script error) t)
  | crashed
      {i : Nat}
      {cause : Crash}
      {t : Session σ}
      (bound : i ≤ writes.length)
      (takes : Takes refused (calls s.outside) i)
      (written : t.frame.written = s.frame.written ++ (writes.take i).map Write.path) :
      Wrote calls refused writes s (.error (.crash cause) t)

/-- Writes that were all made are followed by those of what comes after. -/
theorem Wrote.after
    {first rest : List Write}
    {s t : Session σ}
    {result : EStateM.Result Failure (Session σ) Unit}
    (htakes : Takes refused (calls s.outside) first.length)
    (hcount : calls t.outside = calls s.outside + first.length)
    (hwritten : t.frame.written = s.frame.written ++ first.map Write.path)
    (h : Wrote calls refused rest t result) :
    Wrote calls refused (first ++ rest) s result := by
  have htake : ∀ i, s.frame.written ++ ((first ++ rest).take (first.length + i)).map Write.path
      = t.frame.written ++ (rest.take i).map Write.path := by
    intro i
    rw [List.take_length_add_append, List.map_append, hwritten, List.append_assoc]
  cases h with
  | all takes count written =>
      refine .all ?_ ?_ ?_
      · rw [List.length_append]
        exact htakes.append (hcount ▸ takes)
      · rw [count, hcount, List.length_append, Nat.add_assoc]
      · rw [written, hwritten, List.map_append, List.append_assoc]
  | @stopped i write error u hit limit kind line frame written =>
      refine .stopped (i := first.length + i) ?_ ?_ kind line frame ?_
      · rw [List.getElem?_append_right (Nat.le_add_right _ _), Nat.add_sub_cancel_left]
        exact hit
      · rw [limit, hcount, Nat.add_assoc]
      · rw [written, htake]
  | @crashed i cause u bound takes written =>
      refine .crashed (i := first.length + i) ?_ (htakes.append (hcount ▸ takes)) ?_
      · rw [List.length_append]
        omega
      · rw [written, htake]

/-- Drawing and showing make no call to save. -/
theorem calls_of_keeps
    {outlet : Outlet σ}
    {s t : Session σ}
    (houtlet : outlet.Refuses calls refused)
    (hkeeps : s.Keeps outlet t) :
    calls t.outside = calls s.outside := by
  rcases hkeeps.outside with hsame | ⟨canvas, hshown⟩
  · rw [hsame]
  · rw [hshown, houtlet.present]

/-- The picture of a frame, whose write has no line. -/
theorem wrote_save
    {outlet : Outlet σ}
    (houtlet : outlet.Refuses calls refused)
    (index : Nat)
    (path : Path)
    (s : Session σ) :
    Wrote calls refused [⟨index, none, path⟩] s (save outlet path s) := by
  rcases houtlet.answer s.frame.canvas path s.outside with
    ⟨htakes, outside, hanswer, hcalls⟩ | ⟨hcall, failure, outside, hanswer, hfresh⟩
  · simp only [save, hanswer]
    exact .all htakes hcalls rfl
  · obtain ⟨error, herror, hkind, hline, hframe⟩ := hfresh.ofSave path
    simp only [save, hanswer, herror]
    exact .stopped (i := 0) rfl hcall hkind hline hframe (by simp)

/-- A replay of a sound rest of a script writes what its `save` directives write. -/
theorem wrote_body
    {settings : Settings}
    {outlet : Outlet σ}
    {before rest : List Statement}
    {s : Session σ}
    (houtlet : outlet.Refuses calls refused)
    (hfollows : s.frame.Follows before)
    (hsound : Script.Sound before rest)
    (index : Nat) :
    Wrote calls refused (settings.saves index rest) s (rest.forM (execute settings outlet) s) := by
  induction rest generalizing before s with
  | nil => exact .all (takes_zero _ _) rfl (by simp [Settings.saves])
  | cons statement rest ih =>
      obtain ⟨hfirst, hrest⟩ := (Script.sound_cons_iff before rest statement).mp hsound
      rw [forM_cons]
      cases hsave : settings.savePath? statement with
      | none =>
          have hsaves : settings.saves index (statement :: rest) = settings.saves index rest := by
            simp [Settings.saves, hsave]
          have hexecuted : Executed outlet before statement s
              (execute settings outlet statement s) :=
            executed hfollows hsave
          rw [hsaves]
          generalize execute settings outlet statement s = result at hexecuted
          cases hexecuted with
          | done sound turns keeps follows =>
              have hcalls := calls_of_keeps houtlet keeps
              rw [← List.nil_append (settings.saves index rest)]
              refine Wrote.after (takes_zero _ _) hcalls ?_ (ih follows hrest)
              simp [keeps.written]
          | refused offends keeps =>
              rw [hfirst] at offends
              cases offends
          | crashed sound turns keeps =>
              refine .crashed (Nat.zero_le _) (takes_zero _ _) ?_
              simp [keeps.written]
      | some path =>
          have hsaves : settings.saves index (statement :: rest)
              = [⟨index, some statement.line, path⟩] ++ settings.saves index rest := by
            simp [Settings.saves, hsave]
          rw [hsaves]
          rcases houtlet.answer s.frame.canvas path s.outside with
            ⟨htakes, outside, hanswer, hcalls⟩ | ⟨hcall, failure, outside, hanswer, hfresh⟩
          · obtain ⟨notices, hdone, hnext⟩ := execute_save_ok hfollows hsave hanswer
            rw [hdone]
            refine Wrote.after htakes ?_ ?_ (ih hnext hrest)
            · exact hcalls
            · rfl
          · obtain ⟨error, herror, hkind, hline, hframe⟩ := hfresh.ofSave path
            have hfatal : error.fault.kind.isFatal = true := by rw [hkind]; rfl
            obtain ⟨notices, hstopped⟩ := execute_save_error hsave hanswer herror hfatal
            rw [hstopped]
            refine .stopped (i := 0) rfl hcall hkind ?_ hframe ?_
            · simp [ScriptError.withLine, hline]
            · simp

end Drawing

namespace Running

variable {calls : σ → Nat} {refused : Option Nat} {outlet : Outlet σ} {statements : List Statement}

theorem wrote_drawing
    (houtlet : outlet.Refuses calls refused)
    (hsound : Script.Sound [] (Script.body statements))
    (settings : Settings)
    (animation : Animation)
    (index : Nat)
    (s : Session σ)
    (hstart : s.frame.Follows []) :
    Drawing.Wrote calls refused (settings.frameWrites statements animation index) s
      (drawing settings outlet statements animation index s) := by
  have hreplay : Drawing.Wrote calls refused (settings.saves index (Script.body statements)) s
      (Drawing.replay settings outlet statements s) := by
    rw [Drawing.replay_eq_forM]
    exact Drawing.wrote_body houtlet hstart hsound index
  simp only [drawing, bind, EStateM.bind, Settings.frameWrites]
  generalize Drawing.replay settings outlet statements s = result at hreplay
  cases hreplay with
  | @all t takes count written =>
      refine Drawing.Wrote.after takes count written ?_
      cases animation.isAnimated with
      | true => exact Drawing.wrote_save houtlet index (settings.framePath animation index) t
      | false => exact .all (takes_zero _ _) rfl (by simp)
  | @stopped i write error t hit limit kind line frame written =>
      have hbound : i < (settings.saves index (Script.body statements)).length :=
        (List.getElem?_eq_some_iff.mp hit).1
      refine .stopped ?_ limit kind line frame ?_
      · rw [List.getElem?_append_left hbound]
        exact hit
      · rw [written, List.take_append_of_le_length (Nat.le_of_lt hbound)]
  | @crashed i cause t bound takes written =>
      refine .crashed ?_ takes ?_
      · rw [List.length_append]
        omega
      · rw [written, List.take_append_of_le_length bound]

/-- What becomes of the writes of the frames of a run. -/
inductive Wrote
    (calls : σ → Nat)
    (refused : Option Nat)
    (frameWrites : Nat → List Write)
    (indices : List Nat)
    (p : Progress σ) :
    EStateM.Result Failure (Progress σ) Unit → Prop
  | all
      {q : Progress σ}
      (animation : q.result.animation = p.result.animation)
      (takes : Takes refused (calls p.outside) (indices.flatMap frameWrites).length)
      (count : calls q.outside = calls p.outside + (indices.flatMap frameWrites).length)
      (written : q.result.written
        = p.result.written ++ (indices.flatMap frameWrites).map Write.path)
      (frames : q.result.frameCount = p.result.frameCount + indices.length) :
      Wrote calls refused frameWrites indices p (.ok () q)
  | stopped
      {done later : List Nat}
      {index i : Nat}
      {write : Write}
      {error : ScriptError}
      {q : Progress σ}
      (split : indices = done ++ index :: later)
      (hit : (frameWrites index)[i]? = some write)
      (limit : refused = some (calls p.outside + ((done.flatMap frameWrites).length + i)))
      (kind : error.fault.kind = .persistenceFailure)
      (line : error.line = write.line)
      (frame : error.frame = if p.result.animation.isAnimated then some (index : Int) else none)
      (written : q.result.written = p.result.written
        ++ ((indices.flatMap frameWrites).take ((done.flatMap frameWrites).length + i)).map
          Write.path)
      (frames : q.result.frameCount = p.result.frameCount + done.length) :
      Wrote calls refused frameWrites indices p (.error (.script error) q)
  | crashed
      {i : Nat}
      {cause : Crash}
      {q : Progress σ}
      (bound : i ≤ (indices.flatMap frameWrites).length)
      (takes : Takes refused (calls p.outside) i)
      (written : q.result.written
        = p.result.written ++ ((indices.flatMap frameWrites).take i).map Write.path) :
      Wrote calls refused frameWrites indices p (.error (.crash cause) q)

/-- A frame of a sound script writes what belongs to it. -/
theorem wrote_frame
    (houtlet : outlet.Refuses calls refused)
    (hsound : Script.Sound [] (Script.body statements))
    (settings : Settings)
    (index : Nat)
    (p : Progress σ) :
    Wrote calls refused (settings.frameWrites statements p.result.animation) [index] p
      (frame settings outlet statements index p) := by
  have hdrawing := wrote_drawing houtlet hsound settings p.result.animation index
    ⟨Frame.start settings index (p.result.knobs.valuesOn index), p.outside, #[]⟩
    (Frame.follows_start settings index _)
  have hwrites : [index].flatMap (settings.frameWrites statements p.result.animation)
      = settings.frameWrites statements p.result.animation index := by simp
  simp only [frame]
  generalize drawing settings outlet statements p.result.animation index _ = result at hdrawing
  cases hdrawing with
  | @all t takes count written =>
      refine .all rfl ?_ ?_ ?_ rfl
      · rw [hwrites]
        exact takes
      · rw [hwrites]
        exact count
      · rw [hwrites]
        exact congrArg (p.result.written ++ ·) written
  | @stopped i write error t hit limit kind line frame written =>
      simp only [Failure.place_of_frame_none _ error frame]
      have hsplit : [index] = [] ++ index :: [] := rfl
      refine .stopped hsplit hit ?_ kind line rfl ?_ rfl
      · simpa using limit
      · rw [hwrites, List.flatMap_nil, List.length_nil, Nat.zero_add]
        exact congrArg (p.result.written ++ ·) written
  | @crashed i cause t bound takes written =>
      simp only [Failure.withFrame, ite_self]
      refine .crashed ?_ takes ?_
      · rw [hwrites]
        exact bound
      · rw [hwrites]
        exact congrArg (p.result.written ++ ·) written

/-- A frame that wrote everything is followed by what the other frames write. -/
theorem Wrote.cons
    {frameWrites : Nat → List Write}
    {index : Nat}
    {rest : List Nat}
    {p q : Progress σ}
    {result : EStateM.Result Failure (Progress σ) Unit}
    (hfirst : Wrote calls refused frameWrites [index] p (.ok () q))
    (h : Wrote calls refused frameWrites rest q result) :
    Wrote calls refused frameWrites (index :: rest) p result := by
  have hsingle : [index].flatMap frameWrites = frameWrites index := by simp
  cases hfirst with
  | all hanimation htakes hcount hwritten hframes =>
      rw [hsingle] at htakes hcount hwritten
      have htake : ∀ i, p.result.written
          ++ (((index :: rest).flatMap frameWrites).take ((frameWrites index).length + i)).map
            Write.path
          = q.result.written ++ ((rest.flatMap frameWrites).take i).map Write.path := by
        intro i
        rw [List.flatMap_cons, List.take_length_add_append, List.map_append, hwritten,
          List.append_assoc]
      cases h with
      | all animation takes count written frames =>
          refine .all (animation.trans hanimation) ?_ ?_ ?_ ?_
          · rw [List.flatMap_cons, List.length_append]
            exact htakes.append (hcount ▸ takes)
          · rw [count, hcount, List.flatMap_cons, List.length_append, Nat.add_assoc]
          · rw [written, hwritten, List.flatMap_cons, List.map_append, List.append_assoc]
          · rw [frames, hframes]
            simp only [List.length_cons, List.length_nil]
            omega
      | @stopped done later other i write error u split hit limit kind line frame written frames =>
          have hsplit : index :: rest = (index :: done) ++ other :: later := by
            rw [split, List.cons_append]
          have hoffset : ((index :: done).flatMap frameWrites).length + i
              = (frameWrites index).length + ((done.flatMap frameWrites).length + i) := by
            rw [List.flatMap_cons, List.length_append, Nat.add_assoc]
          refine .stopped hsplit hit ?_ kind line ?_ ?_ ?_
          · rw [limit, hcount, hoffset, Nat.add_assoc]
          · rw [frame, hanimation]
          · rw [hoffset, htake, written]
          · rw [frames, hframes]
            simp only [List.length_cons, List.length_nil]
            omega
      | @crashed i cause u bound takes written =>
          have htaken := htakes.append (hcount ▸ takes)
          refine .crashed (i := (frameWrites index).length + i) ?_ htaken ?_
          · rw [List.flatMap_cons, List.length_append]
            omega
          · rw [htake, written]

/-- Frames that come too late change nothing about where a run stops. -/
theorem Wrote.before
    {frameWrites : Nat → List Write}
    {indices : List Nat}
    {p q : Progress σ}
    {failure : Failure}
    (h : Wrote calls refused frameWrites indices p (.error failure q))
    (rest : List Nat) :
    Wrote calls refused frameWrites (indices ++ rest) p (.error failure q) := by
  cases h with
  | @stopped done later index i write error _ split hit limit kind line frame written frames =>
      have hsplit : indices ++ rest = done ++ index :: (later ++ rest) := by
        rw [split, List.append_assoc, List.cons_append]
      have hbound : (done.flatMap frameWrites).length + i
          ≤ (indices.flatMap frameWrites).length := by
        have hi : i < (frameWrites index).length := (List.getElem?_eq_some_iff.mp hit).1
        rw [split, List.flatMap_append, List.flatMap_cons, List.length_append, List.length_append]
        omega
      refine .stopped hsplit hit limit kind line frame ?_ frames
      rw [written, List.flatMap_append, List.take_append_of_le_length hbound]
  | crashed bound takes written =>
      refine .crashed ?_ takes ?_
      · rw [List.flatMap_append, List.length_append]
        omega
      · rw [written, List.flatMap_append, List.take_append_of_le_length bound]

/-- The frames of a sound script write what belongs to them, one after the other. -/
theorem wrote_frames
    (houtlet : outlet.Refuses calls refused)
    (hsound : Script.Sound [] (Script.body statements))
    (settings : Settings)
    (indices : List Nat)
    (p : Progress σ) :
    Wrote calls refused (settings.frameWrites statements p.result.animation) indices p
      (frames settings outlet statements indices p) := by
  induction indices generalizing p with
  | nil => exact .all rfl (takes_zero _ _) rfl (by simp) rfl
  | cons index rest ih =>
      have hframe := wrote_frame houtlet hsound settings index p
      simp only [frames, bind, EStateM.bind]
      generalize frame settings outlet statements index p = result at hframe
      cases result with
      | ok _ q =>
          have hanimation : q.result.animation = p.result.animation := by
            cases hframe with
            | all animation => exact animation
          exact hframe.cons (hanimation ▸ ih q)
      | error failure q => exact hframe.before rest

end Running

/-- The number of frames all of whose writes are among the first `made` ones. -/
def completedFrames
    (writes : List Write)
    (made total : Nat) :
    Nat :=
  (List.range total).countP fun index => (writes.drop made).all fun write => write.frame != index

section Completed

variable {frameWrites : Nat → List Write} {done later : List Nat} {total index i : Nat}

/-- The frames in front of one of the frames of a run are those with smaller numbers. -/
theorem length_of_range_eq
    (h : List.range total = done ++ index :: later) :
    done.length = index := by
  have hlookup : (List.range total)[done.length]? = some index := by
    rw [h, List.getElem?_append_right (Nat.le_refl _), Nat.sub_self, List.getElem?_cons_zero]
  obtain ⟨hbound, hindex⟩ := List.getElem?_eq_some_iff.mp hlookup
  rw [List.getElem_range] at hindex
  exact hindex

/-- Where a write of a frame is the first that is not made, the frames in front are completed. -/
theorem completedFrames_eq
    {write : Write}
    (hrange : List.range total = done ++ index :: later)
    (hframe : ∀ f, ∀ w ∈ frameWrites f, w.frame = f)
    (hlater : ∀ f ∈ later, frameWrites f ≠ [])
    (hhit : (frameWrites index)[i]? = some write) :
    completedFrames ((List.range total).flatMap frameWrites)
      ((done.flatMap frameWrites).length + i) total = done.length := by
  obtain ⟨hbound, hwrite⟩ := List.getElem?_eq_some_iff.mp hhit
  have hrest : ((List.range total).flatMap frameWrites).drop ((done.flatMap frameWrites).length + i)
      = (frameWrites index).drop i ++ later.flatMap frameWrites := by
    rw [hrange, List.flatMap_append, List.flatMap_cons, List.drop_length_add_append,
      List.drop_append_of_le_length (Nat.le_of_lt hbound)]
  have hnodup : (done ++ index :: later).Nodup := hrange ▸ List.nodup_range
  have hcompleted : ∀ f ∈ done,
      ((frameWrites index).drop i ++ later.flatMap frameWrites).all (fun w => w.frame != f)
        = true := by
    intro f hf
    rw [List.all_eq_true]
    intro w hw
    have hmem : w.frame ∈ index :: later := by
      rcases List.mem_append.mp hw with hfirst | hsecond
      · rw [hframe index w (List.mem_of_mem_drop hfirst)]
        exact List.mem_cons_self
      · obtain ⟨g, hg, hwg⟩ := List.mem_flatMap.mp hsecond
        rw [hframe g w hwg]
        exact List.mem_cons_of_mem _ hg
    have hne : w.frame ≠ f := fun heq =>
      (List.nodup_append.mp hnodup).2.2 f hf w.frame hmem heq.symm
    simpa using hne
  have hopen : ∀ f ∈ index :: later,
      ¬((frameWrites index).drop i ++ later.flatMap frameWrites).all (fun w => w.frame != f)
        = true := by
    intro f hf hall
    rw [List.all_eq_true] at hall
    have hwitness : ∃ w ∈ (frameWrites index).drop i ++ later.flatMap frameWrites, w.frame = f := by
      rcases List.mem_cons.mp hf with rfl | hlate
      · refine ⟨write, List.mem_append_left _ ?_, ?_⟩
        · rw [List.drop_eq_getElem_cons hbound, hwrite]
          exact List.mem_cons_self
        · exact hframe f write (hwrite ▸ List.getElem_mem hbound)
      · obtain ⟨w, hw⟩ := List.exists_mem_of_ne_nil _ (hlater f hlate)
        exact ⟨w, List.mem_append_right _ (List.mem_flatMap.mpr ⟨f, hlate, hw⟩), hframe f w hw⟩
    obtain ⟨w, hw, hwf⟩ := hwitness
    have hne := hall w hw
    simp [hwf] at hne
  unfold completedFrames
  rw [hrest, hrange, List.countP_append, List.countP_eq_length.mpr hcompleted,
    List.countP_eq_zero.mpr hopen, Nat.add_zero]

end Completed

/-- In an animation every frame writes something, and a still script has one frame. -/
theorem Settings.frameWrites_ne_nil
    {settings : Settings}
    {statements : List Statement}
    {animation : Animation}
    {done later : List Nat}
    {index : Nat}
    (hrange : List.range animation.framesToRender = done ++ index :: later) :
    ∀ f ∈ later, settings.frameWrites statements animation f ≠ [] := by
  intro f hf
  cases hcount : animation.frameCount with
  | some count =>
      have hanimated : animation.isAnimated = true := by simp [Animation.isAnimated, hcount]
      simp [frameWrites, hanimated]
  | none =>
      have hlength := congrArg List.length hrange
      simp only [Animation.framesToRender, hcount, Option.getD_none, List.length_range,
        List.length_append, List.length_cons] at hlength
      have hempty : later = [] := List.length_eq_zero_iff.mp (by omega)
      rw [hempty] at hf
      cases hf

/--
A run that follows its write log: it writes all of the log, or it stops at the refused write with
an error of saving that names the line and the frame of that write.
-/
structure RunOutcome.FollowsLog
    (outcome : RunOutcome σ)
    (settings : Settings)
    (statements : List Statement)
    (animation : Animation)
    (refused : Option Nat) : Prop where
  finished : (∀ i < (settings.writeLog statements).length, refused ≠ some i) →
    outcome.failure = none ∧
      ∃ result, outcome.result = some result
        ∧ result.written = settings.writeLog statements
        ∧ result.frameCount = animation.framesToRender
  stopped : ∀ i write, refused = some i →
    (settings.writes statements animation)[i]? = some write →
    ∃ error result, outcome.failure = some (.script error) ∧ outcome.result = some result
      ∧ error.fault.kind = .persistenceFailure
      ∧ error.line = write.line
      ∧ error.frame = (if animation.isAnimated then some (result.frameCount : Int) else none)
      ∧ result.written = (settings.writeLog statements).take i
      ∧ result.frameCount = write.frame
      ∧ result.frameCount
        = completedFrames (settings.writes statements animation) i animation.framesToRender

section Logs

variable {settings : Settings} {statements : List Statement} {animation : Animation}
  {refused : Option Nat}

theorem RunOutcome.not_followsLog_of_crash
    {outcome : RunOutcome σ}
    {cause : Crash}
    (hscan : Animation.scan statements settings.output.basename = animation)
    (hfailure : outcome.failure = some (.crash cause)) :
    ¬outcome.FollowsLog settings statements animation refused := by
  intro hlog
  by_cases hstopped : ∃ i < (settings.writeLog statements).length, refused = some i
  case neg =>
    have hnone := (hlog.finished fun i hi hrefused => hstopped ⟨i, hi, hrefused⟩).1
    rw [hfailure] at hnone
    cases hnone
  case pos =>
    obtain ⟨i, hi, hrefused⟩ := hstopped
    rw [← settings.writes_map_path statements animation hscan, List.length_map] at hi
    obtain ⟨error, result, hscript, _⟩ :=
      hlog.stopped i _ hrefused (List.getElem?_eq_getElem hi)
    rw [hfailure] at hscript
    cases hscript

/-- Frames that write one after the other make a run that follows its log, unless it crashes. -/
theorem RunOutcome.followsLog_ofFrames
    {calls : σ → Nat}
    {p : Progress σ}
    {result : EStateM.Result Failure (Progress σ) Unit}
    (hscan : Animation.scan statements settings.output.basename = animation)
    (hanimation : p.result.animation = animation)
    (hcount : p.result.frameCount = 0)
    (hwritten : p.result.written = [])
    (hcalls : calls p.outside = 0)
    (hframes : Running.Wrote calls refused (settings.frameWrites statements animation)
      (List.range animation.framesToRender) p result)
    (hcrash : ∀ cause, (ofFrames result).failure ≠ some (.crash cause)) :
    (ofFrames result).FollowsLog settings statements animation refused := by
  have hlog := settings.writes_map_path statements animation hscan
  have hlength : (settings.writeLog statements).length
      = (settings.writes statements animation).length := by
    rw [← hlog, List.length_map]
  cases hframes with
  | @all q _ takes count written frames =>
      refine ⟨fun _ => ⟨rfl, q.result, rfl, ?_, ?_⟩, ?_⟩
      · rw [written, hwritten, List.nil_append]
        exact hlog
      · rw [frames, hcount, List.length_range, Nat.zero_add]
      · intro i write hrefused hhit
        obtain ⟨hbound, _⟩ := List.getElem?_eq_some_iff.mp hhit
        have htaken := takes i hbound
        rw [hcalls, Nat.zero_add] at htaken
        exact absurd hrefused htaken
  | @stopped done later index i write error q split hit limit kind line frame written frames =>
      have hindex : done.length = index := length_of_range_eq split
      have hposition : (settings.writes statements animation)[
          (done.flatMap (settings.frameWrites statements animation)).length + i]? = some write := by
        obtain ⟨hbound, _⟩ := List.getElem?_eq_some_iff.mp hit
        rw [Settings.writes, split, List.flatMap_append, List.flatMap_cons,
          List.getElem?_append_right (Nat.le_add_right _ _), Nat.add_sub_cancel_left,
          List.getElem?_append_left hbound]
        exact hit
      rw [hcalls, Nat.zero_add] at limit
      refine ⟨?_, ?_⟩
      · intro hfinished
        obtain ⟨hbound, _⟩ := List.getElem?_eq_some_iff.mp hposition
        exact absurd limit (hfinished _ (hlength ▸ hbound))
      · intro j other hrefused hhit
        obtain rfl : (done.flatMap (settings.frameWrites statements animation)).length + i = j :=
          Option.some.inj (limit.symm.trans hrefused)
        obtain rfl : write = other := Option.some.inj (hposition.symm.trans hhit)
        have hframeCount : q.result.frameCount = index := by
          rw [frames, hcount, Nat.zero_add, hindex]
        have hwrite : write.frame = index :=
          settings.frame_of_mem_frameWrites statements animation (List.mem_of_getElem? hit)
        refine ⟨error, q.result, rfl, rfl, kind, line, ?_, ?_, ?_, ?_⟩
        · rw [frame, hanimation, hframeCount]
        · rw [written, hwritten, List.nil_append, List.map_take]
          exact congrArg (List.take _) hlog
        · rw [hframeCount, hwrite]
        · have hcompleted := completedFrames_eq split
            (fun f w hw => settings.frame_of_mem_frameWrites statements animation hw)
            (Settings.frameWrites_ne_nil split) hit
          rw [hframeCount, ← hindex]
          exact hcompleted.symm
  | @crashed i cause q bound takes written => exact absurd rfl (hcrash cause)

/-- A run that crashes has written a part of its log. -/
theorem RunOutcome.written_of_crash
    {calls : σ → Nat}
    {p : Progress σ}
    {result : EStateM.Result Failure (Progress σ) Unit}
    {cause : Crash}
    (hscan : Animation.scan statements settings.output.basename = animation)
    (hwritten : p.result.written = [])
    (hcalls : calls p.outside = 0)
    (hframes : Running.Wrote calls refused (settings.frameWrites statements animation)
      (List.range animation.framesToRender) p result)
    (hcrash : (ofFrames result).failure = some (.crash cause)) :
    ∃ run made, (ofFrames result).result = some run
      ∧ made ≤ (settings.writeLog statements).length
      ∧ (∀ i < made, refused ≠ some i)
      ∧ run.written = (settings.writeLog statements).take made := by
  have hlog := settings.writes_map_path statements animation hscan
  cases hframes with
  | all animation takes count written frames => cases hcrash
  | stopped split hit limit kind line frame written frames => cases hcrash
  | @crashed i _ q bound takes written =>
      refine ⟨q.result, i, rfl, ?_, ?_, ?_⟩
      · rw [← hlog, List.length_map]
        exact bound
      · intro j hj
        have htaken := takes j hj
        rw [hcalls, Nat.zero_add] at htaken
        exact htaken
      · rw [written, hwritten, List.nil_append, List.map_take]
        exact congrArg (List.take i) hlog

end Logs

/--
A run of a script that does not offend follows its write log exactly where it does not crash.  A run
that crashes has written a part of the log, and its outlet refused none of it.
-/
theorem write_log
    {outlet : Outlet σ}
    {calls : σ → Nat}
    {refused : Option Nat}
    {statements : List Statement}
    {knobs : KnobTable}
    (settings : Settings)
    (outside : σ)
    (houtlet : outlet.Refuses calls refused)
    (hstart : calls outside = 0)
    (hknobs : (Animation.scan statements settings.output.basename).knobTable statements = .ok knobs)
    (hsound : Script.Sound [] (Script.body statements)) :
    let animation := Animation.scan statements settings.output.basename
    let outcome := run settings outlet statements outside
    (outcome.FollowsLog settings statements animation refused ↔
        ∀ cause, outcome.failure ≠ some (.crash cause))
      ∧ ∀ cause, outcome.failure = some (.crash cause) →
        ∃ result made, outcome.result = some result
          ∧ made ≤ (settings.writeLog statements).length
          ∧ (∀ i < made, refused ≠ some i)
          ∧ result.written = (settings.writeLog statements).take made := by
  intro animation outcome
  obtain ⟨notices, hrun⟩ := run_eq outlet outside rfl hknobs
  have houtcome : outcome = .ofFrames _ := hrun
  have hframes := Running.wrote_frames houtlet hsound settings
    (List.range animation.framesToRender) ⟨⟨animation, knobs, 0, [], []⟩, outside, notices⟩
  have hlog := settings.writes_map_path statements animation rfl
  rw [houtcome]
  refine ⟨⟨fun hfollows cause hcrash => ?_, fun hcrash => ?_⟩, ?_⟩
  · exact absurd hfollows (RunOutcome.not_followsLog_of_crash rfl hcrash)
  · exact RunOutcome.followsLog_ofFrames rfl rfl rfl rfl hstart hframes hcrash
  · intro cause hcrash
    exact RunOutcome.written_of_crash rfl rfl hstart hframes hcrash

/-- An outlet whose state counts the calls to save, and that fails on the refused one. -/
def Outlet.counting
    (refused : Option Nat) :
    Outlet Nat where
  save := fun _ path calls =>
    (if refused = some calls then .error (.system "No space left on device") else .ok path,
      calls + 1)
  present := fun _ calls => (.ok (), calls)

theorem Outlet.refuses_counting
    (refused : Option Nat) :
    (Outlet.counting refused).Refuses id refused where
  takes := fun _ _ _ h => by simpa [counting] using h
  fails := fun _ _ _ h => ⟨.system "No space left on device", by simpa [counting] using h, trivial⟩
  save := fun _ _ _ => rfl
  present := fun _ _ => rfl

/-- Of four writes the last is refused: it is the picture of the second frame. -/
theorem write_log_last_refused :
    let statements : List Statement := [⟨1, .frames ⟨2, 2⟩⟩, ⟨2, .save "a"⟩, ⟨3, .finish⟩]
    let animation := Animation.scan statements "output"
    let outcome := run {} (Outlet.counting (some 3)) statements 0
    outcome.FollowsLog {} statements animation (some 3)
      ∧ (Settings.writes {} statements animation)[3]?
        = some ⟨1, none, Settings.framePath {} animation 1⟩
      ∧ outcome.result.map RunResult.frameCount = some 1 := by
  intro statements animation outcome
  have hknobs : animation.knobTable statements = .ok ⟨#[[], []], true⟩ := by decide +kernel
  have hsound : Script.Sound [] (Script.body statements) := by
    rw [← Script.firstOffence?_eq_none_iff]
    decide +kernel
  have hlog := write_log {} 0 (Outlet.refuses_counting (some 3)) rfl hknobs hsound
  have hfailure : outcome.failure = some (.script
      ⟨.notSaved (.notSaved "output1" "No space left on device"), none, some 1⟩) := by
    decide +kernel
  have hcrash : ∀ cause, outcome.failure ≠ some (.crash cause) := by
    intro cause h
    rw [hfailure] at h
    cases h
  exact ⟨hlog.1.mpr hcrash, rfl, by decide +kernel⟩

/-- Nothing is refused, and yet the second frame crashes before it has written anything. -/
theorem write_log_overflow :
    let statements : List Statement :=
      [⟨1, .frames ⟨2, 2⟩⟩, ⟨2, .vary "k" ⟨1, 1⟩ ⟨1, 1⟩ 10 10⟩, ⟨3, .rotate "x" 1e308 (some "k")⟩,
        ⟨4, .save "a"⟩, ⟨5, .finish⟩]
    let animation := Animation.scan statements "output"
    let outcome := run {} (Outlet.counting none) statements 0
    animation.knobTable statements = .ok ⟨#[[], [("k", 10)]], true⟩
      ∧ Script.Sound [] (Script.body statements)
      ∧ outcome.failure = some (.crash .infiniteAngle)
      ∧ outcome.result.map RunResult.frameCount = some 1
      ∧ ¬outcome.FollowsLog {} statements animation none := by
  intro statements animation outcome
  have hfailure : outcome.failure = some (.crash .infiniteAngle) := by decide +kernel
  refine ⟨by decide +kernel, ?_, hfailure, by decide +kernel, ?_⟩
  · rw [← Script.firstOffence?_eq_none_iff]
    decide +kernel
  · exact RunOutcome.not_followsLog_of_crash rfl hfailure

end Diorama
