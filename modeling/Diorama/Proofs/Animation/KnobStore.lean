import Diorama.Animation.KnobTable
import Mathlib.Data.List.Induction

/-!
# Knob tables as stores

A table is driven by calls that set a value or freeze it.  As a store it would hold under each
frame and knob the value of the last set of just this frame and knob, and refuse the frames that it
does not have.  Looking a value up knows the frames from zero on only, but a set counts negative
frames from the end: it succeeds, its value cannot be looked up under its own frame, and it takes
the place of the value of another one.

**Main statements.**
* `value?_calls`: the value of a knob on a frame is that of the last set that led there.
* `setsOnly_iff`: one more set is that of a store unless it counts its frame from the end.
* `knobTable_store`: when a table is a store, after any calls.
-/

namespace Diorama

/-- A knob, a frame and a value that the knob is to have there. -/
structure KnobSet where
  frame : Int
  knob : Text
  value : Float

namespace KnobSet

/-- Whether a set is that of a frame and a knob. -/
def names
    (frame : Int)
    (knob : Text)
    (s : KnobSet) :
    Bool :=
  decide (s.frame = frame ∧ s.knob = knob)

/-- Whether a set in a table of so many frames leads to a frame and a knob. -/
def leadsTo
    (size : Nat)
    (frame : Int)
    (knob : Text)
    (s : KnobSet) :
    Bool :=
  decide ((0 ≤ frame ∧ frame < size) ∧ (s.frame = frame ∨ s.frame = frame - size) ∧ s.knob = knob)

/-- The value of the last of the sets that satisfy a condition. -/
def lastValue?
    (p : KnobSet → Bool)
    (sets : List KnobSet) :
    Option Float :=
  (sets.filter p).getLast?.map value

theorem lastValue?_append_singleton
    (p : KnobSet → Bool)
    (sets : List KnobSet)
    (s : KnobSet) :
    lastValue? p (sets ++ [s]) = if p s then some s.value else lastValue? p sets := by
  cases hp : p s <;> simp [lastValue?, hp]

theorem lastValue?_congr
    {p q : KnobSet → Bool}
    {sets : List KnobSet}
    (h : ∀ s ∈ sets, p s = q s) :
    lastValue? p sets = lastValue? q sets := by
  rw [lastValue?, lastValue?, List.filter_congr h]

theorem lastValue?_eq_none_iff
    {p : KnobSet → Bool}
    {sets : List KnobSet} :
    lastValue? p sets = none ↔ ∀ s ∈ sets, p s = false := by
  simp [lastValue?]

end KnobSet

/-- A call that may change a table. -/
inductive TableCall
  | set (s : KnobSet)
  | freeze

namespace KnobTable

/-- The table after a call; a set that is refused changes nothing. -/
def call
    (t : KnobTable) :
    TableCall → KnobTable
  | .set s => (t.set s.frame s.knob s.value).toOption.getD t
  | .freeze => t.freeze

/-- The table after calls in order. -/
def calls
    (t : KnobTable)
    (cs : List TableCall) :
    KnobTable :=
  cs.foldl call t

/-- The set that a call succeeds with. -/
def made?
    (t : KnobTable) :
    TableCall → Option KnobSet
  | .set s => (t.set s.frame s.knob s.value).toOption.map fun _ => s
  | .freeze => none

/-- The sets that succeed, in order. -/
def made
    (t : KnobTable) :
    List TableCall → List KnobSet
  | [] => []
  | c :: cs => (t.made? c).toList ++ (t.call c).made cs

/-- A frame of the table. -/
def Has
    (t : KnobTable)
    (frame : Int) :
    Prop :=
  0 ≤ frame ∧ frame < t.size

/-- A negative frame that is one of the table when it is counted from the end. -/
def CountsFromEnd
    (t : KnobTable)
    (frame : Int) :
    Prop :=
  -(t.size : Int) ≤ frame ∧ frame < 0

theorem calls_append_singleton
    (t : KnobTable)
    (cs : List TableCall)
    (c : TableCall) :
    t.calls (cs ++ [c]) = (t.calls cs).call c := by
  simp [calls]

theorem made_append_singleton
    (t : KnobTable)
    (cs : List TableCall)
    (c : TableCall) :
    t.made (cs ++ [c]) = t.made cs ++ ((t.calls cs).made? c).toList := by
  induction cs generalizing t with
  | nil => simp [made, calls]
  | cons first cs ih => simpa [made, calls] using ih (t.call first)

/-! ## One set -/

section

variable {t after : KnobTable} {frame : Int} {position : Nat} {knob : Text} {value : Float}

theorem position?_eq_some_iff :
    t.position? frame = some position
      ↔ position < t.size ∧ (frame = position ∨ frame = position - t.size) := by
  rw [position?]
  by_cases hneg : frame < 0
  · simp only [if_pos hneg, Option.ite_none_right_eq_some, Option.some.injEq]
    omega
  · simp only [if_neg hneg, Option.ite_none_right_eq_some, Option.some.injEq]
    omega

theorem position?_eq_none_iff :
    t.position? frame = none ↔ ¬t.Has frame ∧ ¬t.CountsFromEnd frame := by
  rw [position?, Has, CountsFromEnd]
  by_cases hneg : frame < 0
  · simp only [if_pos hneg, ite_eq_right_iff, reduceCtorEq, imp_false]
    omega
  · simp only [if_neg hneg, ite_eq_right_iff, reduceCtorEq, imp_false]
    omega

theorem set_eq_ok_iff :
    t.set frame knob value = .ok after
      ↔ t.frozen = false ∧ ∃ position, t.position? frame = some position
        ∧ after = t.assign position knob value := by
  rw [set]
  cases t.frozen with
  | true => simp
  | false => cases t.position? frame <;> simp [eq_comm]

/-- A set is refused by a frozen table, and on a frame that is none counted from either end. -/
theorem exists_set_eq_error_iff :
    (∃ refusal, t.set frame knob value = .error refusal)
      ↔ t.frozen = true ∨ ¬t.Has frame ∧ ¬t.CountsFromEnd frame := by
  rw [← position?_eq_none_iff, set]
  cases t.frozen with
  | true => simp
  | false => cases t.position? frame <;> simp

theorem value?_of_neg
    (t : KnobTable)
    (h : frame < 0)
    (knob : Text) :
    t.value? frame knob = none := by
  rw [value?, if_neg (by omega)]

/-- Where a set leads to in the table. -/
theorem leadsTo_iff
    (hposition : t.position? frame = some position)
    (other : Int)
    (name : Text) :
    KnobSet.leadsTo t.size other name ⟨frame, knob, value⟩ = true
      ↔ other = position ∧ name = knob := by
  obtain ⟨hlt, hframe⟩ := position?_eq_some_iff.mp hposition
  simp only [KnobSet.leadsTo, decide_eq_true_eq]
  constructor
  · rintro ⟨hrange, hother, rfl⟩
    exact ⟨by omega, rfl⟩
  · rintro ⟨rfl, rfl⟩
    exact ⟨by omega, by omega, rfl⟩

/-- A set that succeeds gives the knob its value where the set leads to, and changes nothing else. -/
theorem value?_of_set
    (h : t.set frame knob value = .ok after)
    (other : Int)
    (name : Text) :
    after.value? other name
      = if KnobSet.leadsTo t.size other name ⟨frame, knob, value⟩ then some value
        else t.value? other name := by
  obtain ⟨-, position, hposition, rfl⟩ := set_eq_ok_iff.mp h
  have hlt := (position?_eq_some_iff.mp hposition).1
  simp only [leadsTo_iff hposition]
  rcases Int.lt_or_le other 0 with hneg | hother
  · rw [value?_of_neg _ hneg, value?_of_neg _ hneg, if_neg (by omega)]
  · obtain ⟨index, rfl⟩ := Int.eq_ofNat_of_zero_le hother
    rw [value?_assign]
    refine if_congr ?_ rfl rfl
    exact ⟨fun ⟨hindex, hname, _⟩ => ⟨by omega, hname⟩,
      fun ⟨hindex, hname⟩ => ⟨by omega, hname, by omega⟩⟩

end

/-- What setting a value is like in a store. -/
structure SetsOnly
    (t : KnobTable)
    (s : KnobSet) : Prop where
  refused_iff : (∃ refusal, t.set s.frame s.knob s.value = .error refusal)
    ↔ t.frozen = true ∨ ¬t.Has s.frame
  unchanged : ∀ refusal, t.set s.frame s.knob s.value = .error refusal → t.call (.set s) = t
  value?_eq : ∀ after, t.set s.frame s.knob s.value = .ok after → ∀ frame knob,
    after.value? frame knob
      = if frame = s.frame ∧ knob = s.knob then some s.value else t.value? frame knob

/-- A set is that of a store unless it counts its frame from the end and the table is not frozen. -/
theorem setsOnly_iff
    (t : KnobTable)
    (s : KnobSet) :
    t.SetsOnly s ↔ t.frozen = true ∨ ¬t.CountsFromEnd s.frame := by
  constructor
  · intro h
    by_contra hnot
    obtain ⟨hfrozen, hend⟩ := not_or.mp hnot
    have hhas : ¬t.Has s.frame := by
      obtain ⟨-, hneg⟩ := not_not.mp hend
      exact fun hhas => absurd hhas.1 (Int.not_le.mpr hneg)
    have herror := exists_set_eq_error_iff.mp (h.refused_iff.mpr (.inr hhas))
    exact herror.elim hfrozen fun hnone => hend hnone.2
  · intro h
    refine ⟨?_, fun refusal hrefusal => ?_, fun after hafter frame knob => ?_⟩
    · rw [exists_set_eq_error_iff]
      refine or_congr_right' fun hfrozen => ?_
      exact and_iff_left (h.resolve_left hfrozen)
    · rw [call, hrefusal]
      rfl
    · obtain ⟨hfrozen, position, hposition, -⟩ := set_eq_ok_iff.mp hafter
      have hend := h.resolve_left (by simp [hfrozen])
      obtain ⟨hlt, hframe⟩ := position?_eq_some_iff.mp hposition
      have hsame : s.frame = position := by
        rw [CountsFromEnd] at hend
        omega
      rw [value?_of_set hafter]
      simp only [leadsTo_iff hposition, ← hsame]

/-- A set that counts its frame from the end changes the value on the frame found there. -/
theorem value?_of_set_countsFromEnd
    {t : KnobTable}
    {s : KnobSet}
    (hfrozen : t.frozen = false)
    (hend : t.CountsFromEnd s.frame) :
    ∃ after, t.set s.frame s.knob s.value = .ok after ∧ ∀ frame knob,
      after.value? frame knob
        = if frame = s.frame + t.size ∧ knob = s.knob then some s.value
          else t.value? frame knob := by
  obtain ⟨hlow, hneg⟩ := hend
  have hposition : t.position? s.frame = some (s.frame + t.size).toNat :=
    position?_eq_some_iff.mpr (by omega)
  have hcast : ((s.frame + t.size).toNat : Int) = s.frame + t.size := by omega
  obtain hafter := set_eq_ok_iff.mpr ⟨hfrozen, _, hposition, rfl⟩
  refine ⟨_, hafter, fun frame knob => ?_⟩
  rw [value?_of_set hafter]
  simp only [leadsTo_iff hposition, hcast]

/-! ## Any calls -/

section

variable (t : KnobTable) (c : TableCall)

theorem size_call :
    (t.call c).size = t.size := by
  cases c with
  | freeze => rfl
  | set s =>
      cases hset : t.set s.frame s.knob s.value with
      | error refusal => rw [call, hset]; rfl
      | ok after =>
          obtain ⟨-, position, -, rfl⟩ := set_eq_ok_iff.mp hset
          rw [call, hset]
          exact size_assign t position s.knob s.value

theorem frozen_call :
    (t.call c).frozen = true ↔ t.frozen = true ∨ c = .freeze := by
  cases c with
  | freeze => simp [call, freeze]
  | set s =>
      cases hset : t.set s.frame s.knob s.value with
      | error refusal => simp [call, hset, Except.toOption]
      | ok after =>
          obtain ⟨-, position, -, rfl⟩ := set_eq_ok_iff.mp hset
          simp [call, hset, Except.toOption, assign]

/-- A call gives values where the set that it makes leads to. -/
theorem value?_call
    (frame : Int)
    (knob : Text) :
    (t.call c).value? frame knob
      = match t.made? c with
        | some s => if s.leadsTo t.size frame knob then some s.value else t.value? frame knob
        | none => t.value? frame knob := by
  cases c with
  | freeze => rfl
  | set s =>
      cases hset : t.set s.frame s.knob s.value with
      | error refusal => simp [call, made?, hset, Except.toOption]
      | ok after =>
          have hvalue := value?_of_set hset frame knob
          simpa [call, made?, hset, Except.toOption] using hvalue

/-- A set that succeeds is on a frame of the table, counted from either end. -/
theorem frame_of_made?
    {t : KnobTable}
    {c : TableCall}
    {s : KnobSet}
    (h : t.made? c = some s) :
    -(t.size : Int) ≤ s.frame ∧ s.frame < t.size := by
  cases c with
  | freeze => cases h
  | set other =>
      cases hset : t.set other.frame other.knob other.value with
      | error refusal => simp [made?, hset, Except.toOption] at h
      | ok after =>
          obtain ⟨-, position, hposition, -⟩ := set_eq_ok_iff.mp hset
          obtain ⟨hlt, hframe⟩ := position?_eq_some_iff.mp hposition
          obtain rfl : other = s := by simpa [made?, hset, Except.toOption] using h
          omega

end

section

variable (t : KnobTable) (cs : List TableCall)

theorem size_calls :
    (t.calls cs).size = t.size := by
  induction cs using List.reverseRecOn with
  | nil => rfl
  | append_singleton cs c ih => rw [calls_append_singleton, size_call, ih]

theorem frozen_calls :
    (t.calls cs).frozen = true ↔ t.frozen = true ∨ .freeze ∈ cs := by
  induction cs using List.reverseRecOn with
  | nil => simp [calls]
  | append_singleton cs c ih =>
      rw [calls_append_singleton, frozen_call, ih, List.mem_append, List.mem_singleton, or_assoc,
        eq_comm (a := c)]

/-- The value of a knob on a frame is that of the last set that led there. -/
theorem value?_calls
    (frame : Int)
    (knob : Text) :
    (t.calls cs).value? frame knob
      = (KnobSet.lastValue? (KnobSet.leadsTo t.size frame knob) (t.made cs)).or
        (t.value? frame knob) := by
  induction cs using List.reverseRecOn with
  | nil => rfl
  | append_singleton cs c ih =>
      rw [calls_append_singleton, made_append_singleton, value?_call, size_calls]
      cases hmade : (t.calls cs).made? c with
      | none => simpa using ih
      | some s =>
          simp only [Option.toList_some, KnobSet.lastValue?_append_singleton]
          split
          · rfl
          · exact ih

theorem frame_of_mem_made
    {s : KnobSet}
    (h : s ∈ t.made cs) :
    -(t.size : Int) ≤ s.frame ∧ s.frame < t.size := by
  induction cs using List.reverseRecOn with
  | nil => cases h
  | append_singleton cs c ih =>
      rw [made_append_singleton, List.mem_append, Option.mem_toList] at h
      rcases h with hmem | hmade
      · exact ih hmem
      · exact size_calls t cs ▸ frame_of_made? hmade

/-- Where no set counted its frame from the end, sets lead to their own frames only. -/
theorem lastValue?_leadsTo
    (h : ∀ s ∈ t.made cs, 0 ≤ s.frame)
    (frame : Int)
    (knob : Text) :
    KnobSet.lastValue? (KnobSet.leadsTo t.size frame knob) (t.made cs)
      = KnobSet.lastValue? (KnobSet.names frame knob) (t.made cs) := by
  refine KnobSet.lastValue?_congr fun s hs => ?_
  have hpos := h s hs
  have hlt := (t.frame_of_mem_made cs hs).2
  rw [KnobSet.leadsTo, KnobSet.names, decide_eq_decide]
  constructor
  · rintro ⟨hrange, hframe, hknob⟩
    exact ⟨by omega, hknob⟩
  · rintro ⟨hframe, hknob⟩
    exact ⟨by omega, .inl hframe, hknob⟩

end

/-- What looking values up is like in a store, with any default. -/
def ReturnsLast
    (t : KnobTable)
    (sets : List KnobSet) :
    Prop :=
  ∀ frame knob default, (t.value? frame knob).or default
    = (KnobSet.lastValue? (KnobSet.names frame knob) sets).or default

theorem value?_empty_of_int
    (frameCount frame : Int)
    (knob : Text) :
    (empty frameCount).value? frame knob = none := by
  rcases Int.lt_or_le frame 0 with hneg | hframe
  · exact value?_of_neg _ hneg knob
  · obtain ⟨index, rfl⟩ := Int.eq_ofNat_of_zero_le hframe
    exact value?_empty knob frameCount.toNat index

theorem value?_calls_empty
    (frameCount : Int)
    (cs : List TableCall)
    (frame : Int)
    (knob : Text) :
    ((empty frameCount).calls cs).value? frame knob
      = KnobSet.lastValue? (KnobSet.leadsTo (empty frameCount).size frame knob)
        ((empty frameCount).made cs) := by
  rw [value?_calls, value?_empty_of_int, Option.or_none]

/-- Values are looked up as in a store exactly if no set has counted its frame from the end. -/
theorem returnsLast_iff
    (frameCount : Int)
    (cs : List TableCall) :
    ((empty frameCount).calls cs).ReturnsLast ((empty frameCount).made cs)
      ↔ ∀ s ∈ (empty frameCount).made cs, 0 ≤ s.frame := by
  constructor
  · intro h s hs
    by_contra hneg
    have hlast := h s.frame s.knob none
    rw [value?_of_neg _ (Int.not_le.mp hneg), Option.or_none, Option.or_none] at hlast
    have hnot := KnobSet.lastValue?_eq_none_iff.mp hlast.symm s hs
    simp [KnobSet.names] at hnot
  · intro h frame knob default
    rw [value?_calls_empty, lastValue?_leadsTo _ cs h]

/--
After any calls on a table without values: it has as many frames as before and is frozen exactly if
it was told to.  Its values are the last ones set exactly if no set that succeeded counted its frame
from the end, and one more set is that of a store exactly if it does not do so in a table that is
not frozen.  A value set on a frame counted from the end stands on the frame that is found there.
-/
theorem knobTable_store
    (frameCount : Int)
    (cs : List TableCall) :
    let t := (empty frameCount).calls cs
    let sets := (empty frameCount).made cs
    t.size = frameCount.toNat
      ∧ (t.frozen = true ↔ .freeze ∈ cs)
      ∧ (t.ReturnsLast sets ↔ ∀ s ∈ sets, 0 ≤ s.frame)
      ∧ (∀ s, t.SetsOnly s ↔ t.frozen = true ∨ ¬t.CountsFromEnd s.frame)
      ∧ (∀ frame knob, t.value? frame knob
        = KnobSet.lastValue? (KnobSet.leadsTo t.size frame knob) sets)
      ∧ ∀ s : KnobSet, t.frozen = false → t.CountsFromEnd s.frame →
        ∃ after, t.set s.frame s.knob s.value = .ok after ∧ ∀ frame knob,
          after.value? frame knob
            = if frame = s.frame + t.size ∧ knob = s.knob then some s.value
              else t.value? frame knob := by
  intro t sets
  have hsize : t.size = (empty frameCount).size := size_calls (empty frameCount) cs
  refine ⟨?_, ?_, returnsLast_iff frameCount cs, t.setsOnly_iff, fun frame knob => ?_, fun s => ?_⟩
  · rw [hsize]
    exact size_empty frameCount.toNat
  · rw [frozen_calls]
    simp [empty]
  · rw [hsize]
    exact value?_calls_empty frameCount cs frame knob
  · exact value?_of_set_countsFromEnd

/-- A set on the last frame, counted from the end: its value is found on another frame only. -/
theorem knobTable_no_store_negative :
    let t := empty 2
    let s : KnobSet := ⟨-1, "k", 1⟩
    let after := t.calls [.set s]
    t.made [.set s] = [s]
      ∧ ¬t.Has s.frame
      ∧ after.value? (-1) "k" = none
      ∧ after.value? 1 "k" = some 1
      ∧ ¬after.ReturnsLast (t.made [.set s])
      ∧ ¬t.SetsOnly s := by
  intro t s after
  have hmade : t.made [.set s] = [s] := by rfl
  refine ⟨hmade, fun hhas => absurd hhas.1 (by decide), by rfl, by rfl, ?_, ?_⟩
  · rw [returnsLast_iff, hmade]
    intro h
    exact absurd (h s List.mem_cons_self) (by decide)
  · rw [setsOnly_iff]
    rintro (hfrozen | hend)
    · cases hfrozen
    · exact hend (by constructor <;> decide)

end KnobTable
end Diorama
