import Diorama.Text.Case
import Mathlib.Data.List.Basic

/-!
# Upper case twice

A text in upper case stays as it is when it is brought into upper case again: no letter that upper
case maps to is itself mapped to another one.  Whether that holds is up to the tables of case, each
of which gives a set of code points that are mapped and a set of code points that are mapped to.
The two sets are compared as numbers whose bits are the code points.

**Main statements.**
* `upperLetters_of_mem`: the capitals of a character are their own capitals.
* `upper_upper`: a text in upper case is its own upper case.
-/

namespace Diorama
namespace Text

/-- A set of code points as a number: the bits that are set in it. -/
def codeSet : List Nat → Nat
  | [] => 0
  | code :: rest => 1 <<< code ||| codeSet rest

theorem testBit_codeSet
    (codes : List Nat)
    (code : Nat) :
    (codeSet codes).testBit code = true ↔ code ∈ codes := by
  induction codes with
  | nil => simp [codeSet]
  | cons other rest ih =>
      rw [codeSet, Nat.testBit_or, Bool.or_eq_true, ih, Nat.one_shiftLeft, Nat.testBit_two_pow,
        decide_eq_true_iff, List.mem_cons, eq_comm]

theorem notMem_of_disjoint
    {codes others : List Nat}
    (hdisjoint : codeSet codes &&& codeSet others = 0)
    {code : Nat}
    (hcode : code ∈ codes) :
    code ∉ others := by
  intro hother
  have hbit := Nat.testBit_and (codeSet codes) (codeSet others) code
  rw [hdisjoint, Nat.zero_testBit, (testBit_codeSet codes code).mpr hcode,
    (testBit_codeSet others code).mpr hother] at hbit
  cases hbit

/-- The code points of a run. -/
def CaseRun.codes
    (run : CaseRun) :
    List Nat :=
  (List.range ((run.last - run.first) / run.stride + 1)).map fun i => run.first + run.stride * i

theorem CaseRun.mem_codes
    {run : CaseRun}
    {code : Nat}
    (h : run.contains code = true) :
    code ∈ run.codes := by
  simp only [contains, Bool.and_eq_true, decide_eq_true_eq, beq_iff_eq] at h
  obtain ⟨⟨hfirst, hlast⟩, hstride⟩ := h
  refine List.mem_map.mpr ⟨(code - run.first) / run.stride, List.mem_range.mpr ?_, ?_⟩
  · have hle : (code - run.first) / run.stride ≤ (run.last - run.first) / run.stride :=
      Nat.div_le_div_right (by omega)
    omega
  · have hdiv := Nat.div_add_mod (code - run.first) run.stride
    omega

/-- The code points that tables of case map. -/
def caseSources
    (runs : Array CaseRun)
    (sequences : List (Nat × List Nat)) :
    List Nat :=
  sequences.map Prod.fst ++ runs.toList.flatMap CaseRun.codes

/-- The code points that tables of case map to. -/
def caseTargets
    (runs : Array CaseRun)
    (sequences : List (Nat × List Nat)) :
    List Nat :=
  sequences.flatMap Prod.snd
    ++ runs.toList.flatMap fun run => run.codes.map fun code : Nat => (code + run.offset).toNat

section Tables

variable {runs : Array CaseRun} {sequences : List (Nat × List Nat)}

theorem mapCase_of_notMem
    {c : Char}
    (h : c.toNat ∉ caseSources runs sequences) :
    mapCase runs sequences c = [c] := by
  rw [caseSources, List.mem_append, not_or] at h
  have hsequence : sequences.lookup c.toNat = none := by
    rw [List.lookup_eq_none_iff]
    intro entry hentry
    rw [bne_iff_ne]
    rintro heq
    exact h.1 (List.mem_map.mpr ⟨entry, hentry, heq.symm⟩)
  have hrun : runs.find? (·.contains c.toNat) = none := by
    rw [Array.find?_eq_none]
    intro run hmem hcontains
    exact h.2 (List.mem_flatMap.mpr ⟨run, Array.mem_toList_iff.mpr hmem, CaseRun.mem_codes hcontains⟩)
  simp only [mapCase, hsequence, hrun]

/-- A letter is mapped to letters of the tables, or it is left alone. -/
theorem mem_mapCase
    {c d : Char}
    (h : d ∈ mapCase runs sequences c) :
    (d = c ∧ mapCase runs sequences c = [c])
      ∨ ∃ code ∈ caseTargets runs sequences, d = Char.ofNat code := by
  cases hsequence : sequences.lookup c.toNat with
  | some codes =>
      simp only [mapCase, hsequence] at h
      obtain ⟨code, hcode, rfl⟩ := List.mem_map.mp h
      obtain ⟨earlier, later, rfl, _⟩ := List.lookup_eq_some_iff.mp hsequence
      refine .inr ⟨code, List.mem_append_left _ ?_, rfl⟩
      exact List.mem_flatMap.mpr ⟨_, List.mem_append_right _ List.mem_cons_self, hcode⟩
  | none =>
      cases hrun : runs.find? (·.contains c.toNat) with
      | none =>
          have hself : mapCase runs sequences c = [c] := by simp only [mapCase, hsequence, hrun]
          rw [hself, List.mem_singleton] at h
          exact .inl ⟨h, hself⟩
      | some run =>
          simp only [mapCase, hsequence, hrun, List.mem_singleton] at h
          have hcontains : run.contains c.toNat = true :=
            Array.find?_some (p := fun run : CaseRun => run.contains c.toNat) hrun
          refine .inr ⟨_, List.mem_append_right _ (List.mem_flatMap.mpr ⟨run, ?_, ?_⟩), h⟩
          · exact Array.mem_toList_iff.mpr (Array.mem_of_find?_eq_some hrun)
          · exact List.mem_map.mpr ⟨c.toNat, CaseRun.mem_codes hcontains, rfl⟩

end Tables

/-- No code point that upper case maps to is one that it maps. -/
theorem upper_disjoint :
    codeSet (caseTargets upperRuns upperSequences)
      &&& codeSet (caseSources upperRuns upperSequences) = 0 := by
  decide +kernel

/-- Upper case maps to characters, and those below U+0080 are capitals of their own. -/
theorem upper_targets :
    ∀ code ∈ caseTargets upperRuns upperSequences, code.isValidChar
      ∧ (code < 0x80 → (Char.ofNat code).toUpper = Char.ofNat code) := by
  decide +kernel

theorem toUpper_of_lt :
    ∀ code < 0x80, ((Char.ofNat code).toUpper).toNat < 0x80
      ∧ ((Char.ofNat code).toUpper).toUpper = (Char.ofNat code).toUpper := by
  decide +kernel

/-- The capitals of a character are their own capitals. -/
theorem upperLetters_of_mem
    {c d : Char}
    (h : d ∈ upperLetters c) :
    upperLetters d = [d] := by
  unfold upperLetters at h
  split at h
  · rename_i hascii
    obtain rfl := List.mem_singleton.mp h
    obtain ⟨hlt, htwice⟩ := toUpper_of_lt c.toNat hascii
    rw [Char.ofNat_toNat] at hlt htwice
    rw [upperLetters, if_pos hlt, htwice]
  · rename_i hascii
    rcases mem_mapCase h with ⟨rfl, hself⟩ | ⟨code, hcode, rfl⟩
    · rw [upperLetters, if_neg hascii, hself]
    · obtain ⟨hvalid, hcapital⟩ := upper_targets code hcode
      have hcodeOf : (Char.ofNat code).toNat = code := by
        rw [Char.ofNat, dif_pos hvalid]
        rfl
      unfold upperLetters
      split
      · rename_i hlt
        rw [hcapital (hcodeOf ▸ hlt)]
      · refine mapCase_of_notMem ?_
        rw [hcodeOf]
        exact notMem_of_disjoint upper_disjoint hcode

/-- A text in upper case is its own upper case. -/
theorem upper_upper
    (t : Text) :
    upper (upper t) = upper t := by
  unfold upper
  rw [List.flatMap_assoc]
  refine List.flatMap_congr fun symbol _ => ?_
  cases symbol with
  | surrogate index => rfl
  | char c =>
      change (ofChars (upperLetters c)).flatMap _ = ofChars (upperLetters c)
      rw [ofChars, List.flatMap_map]
      refine (List.flatMap_congr fun d hd => ?_).trans List.map_eq_flatMap.symm
      exact congrArg ofChars (upperLetters_of_mem hd)

end Text
end Diorama
