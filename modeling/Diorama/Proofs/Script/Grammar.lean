import Diorama.Proofs.Script.Slots
import Diorama.Proofs.Text.Words

/-!
# The grammar of a script line

A line is cut at its first `//` and split into words; the first is its keyword, and the others have
to spell a directive under it.  What a line holds is settled by its words alone: nothing, an
unknown directive that keeps its words, a directive whose operands fit the slots of its kind, or a
line that cannot be read.

**Main statements.**
* `stripComment_eq_iff`: the code of a line is what stands in front of its first comment mark.
* `lineWords_iff`: every line has one list of words.
* `read?_of_lineWords`: a line holds what is read under its first word.
* `line_grammar`: what is read from a line.
-/

namespace Diorama

/-- The mark at which a comment begins. -/
def commentMark : Text := "//"

/-- A line and its code: what stands in front of its first comment mark, if there is one. -/
inductive Uncommented : Text → Text → Prop
  | bare
      {code : Text}
      (hnone : ∀ earlier later, code ≠ earlier ++ commentMark ++ later) :
      Uncommented code code
  | commented
      {code comment : Text}
      (hfirst : ∀ earlier later, code ++ commentMark ++ comment = earlier ++ commentMark ++ later →
        code.length ≤ earlier.length) :
      Uncommented (code ++ commentMark ++ comment) code

/-- The words of the code of a line. -/
def LineWords
    (raw : Text)
    (tokens : List Text) :
    Prop :=
  ∃ code, Uncommented raw code ∧ code.SplitsInto tokens

section Comments

variable {raw code other earlier later : Text}

theorem Uncommented.length_le
    (h : Uncommented raw code)
    (hsplit : raw = earlier ++ commentMark ++ later) :
    code.length ≤ earlier.length := by
  cases h with
  | bare hnone => exact absurd hsplit (hnone earlier later)
  | commented hfirst => exact hfirst earlier later hsplit

theorem Uncommented.eq_or_mark
    (h : Uncommented raw code) :
    code = raw ∨ ∃ comment, raw = code ++ commentMark ++ comment := by
  cases h with
  | bare _ => exact .inl rfl
  | commented _ => exact .inr ⟨_, rfl⟩

/-- A line that is code as a whole has no mark. -/
theorem Uncommented.no_mark
    (h : Uncommented raw raw) :
    raw ≠ earlier ++ commentMark ++ later := by
  intro hsplit
  have hle := h.length_le hsplit
  have hlength := congrArg List.length hsplit
  have hmark : commentMark.length = 2 := by decide
  rw [List.length_append, List.length_append, hmark] at hlength
  omega

/-- A line has one code. -/
theorem Uncommented.unique
    (h : Uncommented raw code)
    (hother : Uncommented raw other) :
    code = other := by
  rcases h.eq_or_mark with rfl | ⟨comment, hcomment⟩
  · rcases hother.eq_or_mark with rfl | ⟨comment, hcomment⟩
    · rfl
    · exact absurd hcomment h.no_mark
  · rcases hother.eq_or_mark with rfl | ⟨rest, hrest⟩
    · exact absurd hcomment hother.no_mark
    · have hlength : code.length = other.length :=
        Nat.le_antisymm (h.length_le hrest) (hother.length_le hcomment)
      rw [hcomment, List.append_assoc, List.append_assoc] at hrest
      exact List.append_inj_left hrest hlength

/-- A line that does not begin with a mark has its first symbol in its code. -/
theorem Uncommented.cons
    {c : Symbol}
    (hfront : ∀ comment, c :: raw ≠ commentMark ++ comment)
    (h : Uncommented raw code) :
    Uncommented (c :: raw) (c :: code) := by
  have hbehind : ∀ earlier later, c :: raw = earlier ++ commentMark ++ later →
      ∃ before, earlier = c :: before ∧ raw = before ++ commentMark ++ later := by
    intro earlier later hsplit
    cases earlier with
    | nil => exact absurd hsplit (hfront later)
    | cons d before =>
        obtain ⟨rfl, hraw⟩ := List.cons.inj hsplit
        exact ⟨before, rfl, hraw⟩
  cases h with
  | bare hnone =>
      refine .bare fun earlier later hsplit => ?_
      obtain ⟨before, _, hraw⟩ := hbehind earlier later hsplit
      exact hnone before later hraw
  | @commented _ comment hfirst =>
      have hcode : Uncommented ((c :: code) ++ commentMark ++ comment) (c :: code) := by
        refine .commented fun earlier later hsplit => ?_
        obtain ⟨before, rfl, hraw⟩ := hbehind earlier later hsplit
        exact Nat.succ_le_succ (hfirst before later hraw)
      exact hcode

theorem uncommented_stripComment
    (raw : Text) :
    Uncommented raw (stripComment raw) := by
  induction raw using stripComment.induct with
  | case1 comment =>
      have hcode : Uncommented ([] ++ commentMark ++ comment) [] :=
        .commented fun _ _ _ => Nat.zero_le _
      exact hcode
  | case2 c rest hfront ih =>
      rw [stripComment]
      · refine ih.cons fun comment hmark => ?_
        cases hmark
        exact hfront comment rfl rfl
      · exact hfront
  | case3 =>
      refine .bare fun earlier later hsplit => ?_
      cases earlier <;> cases hsplit

/-- The code of a line is what stands in front of its first comment mark. -/
theorem stripComment_eq_iff :
    stripComment raw = code ↔ Uncommented raw code := by
  constructor
  · rintro rfl
    exact uncommented_stripComment raw
  · exact (uncommented_stripComment raw).unique

/-- Every line has one list of words. -/
theorem lineWords_iff
    {tokens : List Text} :
    LineWords raw tokens ↔ Text.words (stripComment raw) = tokens := by
  simp only [LineWords, ← stripComment_eq_iff, ← Text.words_eq_iff, exists_eq_left']

end Comments

namespace Statement

open Directive

variable {line : Int} {raw keyword : Text} {tokens : List Text}

/-- A line without words holds no statement, and it is the only one that is read so. -/
theorem read?_eq_none_iff :
    read? line raw = .ok none ↔ LineWords raw [] := by
  rw [lineWords_iff, read?]
  cases Text.words (stripComment raw) with
  | nil => simp
  | cons keyword tokens =>
      simp only [reduceCtorEq, iff_false]
      split <;> simp

/-- What a line with words holds is what is read under its first word. -/
theorem read?_of_lineWords
    (h : LineWords raw (keyword :: tokens)) :
    read? line raw = match ofTokens keyword tokens with
      | .ok directive => .ok (some ⟨line, directive⟩)
      | .error fault => .error (.onLine fault line) := by
  cases hread : ofTokens keyword tokens <;> simp only [read?, lineWords_iff.mp h, hread]

theorem read?_eq_some_iff_of_lineWords
    (h : LineWords raw (keyword :: tokens))
    (statement : Statement) :
    read? line raw = .ok (some statement)
      ↔ statement.line = line ∧ ofTokens keyword tokens = .ok statement.directive := by
  rw [read?_of_lineWords h]
  obtain ⟨number, directive⟩ := statement
  cases ofTokens keyword tokens with
  | ok other =>
      simp only [Except.ok.injEq, Option.some.injEq, Statement.mk.injEq]
      exact and_congr_left' eq_comm
  | error fault => simp

/--
What is read from a line is settled by its words.  No words hold nothing; behind a word that is no
keyword all words are kept as they are; behind a keyword the words have to spell a directive, whose
operands then fill the slots of its kind, and a line on which they spell none is not read.  No line
is an end marker.
-/
theorem line_grammar
    (line : Int)
    (raw : Text) :
    (∃! tokens, LineWords raw tokens)
      ∧ (read? line raw = .ok none ↔ LineWords raw [])
      ∧ (∀ keyword tokens, LineWords raw (keyword :: tokens) → keyword ∉ keywords →
          read? line raw = .ok (some ⟨line, .unknown keyword tokens⟩))
      ∧ (∀ keyword tokens, LineWords raw (keyword :: tokens) → keyword ∈ keywords →
          (∀ statement, read? line raw = .ok (some statement)
              ↔ statement.line = line ∧ statement.directive.keyword = keyword
                ∧ statement.directive.Spelled tokens)
          ∧ (∀ statement, read? line raw = .ok (some statement) →
              Slot.Filled (Slot.ofKind statement.directive.kind) statement.directive.operands
                tokens)
          ∧ ((∀ directive : Directive, directive.keyword = keyword → ¬directive.Spelled tokens) →
              ∃ fault, fault.kind = .parseFailure ∧ read? line raw = .error (.onLine fault line)))
      ∧ ∀ statement, read? line raw = .ok (some statement) → statement.directive ≠ .finish := by
  refine ⟨?_, read?_eq_none_iff, ?_, ?_, ?_⟩
  · refine ⟨Text.words (stripComment raw), lineWords_iff.mpr rfl, fun tokens hwords => ?_⟩
    exact (lineWords_iff.mp hwords).symm
  · intro keyword tokens hwords hkeyword
    rw [read?_of_lineWords hwords, ofTokens_of_not_mem hkeyword]
  · intro keyword tokens hwords hkeyword
    have hread (statement : Statement) : read? line raw = .ok (some statement)
        ↔ statement.line = line ∧ statement.directive.keyword = keyword
          ∧ statement.directive.Spelled tokens := by
      rw [read?_eq_some_iff_of_lineWords hwords, ofTokens_eq_ok_iff hkeyword]
    refine ⟨hread, ?_, ?_⟩
    · intro statement hstatement
      exact Slot.filled_of_spelled ((hread statement).mp hstatement).2.2
    · intro hnone
      obtain ⟨fault, hkind, hfault⟩ := ofTokens_of_not_spelled hkeyword hnone
      refine ⟨fault, hkind, ?_⟩
      rw [read?_of_lineWords hwords, hfault]
  · intro statement hstatement hfinish
    cases hwords : Text.words (stripComment raw) with
    | nil =>
        rw [read?_eq_none_iff.mpr (lineWords_iff.mpr hwords)] at hstatement
        cases hstatement
    | cons keyword tokens =>
        obtain ⟨_, hread⟩ :=
          (read?_eq_some_iff_of_lineWords (lineWords_iff.mpr hwords) statement).mp hstatement
        rw [hfinish] at hread
        exact ofTokens_ne_finish keyword tokens hread

/-- A word that reads as an infinity is a name, and what follows the mark is not read. -/
example :
    read? 3 "save inf // 1 2" = .ok (some ⟨3, .save "inf"⟩) := by
  decide +kernel

end Statement
end Diorama
