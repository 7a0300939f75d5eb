import Diorama.Text.Blank
import Mathlib.Data.List.TakeWhile

/-!
# Words of a text

Splitting a text is said without an algorithm: blanks, a word up to the next blank or the end, and
so on, until nothing but blanks is left.  `words` finds the only such splitting.

**Main statements.**
* `words_gap`, `words_word`: the words of blanks, and of a word behind blanks.
* `words_eq_iff`: the words of a text are those that it splits into.
-/

namespace Diorama
namespace Text

/-- A text of blanks. -/
def IsGap
    (t : Text) :
    Prop :=
  ∀ c ∈ t, c.is isBlank = true

/-- A text with something in it and no blanks. -/
structure IsWord
    (t : Text) : Prop where
  nonempty : t ≠ []
  solid : ∀ c ∈ t, c.is isBlank = false

/-- A text that has nothing in it, or begins with a blank. -/
def AtBlank
    (t : Text) :
    Prop :=
  ∀ c ∈ t.head?, c.is isBlank = true

/-- The words of a text, with blanks around and between them. -/
inductive SplitsInto : Text → List Text → Prop
  | gap
      {gap : Text}
      (hgap : IsGap gap) :
      SplitsInto gap []
  | word
      {gap word rest : Text}
      {ws : List Text}
      (hgap : IsGap gap)
      (hword : IsWord word)
      (hrest : AtBlank rest)
      (hsplit : SplitsInto rest ws) :
      SplitsInto (gap ++ word ++ rest) (word :: ws)

section Words

variable {gap word rest t : Text}

theorem words_of_dropWhile_eq_nil
    (h : t.dropWhile (·.is isBlank) = []) :
    words t = [] := by
  unfold words
  split
  · rfl
  · rename_i heq
    rw [h] at heq
    cases heq

theorem words_of_dropWhile_eq_cons
    {c : Symbol}
    (h : t.dropWhile (·.is isBlank) = c :: rest) :
    words t = (c :: rest.takeWhile fun d => !d.is isBlank)
      :: words (rest.dropWhile fun d => !d.is isBlank) := by
  rw [words]
  split
  · rename_i heq
    rw [h] at heq
    cases heq
  · rename_i heq
    rw [h] at heq
    cases heq
    rfl

/-- There are no words in blanks. -/
theorem words_gap
    (hgap : IsGap gap) :
    words gap = [] :=
  words_of_dropWhile_eq_nil (List.dropWhile_eq_nil_iff.mpr hgap)

theorem takeWhile_of_atBlank
    (hrest : AtBlank rest) :
    (rest.takeWhile fun d => !d.is isBlank) = [] := by
  cases rest with
  | nil => rfl
  | cons c tail => simp [hrest c rfl]

theorem dropWhile_of_atBlank
    (hrest : AtBlank rest) :
    (rest.dropWhile fun d => !d.is isBlank) = rest := by
  cases rest with
  | nil => rfl
  | cons c tail => simp [hrest c rfl]

/-- A word behind blanks is the first, and the others are those of the rest. -/
theorem words_word
    (hgap : IsGap gap)
    (hword : IsWord word)
    (hrest : AtBlank rest) :
    words (gap ++ word ++ rest) = word :: words rest := by
  obtain ⟨hnonempty, hsolid⟩ := hword
  cases word with
  | nil => exact absurd rfl hnonempty
  | cons c tail =>
      have hfirst : c.is isBlank = false := hsolid c List.mem_cons_self
      have htail : ∀ d ∈ tail, (!d.is isBlank) = true := by
        intro d hd
        simp [hsolid d (List.mem_cons_of_mem _ hd)]
      have hbehind : (gap ++ (c :: tail) ++ rest).dropWhile (·.is isBlank)
          = c :: (tail ++ rest) := by
        rw [List.append_assoc, List.dropWhile_append_of_pos hgap]
        simp [hfirst]
      rw [words_of_dropWhile_eq_cons hbehind, List.takeWhile_append_of_pos htail,
        List.dropWhile_append_of_pos htail, takeWhile_of_atBlank hrest,
        dropWhile_of_atBlank hrest, List.append_nil]

/-- Behind the front that is free of blanks there is a blank or nothing. -/
theorem atBlank_dropWhile
    (t : Text) :
    AtBlank (t.dropWhile fun d => !d.is isBlank) := by
  intro c hc
  have hhead := List.head?_dropWhile_not (fun d : Symbol => !d.is isBlank) t
  rw [Option.mem_def.mp hc] at hhead
  simpa using hhead

/-- A text splits into its words. -/
theorem splitsInto_words
    (t : Text) :
    SplitsInto t (words t) := by
  induction t using words.induct with
  | case1 t hnil =>
      rw [words_of_dropWhile_eq_nil hnil]
      exact .gap (List.dropWhile_eq_nil_iff.mp hnil)
  | case2 t c rest hcons ih =>
      have hfirst : c.is isBlank = false := by
        have hhead := List.head?_dropWhile_not (fun d : Symbol => d.is isBlank) t
        rwa [hcons] at hhead
      have hword : IsWord (c :: rest.takeWhile fun d => !d.is isBlank) := by
        refine ⟨List.cons_ne_nil _ _, fun d hd => ?_⟩
        rcases List.mem_cons.mp hd with rfl | htail
        · exact hfirst
        · simpa using List.mem_takeWhile_imp htail
      have hsplit : t = t.takeWhile (·.is isBlank)
          ++ (c :: rest.takeWhile fun d => !d.is isBlank)
          ++ rest.dropWhile fun d => !d.is isBlank := by
        rw [List.append_assoc, List.cons_append, List.takeWhile_append_dropWhile, ← hcons,
          List.takeWhile_append_dropWhile]
      have hgap : IsGap (t.takeWhile (·.is isBlank)) := fun _ => List.mem_takeWhile_imp
      have hwords := SplitsInto.word hgap hword (atBlank_dropWhile rest) ih
      rwa [← hsplit, ← words_of_dropWhile_eq_cons hcons] at hwords

/-- The words of a text are those that it splits into. -/
theorem words_eq_iff
    {ws : List Text} :
    words t = ws ↔ SplitsInto t ws := by
  constructor
  · rintro rfl
    exact splitsInto_words t
  · intro h
    induction h with
    | gap hgap => exact words_gap hgap
    | word hgap hword hrest _ ih => rw [words_word hgap hword hrest, ih]

end Words

end Text
end Diorama
