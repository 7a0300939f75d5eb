import Diorama.Text.Lines

/-!
# Lines of a text

A text is cut at its first line break, and what follows is cut in the same way.  So a text may be
cut behind any line feed and its two parts read on their own, and it does not matter for the lines
whether a line ends in a carriage return, in a line feed or in both.

**Main statements.**
* `lines_append_cons`: the first line of a text, and the lines that follow.
* `lines_append`: the lines of a text are those of its parts.
* `lines_unifyLineBreaks`: carriage returns may be read as line feeds.
-/

namespace Diorama
namespace Text

/-- Whether a symbol ends a line. -/
abbrev isBreak
    (c : Symbol) :
    Bool :=
  c.is isLineBreak

/-- The line break that every text may be cut behind. -/
abbrev lineFeed : Symbol := .char '\n'

/-- A list without breaks, or cut at the first one. -/
theorem no_break_or_first_break
    {α : Type}
    (breaks : α → Bool)
    (t : List α) :
    (∀ c ∈ t, breaks c = false)
      ∨ ∃ line c rest, t = line ++ c :: rest ∧ (∀ d ∈ line, breaks d = false)
        ∧ breaks c = true := by
  induction t with
  | nil => exact .inl (by simp)
  | cons c t ih =>
      cases hc : breaks c with
      | true => exact .inr ⟨[], c, t, rfl, by simp, hc⟩
      | false =>
          rcases ih with hline | ⟨line, d, rest, rfl, hline, hd⟩
          · exact .inl (List.forall_mem_cons.mpr ⟨hc, hline⟩)
          · exact .inr ⟨c :: line, d, rest, rfl, List.forall_mem_cons.mpr ⟨hc, hline⟩, hd⟩

/-- A text without line breaks is one line, unless it is empty. -/
theorem lines_of_no_break
    {t : Text}
    (h : ∀ c ∈ t, isBreak c = false) :
    lines t = if t.isEmpty then [] else [t] := by
  have hkept : ∀ c ∈ t, (!isBreak c) = true := fun c hc => by simp [h c hc]
  have hdrop : t.dropWhile (fun c => !isBreak c) = [] := by
    rw [← List.append_nil t, List.dropWhile_append_of_pos hkept, List.dropWhile_nil]
  rw [lines]
  split
  · rfl
  · rename_i c rest hrest
    rw [hdrop] at hrest
    cases hrest

/-- The first line of a text, and the lines that follow. -/
theorem lines_append_cons
    {line rest : Text}
    {c : Symbol}
    (hline : ∀ d ∈ line, isBreak d = false)
    (hc : isBreak c = true) :
    lines (line ++ c :: rest) = line :: lines (afterBreak c rest) := by
  have hkept : ∀ d ∈ line, (!isBreak d) = true := fun d hd => by simp [hline d hd]
  have hdrop : (line ++ c :: rest).dropWhile (fun d => !isBreak d) = c :: rest := by
    rw [List.dropWhile_append_of_pos hkept]
    simp [hc]
  have htake : (line ++ c :: rest).takeWhile (fun d => !isBreak d) = line := by
    rw [List.takeWhile_append_of_pos hkept]
    simp [hc]
  rw [lines]
  split
  · rename_i hnone
    rw [hdrop] at hnone
    cases hnone
  · rename_i d others hfound
    rw [hdrop] at hfound
    cases hfound
    rw [htake]

/-- Only a carriage return takes what follows it along. -/
theorem afterBreak_of_ne
    {c : Symbol}
    (h : c ≠ .char '\r')
    (rest : Text) :
    afterBreak c rest = rest := by
  unfold afterBreak
  split
  · rw [if_neg h]
  · rfl

theorem afterBreak_of_cons_ne
    {c d : Symbol}
    (h : d ≠ lineFeed)
    (rest : Text) :
    afterBreak c (d :: rest) = d :: rest := by
  unfold afterBreak
  split
  · rename_i heq
    exact absurd (List.cons.inj heq).1 h
  · rfl

/-- A text that ends behind a line feed, if it is not empty. -/
def EndsLine
    (t : Text) :
    Prop :=
  t = [] ∨ t.getLast? = some lineFeed

theorem EndsLine.of_append
    {s t : Text}
    (h : EndsLine (s ++ t)) :
    EndsLine t := by
  cases t with
  | nil => exact .inl rfl
  | cons c t =>
      refine .inr ?_
      rcases h with hnil | hlast
      · simp at hnil
      · simpa [List.getLast?_append] using hlast

/-- What follows a line break is the same with and without another text behind it. -/
theorem afterBreak_append
    {c : Symbol}
    {rest : Text}
    (h : EndsLine (c :: rest))
    (t : Text) :
    afterBreak c (rest ++ t) = afterBreak c rest ++ t ∧ EndsLine (afterBreak c rest) := by
  cases rest with
  | nil =>
      have hc : c = lineFeed := by
        rcases h with hnil | hlast
        · cases hnil
        · simpa using hlast
      have hne : c ≠ .char '\r' := by
        rw [hc]
        decide
      rw [afterBreak_of_ne hne, afterBreak_of_ne hne]
      exact ⟨rfl, .inl rfl⟩
  | cons d rest =>
      have hbehind : EndsLine (d :: rest) := EndsLine.of_append (s := [c]) h
      by_cases hd : d = lineFeed
      · subst hd
        by_cases hc : c = .char '\r'
        · subst hc
          exact ⟨rfl, EndsLine.of_append (s := [lineFeed]) hbehind⟩
        · rw [afterBreak_of_ne hc, afterBreak_of_ne hc]
          exact ⟨rfl, hbehind⟩
      · rw [List.cons_append, afterBreak_of_cons_ne hd, afterBreak_of_cons_ne hd]
        exact ⟨rfl, hbehind⟩

/-- The lines of a text that is cut behind a line feed are those of its two parts. -/
theorem lines_append
    {s : Text}
    (h : EndsLine s)
    (t : Text) :
    lines (s ++ t) = lines s ++ lines t := by
  rcases no_break_or_first_break isBreak s with hline | ⟨line, c, rest, rfl, hline, hc⟩
  · -- a line feed is a line break, so the first part is empty
    rcases h with rfl | hlast
    · simp [lines_of_no_break hline]
    · have hfeed := hline lineFeed (List.mem_of_getLast? hlast)
      exact absurd hfeed (by decide)
  · obtain ⟨hafter, hrest⟩ := afterBreak_append h.of_append t
    have hsmaller := length_afterBreak_le c rest
    rw [List.append_assoc, List.cons_append, lines_append_cons hline hc, hafter,
      lines_append hrest t, lines_append_cons hline hc, List.cons_append]
termination_by s.length
decreasing_by
  subst_vars
  simp only [List.length_append, List.length_cons]
  omega

/-! Carriage returns as line feeds. -/

theorem unifyLineBreaks_append
    {line : List Char}
    (h : ∀ c ∈ line, c ≠ '\r')
    (rest : List Char) :
    unifyLineBreaks (line ++ rest) = line ++ unifyLineBreaks rest := by
  induction line with
  | nil => rfl
  | cons c line ih =>
      obtain ⟨hc, hline⟩ := List.forall_mem_cons.mp h
      rw [List.cons_append, unifyLineBreaks, if_neg hc, ih hline, List.cons_append]
      rintro rest rfl
      exact absurd rfl hc

/-- A line break becomes one that takes nothing along, in front of the rest without its own part. -/
theorem unifyLineBreaks_break
    {c : Char}
    (hc : isLineBreak c = true)
    (rest : List Char) :
    ∃ d others, unifyLineBreaks (c :: rest) = d :: unifyLineBreaks others
      ∧ isLineBreak d = true ∧ d ≠ '\r'
      ∧ afterBreak c (ofChars rest) = ofChars others ∧ others.length ≤ rest.length := by
  by_cases hreturn : c = '\r'
  · subst hreturn
    cases rest with
    | nil => exact ⟨'\n', [], rfl, by decide, by decide, rfl, Nat.le_refl _⟩
    | cons d rest =>
        by_cases hd : d = '\n'
        · subst hd
          exact ⟨'\n', rest, rfl, by decide, by decide, rfl, Nat.le_succ _⟩
        · refine ⟨'\n', d :: rest, ?_, by decide, by decide,
            afterBreak_of_cons_ne (mt Symbol.char.inj hd) (ofChars rest), Nat.le_refl _⟩
          rw [unifyLineBreaks, if_pos rfl]
          rintro rest' - heq
          exact hd (List.cons.inj heq).1
  · refine ⟨c, rest, ?_, hc, hreturn, afterBreak_of_ne (mt Symbol.char.inj hreturn) _,
      Nat.le_refl _⟩
    rw [unifyLineBreaks, if_neg hreturn]
    rintro rest' rfl
    exact absurd rfl hreturn

/-- Reading every kind of line end as a line feed does not change the lines. -/
theorem lines_unifyLineBreaks
    (cs : List Char) :
    lines (ofChars (unifyLineBreaks cs)) = lines (ofChars cs) := by
  have hnoReturn {line : List Char} (hline : ∀ d ∈ line, isLineBreak d = false) :
      ∀ d ∈ line, d ≠ '\r' := by
    rintro d hd rfl
    exact absurd (hline _ hd) (by decide)
  rcases no_break_or_first_break isLineBreak cs with hline | ⟨line, c, rest, rfl, hline, hc⟩
  · have hsame := unifyLineBreaks_append (hnoReturn hline) []
    rw [List.append_nil] at hsame
    rw [hsame, unifyLineBreaks, List.append_nil]
  · obtain ⟨d, others, hunified, hd, hplain, hafter, hlength⟩ := unifyLineBreaks_break hc rest
    have hsymbols : ∀ e ∈ ofChars line, isBreak e = false := by simpa [ofChars] using hline
    have hcut (e : Char) (rest : List Char) :
        ofChars (line ++ e :: rest) = ofChars line ++ Symbol.char e :: ofChars rest := by
      simp [ofChars]
    calc lines (ofChars (unifyLineBreaks (line ++ c :: rest)))
        = lines (ofChars line ++ Symbol.char d :: ofChars (unifyLineBreaks others)) := by
          rw [unifyLineBreaks_append (hnoReturn hline), hunified, hcut]
      _ = ofChars line :: lines (ofChars (unifyLineBreaks others)) := by
          rw [lines_append_cons (c := .char d) hsymbols hd,
            afterBreak_of_ne (mt Symbol.char.inj hplain)]
      _ = ofChars line :: lines (afterBreak c (ofChars rest)) := by
          rw [lines_unifyLineBreaks others, hafter]
      _ = lines (ofChars (line ++ c :: rest)) := by
          rw [hcut, lines_append_cons (c := .char c) hsymbols hc]
termination_by cs.length
decreasing_by
  subst_vars
  simp only [List.length_append, List.length_cons]
  omega

end Text
end Diorama
