import Diorama.Proofs.Files.Names
import Diorama.Proofs.Files.Ways

/-!
# Paths with a number in them

Where a name ends in a number and a suffix, the number stands in one component of its path, between
what belongs to it of the name and of the suffix; the other components do not depend on it.  So
different numbers give different paths.  Where there are no links, it depends on the components
behind the number whether these lead to different places: as long as they never lead back out of the
numbered directory, they do, and otherwise all of them lead to the same place.

**Main statements.**
* `exists_outputPath_eq`: the path of a numbered name.
* `Leads.eq_lexicalPlace`: without links, where a way ends is told by its names alone.
* `lexicalPlace_eq_iff_climbs`: when two numbered directories are left for the same place.
-/

namespace Diorama
namespace Path

/-! ## The numbered component -/

theorem splitAtSlashes_ne_nil
    (t : Text) :
    splitAtSlashes t ≠ [] := by
  cases t with
  | nil => exact List.cons_ne_nil _ _
  | cons c rest =>
      rw [splitAtSlashes]
      split
      · exact List.cons_ne_nil _ _
      · split <;> exact List.cons_ne_nil _ _

/-- The last part of a text goes on with the first part of the text behind it. -/
theorem exists_splitAtSlashes_append
    (s : Text) :
    ∃ front last, ∀ t head tail, splitAtSlashes t = head :: tail →
      splitAtSlashes (s ++ t) = front ++ (last ++ head) :: tail := by
  induction s with
  | nil => exact ⟨[], [], fun t head tail ht => ht⟩
  | cons c s ih =>
      obtain ⟨front, last, hsplit⟩ := ih
      by_cases hslash : c = slash
      · refine ⟨[] :: front, last, fun t head tail ht => ?_⟩
        rw [List.cons_append, splitAtSlashes, if_pos hslash, hsplit t head tail ht, List.cons_append]
      · cases front with
        | nil =>
            refine ⟨[], c :: last, fun t head tail ht => ?_⟩
            rw [List.cons_append, splitAtSlashes, if_neg hslash, hsplit t head tail ht]
            rfl
        | cons first front =>
            refine ⟨(c :: first) :: front, last, fun t head tail ht => ?_⟩
            rw [List.cons_append, splitAtSlashes, if_neg hslash, hsplit t head tail ht]
            rfl

/-- A text without separators is a part of what stands before and behind it. -/
theorem splitAtSlashes_append_of_no_slash
    {s t head : Text}
    {tail : List Text}
    (hs : ∀ c ∈ s, c ≠ slash)
    (ht : splitAtSlashes t = head :: tail) :
    splitAtSlashes (s ++ t) = (s ++ head) :: tail := by
  induction s with
  | nil => exact ht
  | cons c s ih =>
      rw [List.cons_append, splitAtSlashes, if_neg (hs c List.mem_cons_self),
        ih fun d hd => hs d (List.mem_cons_of_mem _ hd)]
      rfl

/-- The root of a path is told by what stands in front of its first other symbol. -/
theorem rootOf_append_cons
    {c : Symbol}
    (hc : c ≠ slash)
    (s t : Text) :
    rootOf (s ++ c :: t) = rootOf s := by
  have htaken : (s ++ c :: t).takeWhile (· == slash) = s.takeWhile (· == slash) := by
    induction s with
    | nil => simp [hc]
    | cons d s ih => simp only [List.cons_append, List.takeWhile_cons, ih]
  rw [rootOf, htaken, ← rootOf]

/-- A digit that stands in a part. -/
def HasDigit
    (part : Text) :
    Prop :=
  ∃ c : Char, c.isDigit = true ∧ .char c ∈ part

/-- A part with a digit is a name, and not that of the directory above. -/
theorem HasDigit.isName
    {part : Text}
    (h : HasDigit part) :
    isName part = true ∧ part ≠ ".." := by
  obtain ⟨c, hdigit, hmem⟩ := h
  have hpoint : c ≠ '.' := by
    rintro rfl
    cases hdigit
  have hne (points : List Char) (hpoints : ∀ d ∈ points, d = '.') : part ≠ Text.ofChars points := by
    rintro rfl
    obtain ⟨d, hd, hcd⟩ := List.mem_map.mp hmem
    exact hpoint ((Symbol.char.inj hcd).symm.trans (hpoints d hd))
  have hempty : part ≠ [] := hne [] (by simp)
  have hsingle : part ≠ "." := hne ['.'] (by simp)
  refine ⟨?_, hne ['.', '.'] (by simp)⟩
  simp [Path.isName, hempty, hsingle]

/-- Digits between two texts. -/
theorem hasDigit_append
    {digits : List Char}
    (hne : digits ≠ [])
    (hdigits : ∀ c ∈ digits, c.isDigit = true)
    (before after : Text) :
    HasDigit (before ++ (Text.ofChars digits ++ after)) := by
  obtain ⟨c, rest, rfl⟩ := List.exists_cons_of_ne_nil hne
  exact ⟨c, hdigits c List.mem_cons_self, by simp [Text.ofChars]⟩

/-- The names behind the first separator of a text. -/
def namesBehind
    (t : Text) :
    List Text :=
  (splitAtSlashes t).tail.filter isName

/-- The path of a text with digits in it. -/
theorem exists_ofText_eq
    (s t : Text) :
    ∃ front before after, ∀ digits : List Char, digits ≠ [] → (∀ c ∈ digits, c.isDigit = true) →
      ofText (s ++ Text.ofChars digits ++ t)
        = ⟨rootOf s, front ++ (before ++ (Text.ofChars digits ++ after)) :: namesBehind t⟩ := by
  obtain ⟨front, before, hsplit⟩ := exists_splitAtSlashes_append s
  obtain ⟨after, tail, ht⟩ := List.exists_cons_of_ne_nil (splitAtSlashes_ne_nil t)
  refine ⟨front.filter isName, before, after, fun digits hne hdigits => ?_⟩
  have hslash : ∀ c ∈ Text.ofChars digits, c ≠ slash := by
    intro c hc
    obtain ⟨d, hd, rfl⟩ := List.mem_map.mp hc
    rintro hslash
    obtain rfl : d = '/' := Symbol.char.inj hslash
    cases hdigits _ hd
  have hname := (hasDigit_append hne hdigits before after).isName.1
  have hroot : rootOf (s ++ Text.ofChars digits ++ t) = rootOf s := by
    obtain ⟨d, rest, rfl⟩ := List.exists_cons_of_ne_nil hne
    rw [List.append_assoc]
    exact rootOf_append_cons (hslash (.char d) List.mem_cons_self) s _
  rw [ofText, hroot, List.append_assoc,
    hsplit _ _ _ (splitAtSlashes_append_of_no_slash hslash ht), List.filter_append,
    List.filter_cons_of_pos hname]
  simp only [namesBehind, ht, List.tail_cons]

end Path

/-! ## The place of a numbered component -/

/-- The place that names lead to from another one, wherever they lead to one. -/
def lexicalPlace : Place → List Text → Place
  | place, [] => place
  | place, name :: rest =>
      if name = ".." then lexicalPlace place.dropLast rest
      else lexicalPlace (place ++ [Text.listed name]) rest

/-- Without links, where a way ends is told by its names alone. -/
theorem FileSystem.Leads.eq_lexicalPlace
    {fs : FileSystem}
    {links : Nat}
    {names : List Text}
    {place result : Place}
    (h : fs.Leads links names place result)
    (hlinks : fs.NoLinks) :
    result = lexicalPlace place names := by
  induction h with
  | here place => rfl
  | on enter_eq _ _ ih =>
      obtain ⟨_, _, rfl⟩ := enter_eq_ok_iff.mp enter_eq
      rw [ih, lexicalPlace]
      split <;> rfl
  | link _ link_eq _ _ => exact absurd link_eq (hlinks _ _)

theorem lexicalPlace_append
    (place : Place)
    (names rest : List Text) :
    lexicalPlace place (names ++ rest) = lexicalPlace (lexicalPlace place names) rest := by
  induction names generalizing place with
  | nil => rfl
  | cons name names ih =>
      simp only [List.cons_append, lexicalPlace]
      split <;> exact ih _

/-- A name leads into the directory that it names. -/
theorem lexicalPlace_append_cons
    {name : Text}
    (hname : name ≠ "..")
    (place : Place)
    (names rest : List Text) :
    lexicalPlace place (names ++ name :: rest)
      = lexicalPlace (lexicalPlace place names ++ [Text.listed name]) rest := by
  rw [lexicalPlace_append, lexicalPlace, if_neg hname]

/-- Without links, a path that leads anywhere leads to the place of its names. -/
theorem FileSystem.place_eq_lexicalPlace
    {fs : FileSystem}
    {p : Path}
    {place : Place}
    (hlinks : fs.NoLinks)
    (h : fs.place p = .ok place) :
    place = lexicalPlace [] (fs.namesTo p) :=
  (place_eq_ok_iff.mp h).2.eq_lexicalPlace hlinks

/-- Whether names lead out of the directory that lies `depth` names above. -/
def climbs : Nat → List Text → Bool
  | _, [] => false
  | depth, name :: rest =>
      if name = ".." then depth == 0 || climbs (depth - 1) rest else climbs (depth + 1) rest

/-- Names that do not climb lead to a place below. -/
theorem lexicalPlace_of_not_climbs
    {names : List Text}
    {below : Place}
    (h : climbs below.length names = false)
    (base : Place) :
    lexicalPlace (base ++ below) names = base ++ lexicalPlace below names := by
  induction names generalizing below with
  | nil => rfl
  | cons name rest ih =>
      rw [climbs] at h
      rw [lexicalPlace, lexicalPlace]
      split at h
      · rename_i hback
        rw [if_pos hback, if_pos hback]
        simp only [Bool.or_eq_false_iff, beq_eq_false_iff_ne] at h
        have hbelow : below ≠ [] := List.ne_nil_of_length_pos (Nat.pos_of_ne_zero h.1)
        rw [List.dropLast_append_of_ne_nil hbelow]
        exact ih (by rw [List.length_dropLast]; exact h.2)
      · rename_i hname
        rw [if_neg hname, if_neg hname, List.append_assoc]
        exact ih (by rw [List.length_append]; exact h)

/-- Names that climb out of a directory lead to the same place from every other one beside it. -/
theorem lexicalPlace_of_climbs
    {names : List Text}
    {below : Place}
    (h : climbs below.length names = true)
    (base : Place)
    (first second : Text) :
    lexicalPlace (base ++ first :: below) names = lexicalPlace (base ++ second :: below) names := by
  induction names generalizing below with
  | nil => cases h
  | cons name rest ih =>
      rw [climbs] at h
      rw [lexicalPlace, lexicalPlace]
      split at h
      · rename_i hback
        rw [if_pos hback, if_pos hback]
        cases below with
        | nil => rw [List.dropLast_concat, List.dropLast_concat]
        | cons next below =>
            rw [List.dropLast_append_cons, List.dropLast_append_cons, List.dropLast_cons_cons,
              List.dropLast_cons_cons]
            refine ih ?_
            rw [List.length_dropLast]
            simpa using h
      · rename_i hname
        rw [if_neg hname, if_neg hname, List.append_assoc, List.append_assoc, List.cons_append,
          List.cons_append]
        exact ih (by rw [List.length_append]; exact h)

/-- Two directories beside each other are left for the same place exactly by climbing out. -/
theorem lexicalPlace_eq_iff_climbs
    (base : Place)
    {first second : Text}
    (hne : first ≠ second)
    (names : List Text) :
    lexicalPlace (base ++ [first]) names = lexicalPlace (base ++ [second]) names
      ↔ climbs 0 names = true := by
  cases hclimbs : climbs 0 names with
  | true => exact iff_of_true (@lexicalPlace_of_climbs names [] hclimbs base first second) rfl
  | false =>
      have hbelow := @lexicalPlace_of_not_climbs names [] hclimbs
      have hfirst := hbelow (base ++ [first])
      have hsecond := hbelow (base ++ [second])
      rw [List.append_nil] at hfirst hsecond
      rw [hfirst, hsecond]
      simpa using hne

end Diorama
