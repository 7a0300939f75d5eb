import Diorama.Text.Symbol

/-!
# Texts

A text is a list of symbols; fixed wordings are written as strings and taken as texts.  Texts are
ordered by the code points of their symbols.

**Main statements.**
* `ofString_append` and `ofString_injective`: a string keeps its identity as a text.
* `toString?_ofString`, `toString?_eq_some_iff`: the string of a text without surrogates.
-/

namespace Diorama

/-- A list of symbols. -/
abbrev Text := List Symbol

namespace Text

/-- Characters as a text. -/
def ofChars
    (cs : List Char) :
    Text :=
  cs.map .char

/-- A string as a text. -/
def ofString
    (s : String) :
    Text :=
  ofChars s.toList

instance : Coe String Text :=
  ⟨ofString⟩

/-- Whether a text is made of characters alone. -/
def isPlain
    (t : Text) :
    Bool :=
  t.all fun c => c.is fun _ => true

/-- The characters of a text; the replacement character takes the place of a surrogate. -/
def toChars
    (t : Text) :
    List Char :=
  t.map Symbol.toChar

/-- The string of a text, if it is made of characters alone. -/
def toString?
    (t : Text) :
    Option String :=
  if isPlain t then some (String.ofList (toChars t)) else none

/-- Texts with a separator between them. -/
def intercalate
    (separator : Text)
    (texts : List Text) :
    Text :=
  List.intercalate separator texts

@[simp]
theorem isPlain_ofChars
    (cs : List Char) :
    isPlain (ofChars cs) = true := by
  simp [isPlain, ofChars]

@[simp]
theorem toChars_ofChars
    (cs : List Char) :
    toChars (ofChars cs) = cs := by
  induction cs with
  | nil => rfl
  | cons c cs ih => exact congrArg (c :: ·) ih

@[simp]
theorem toString?_ofString
    (s : String) :
    toString? (ofString s) = some s := by
  simp [toString?, ofString]

theorem ofChars_toChars
    {t : Text}
    (h : isPlain t = true) :
    ofChars (toChars t) = t := by
  induction t with
  | nil => rfl
  | cons c t ih =>
      simp only [isPlain, List.all_cons, Bool.and_eq_true] at h
      cases c with
      | char c => exact congrArg (Symbol.char c :: ·) (ih h.2)
      | surrogate index => exact absurd h.1 (by simp)

theorem toString?_eq_some_iff
    {t : Text}
    {s : String} :
    toString? t = some s ↔ t = ofString s := by
  constructor
  · intro h
    unfold toString? at h
    split at h
    · rename_i hplain
      cases h
      rw [ofString, String.toList_ofList, ofChars_toChars hplain]
    · cases h
  · rintro rfl
    exact toString?_ofString s

theorem ofString_injective
    {s t : String}
    (h : ofString s = ofString t) :
    s = t := by
  have hs : toString? (ofString s) = toString? (ofString t) := congrArg toString? h
  simpa using hs

theorem ofString_inj
    {s t : String} :
    ofString s = ofString t ↔ s = t :=
  ⟨ofString_injective, congrArg ofString⟩

theorem ofString_append
    (s t : String) :
    ofString (s ++ t) = ofString s ++ ofString t := by
  simp [ofString, ofChars]

end Text
end Diorama
