/-!
# Symbols

Texts may be given by UTF-16 units or by bytes, and then need not be made of characters alone: a
surrogate without its partner is a symbol of its own, next to the characters.

**Main statement.**
* `code_injective`: a symbol is known by its code point.
-/

namespace Diorama

/-- A character, or one of the surrogates from U+D800 on. -/
inductive Symbol
  | char (c : Char)
  | surrogate (index : Fin 0x800)
  deriving DecidableEq

namespace Symbol

instance : Coe Char Symbol :=
  ⟨char⟩

/-- The code point of a symbol. -/
def code : Symbol → Nat
  | char c => c.toNat
  | surrogate index => 0xd800 + index.val

/-- Whether a symbol is a character with a property. -/
def is
    (property : Char → Bool) :
    Symbol → Bool
  | char c => property c
  | surrogate _ => false

/-- The symbol of a UTF-16 unit that stands alone. -/
def ofUnit
    (unit : Nat) :
    Symbol :=
  if h : 0xd800 ≤ unit ∧ unit < 0xe000 then
    surrogate ⟨unit - 0xd800, by omega⟩
  else char (Char.ofNat unit)

/-- The number of a surrogate. -/
def unit? : Symbol → Option Nat
  | char _ => none
  | surrogate index => some (0xd800 + index.val)

/-- The character of a symbol; the replacement character takes the place of a surrogate. -/
def toChar : Symbol → Char
  | char c => c
  | surrogate _ => Char.ofNat 0xfffd

instance : LT Symbol :=
  ⟨fun a b => a.code < b.code⟩

instance
    (a b : Symbol) :
    Decidable (a < b) :=
  inferInstanceAs (Decidable (a.code < b.code))

@[simp]
theorem is_char
    (property : Char → Bool)
    (c : Char) :
    (char c).is property = property c :=
  rfl

@[simp]
theorem is_surrogate
    (property : Char → Bool)
    (index : Fin 0x800) :
    (surrogate index).is property = false :=
  rfl

theorem code_char_ne_code_surrogate
    (c : Char)
    (index : Fin 0x800) :
    (char c).code ≠ (surrogate index).code := by
  intro h
  have hvalid : c.toNat < 0xd800 ∨ 0xdfff < c.toNat ∧ c.toNat < 0x110000 := c.valid
  have hindex := index.isLt
  simp only [code] at h
  omega

theorem code_injective
    {a b : Symbol}
    (h : a.code = b.code) :
    a = b := by
  cases a with
  | char c =>
      cases b with
      | char d => exact congrArg char (Char.ext (UInt32.toNat.inj h))
      | surrogate index => exact absurd h (code_char_ne_code_surrogate c index)
  | surrogate index =>
      cases b with
      | char d => exact absurd h.symm (code_char_ne_code_surrogate d index)
      | surrogate other =>
          have hval : index.val = other.val := by
            simpa only [code, Nat.add_left_cancel_iff] using h
          exact congrArg surrogate (Fin.ext hval)

end Symbol
end Diorama
