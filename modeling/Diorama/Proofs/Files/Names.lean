import Diorama.Files.Name
import Diorama.Proofs.Text.Encoding

/-!
# Names and their bytes

The text that a directory shows for a name has the bytes of the name, so it names the same file,
and names with different bytes are shown as different texts.

**Main statements.**
* `nameBytes_listed`: what a directory shows has the bytes of the name.
* `listed_ne`: names that differ in some characters only are those of different files.
-/

namespace Diorama
namespace Text

/-- The character at the front of bytes is written with these bytes. -/
theorem utf8EncodeChar_of_leadingChar?
    {first : UInt8}
    {rest : List UInt8}
    {c : Char}
    {count : Nat}
    (h : leadingChar? first rest = some (c, count)) :
    String.utf8EncodeChar c = first :: rest.take count := by
  unfold leadingChar? at h
  split at h
  · cases h
  · rename_i wanted hlength
    simp only at h
    split at h
    · rename_i hfits
      obtain ⟨more, value, htaken, hcount, hsequence⟩ := exists_sequence_of_fits hlength hfits
      have hfitting : fittingBytes first wanted rest = wanted - 1 := by omega
      simp only [hfitting, htaken, Option.some.injEq, Prod.mk.injEq] at h
      obtain ⟨rfl, rfl⟩ := h
      rw [hsequence.sequenceValue_eq, hsequence.utf8EncodeChar_eq, htaken]
    · cases h

/-- A byte below U+0080 is a character on its own. -/
theorem not_lt_of_leadingChar?_eq_none
    {first : UInt8}
    {rest : List UInt8}
    (h : leadingChar? first rest = none) :
    0x80 ≤ first.toNat := by
  refine Nat.le_of_not_lt fun hlow => ?_
  have hone : Sequence first [] first.toNat := .one (by omega)
  have hfits := hone.fittingBytes_eq rest
  simp only [List.nil_append, List.length_nil, Nat.zero_add] at hfits
  simp [leadingChar?, hone.sequenceLength?_eq, hfits] at h

/-- A byte that belongs to no character is kept as it is. -/
theorem nameBytes_ofByte
    {b : UInt8}
    (h : 0x80 ≤ b.toNat) :
    (Symbol.ofByte b).nameBytes = [b] := by
  have hb := b.toNat_lt
  have hunit : Symbol.ofByte b = .surrogate ⟨0x400 + b.toNat, by omega⟩ := by
    have hrange : 0xd800 ≤ 0xdc00 + b.toNat ∧ 0xdc00 + b.toNat < 0xe000 := by omega
    rw [Symbol.ofByte, Symbol.ofUnit, dif_pos hrange]
    exact congrArg Symbol.surrogate (Fin.ext (by simp; omega))
  have hcode : Symbol.isByte (0xd800 + (0x400 + b.toNat)) = true := by
    simp only [Symbol.isByte, Bool.and_eq_true, decide_eq_true_eq]
    omega
  have hdigits : 0xd800 + (0x400 + b.toNat) - 0xdc00 = b.toNat := by omega
  simp only [hunit, Symbol.nameBytes, Symbol.code, hcode, if_true, hdigits, UInt8.ofNat_toNat]

/-- The text of the bytes of a name has these bytes. -/
theorem nameBytes_ofNameBytes
    (bytes : List UInt8) :
    nameBytes (ofNameBytes bytes) = bytes := by
  fun_induction ofNameBytes bytes with
  | case1 => rfl
  | case2 first rest c count hleading ih =>
      have hbytes := utf8EncodeChar_of_leadingChar? hleading
      rw [nameBytes, List.flatMap_cons, ← nameBytes, ih, Symbol.nameBytes, hbytes,
        List.cons_append, List.take_append_drop]
  | case3 first rest hnone ih =>
      rw [nameBytes, List.flatMap_cons, ← nameBytes, ih,
        nameBytes_ofByte (not_lt_of_leadingChar?_eq_none hnone)]
      rfl

/-- What a directory shows for a name has the bytes of the name. -/
theorem nameBytes_listed
    (name : Text) :
    nameBytes (listed name) = nameBytes name :=
  nameBytes_ofNameBytes _

theorem nameBytes_append
    (s t : Text) :
    nameBytes (s ++ t) = nameBytes s ++ nameBytes t :=
  List.flatMap_append

/-- Characters are known by their bytes in a name. -/
theorem ofChars_bytes_injective
    {cs ds : List Char}
    (h : nameBytes (ofChars cs) = nameBytes (ofChars ds)) :
    cs = ds := by
  have hbytes (es : List Char) : encodeUtf8 (String.ofList es) = nameBytes (ofChars es) := by
    rw [encodeUtf8_eq, String.toList_ofList, nameBytes, ofChars, List.flatMap_map]
    rfl
  have hdecoded := congrArg decodeUtf8 ((hbytes cs).trans (h.trans (hbytes ds).symm))
  rw [decodeUtf8_encodeUtf8, decodeUtf8_encodeUtf8] at hdecoded
  exact String.ofList_injective (Except.ok.inj hdecoded)

/-- Different characters between the same texts make names of different files. -/
theorem listed_ne
    {cs ds : List Char}
    (hne : cs ≠ ds)
    (before after : Text) :
    listed (before ++ (ofChars cs ++ after)) ≠ listed (before ++ (ofChars ds ++ after)) := by
  intro hlisted
  have hbytes := congrArg nameBytes hlisted
  simp only [nameBytes_listed, nameBytes_append, List.append_cancel_left_eq,
    List.append_cancel_right_eq] at hbytes
  exact hne (ofChars_bytes_injective hbytes)

end Text
end Diorama
