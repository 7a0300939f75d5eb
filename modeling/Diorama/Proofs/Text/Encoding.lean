import Diorama.Text.Utf8

/-!
# Characters and their bytes

A character is written as a sequence of one to four bytes, and a reader takes exactly these
sequences for characters, each for the one that is written so.  A text that was written in UTF-8
is read back as it was.

**Main statements.**
* `exists_sequence_of_char`: the bytes of a character are a sequence.
* `exists_sequence_of_fits`: what a reader takes for a character is a sequence.
* `decodeUtf8_encodeUtf8`: a text is read back from its bytes.
-/

namespace Diorama
namespace Text

theorem isContinuation_iff
    (b : UInt8) :
    isContinuation b = true ↔ 0x80 ≤ b.toNat ∧ b.toNat < 0xc0 := by
  simp [isContinuation, UInt8.le_iff_toNat_le, UInt8.lt_iff_toNat_lt]

theorem maySecond_iff
    (first second : UInt8) :
    maySecond first second = true
      ↔ (0x80 ≤ second.toNat ∧ second.toNat < 0xc0)
        ∧ (first.toNat = 0xe0 → 0xa0 ≤ second.toNat)
        ∧ (first.toNat = 0xed → second.toNat < 0xa0)
        ∧ (first.toNat = 0xf0 → 0x90 ≤ second.toNat)
        ∧ (first.toNat = 0xf4 → second.toNat < 0x90) := by
  simp [maySecond, isContinuation, UInt8.le_iff_toNat_le, UInt8.lt_iff_toNat_lt, ← UInt8.toNat_inj]
  omega

theorem sequenceLength?_eq
    (first : UInt8) :
    sequenceLength? first
      = if first.toNat < 0x80 then some 1
        else if first.toNat < 0xc2 then none
        else if first.toNat < 0xe0 then some 2
        else if first.toNat < 0xf0 then some 3
        else if first.toNat < 0xf5 then some 4
        else none := by
  simp [sequenceLength?, UInt8.lt_iff_toNat_lt]

theorem toNat_ofNat
    {n : Nat}
    (h : n.isValidChar) :
    (Char.ofNat n).toNat = n := by
  rw [Char.ofNat, dif_pos h]
  rfl

/-- The well-formed sequences of bytes by their lengths, with the bits of their characters. -/
inductive Sequence : UInt8 → List UInt8 → Nat → Prop
  | one
      {a : UInt8}
      (ha : a.toNat < 0x80) :
      Sequence a [] a.toNat
  | two
      {a b : UInt8}
      (low : 0xc2 ≤ a.toNat)
      (high : a.toNat < 0xe0)
      (hb : maySecond a b = true) :
      Sequence a [b] ((a.toNat - 0xc0) * 64 + (b.toNat - 0x80))
  | three
      {a b c : UInt8}
      (low : 0xe0 ≤ a.toNat)
      (high : a.toNat < 0xf0)
      (hb : maySecond a b = true)
      (hc : isContinuation c = true) :
      Sequence a [b, c] (((a.toNat - 0xe0) * 64 + (b.toNat - 0x80)) * 64 + (c.toNat - 0x80))
  | four
      {a b c d : UInt8}
      (low : 0xf0 ≤ a.toNat)
      (high : a.toNat < 0xf5)
      (hb : maySecond a b = true)
      (hc : isContinuation c = true)
      (hd : isContinuation d = true) :
      Sequence a [b, c, d]
        ((((a.toNat - 0xf0) * 64 + (b.toNat - 0x80)) * 64 + (c.toNat - 0x80)) * 64
          + (d.toNat - 0x80))

namespace Sequence

variable {first : UInt8} {more : List UInt8} {value : Nat}

/-- The bits of a sequence are the code point of a character. -/
theorem isValidChar
    (h : Sequence first more value) :
    value.isValidChar := by
  simp only [Nat.isValidChar]
  cases h with
  | one ha => omega
  | two low high hb =>
      have hb := (maySecond_iff _ _).mp hb
      omega
  | three low high hb hc =>
      have hb := (maySecond_iff _ _).mp hb
      have hc := (isContinuation_iff _).mp hc
      omega
  | four low high hb hc hd =>
      have hb := (maySecond_iff _ _).mp hb
      have hc := (isContinuation_iff _).mp hc
      have hd := (isContinuation_iff _).mp hd
      omega

/-- The sequence is how that character is written. -/
theorem utf8EncodeChar_eq
    (h : Sequence first more value) :
    String.utf8EncodeChar (Char.ofNat value) = first :: more := by
  have hvalue : (Char.ofNat value).val.toNat = value := toNat_ofNat h.isValidChar
  simp only [String.utf8EncodeChar, hvalue]
  cases h with
  | one ha =>
      rw [if_pos (by omega)]
      simp
  | two low high hb =>
      have hb := (maySecond_iff _ _).mp hb
      rw [if_neg (by omega), if_pos (by omega)]
      simp only [List.cons.injEq, and_true, ← UInt8.toNat_inj, UInt8.toNat_ofNat']
      omega
  | three low high hb hc =>
      have hb := (maySecond_iff _ _).mp hb
      have hc := (isContinuation_iff _).mp hc
      rw [if_neg (by omega), if_neg (by omega), if_pos (by omega)]
      obtain ⟨hb, -⟩ := hb
      simp only [List.cons.injEq, and_true, ← UInt8.toNat_inj, UInt8.toNat_ofNat']
      refine ⟨?_, ?_, ?_⟩ <;> omega
  | four low high hb hc hd =>
      have hb := (maySecond_iff _ _).mp hb
      have hc := (isContinuation_iff _).mp hc
      have hd := (isContinuation_iff _).mp hd
      rw [if_neg (by omega), if_neg (by omega), if_neg (by omega)]
      obtain ⟨hb, -⟩ := hb
      simp only [List.cons.injEq, and_true, ← UInt8.toNat_inj, UInt8.toNat_ofNat']
      refine ⟨?_, ?_, ?_, ?_⟩ <;> omega

theorem sequenceLength?_eq
    (h : Sequence first more value) :
    sequenceLength? first = some (more.length + 1) := by
  rw [Text.sequenceLength?_eq]
  cases h with
  | one ha => simp [ha]
  | two low high hb => 
      rw [if_neg (by omega), if_neg (by omega), if_pos high]
      rfl
  | three low high hb hc =>
      rw [if_neg (by omega), if_neg (by omega), if_neg (by omega), if_pos high]
      rfl
  | four low high hb hc hd =>
      rw [if_neg (by omega), if_neg (by omega), if_neg (by omega), if_neg (by omega), if_pos high]
      rfl

theorem fittingBytes_eq
    (h : Sequence first more value)
    (rest : List UInt8) :
    fittingBytes first (more.length + 1) (more ++ rest) = more.length := by
  cases h <;> simp_all [fittingBytes]

theorem sequenceValue_eq
    (h : Sequence first more value) :
    sequenceValue first more = value := by
  cases h <;> rfl

end Sequence

/-- The byte that carries six bits of a code point, from the place of a power of two on. -/
def tailByte
    (n place : Nat) :
    UInt8 :=
  UInt8.ofNat (n / place % 64 + 0x80)

theorem toNat_tailByte
    (n place : Nat) :
    (tailByte n place).toNat = n / place % 64 + 0x80 := by
  rw [tailByte, UInt8.toNat_ofNat']
  omega

theorem isContinuation_tailByte
    (n place : Nat) :
    isContinuation (tailByte n place) = true := by
  rw [isContinuation_iff, toNat_tailByte]
  omega

theorem Sequence.of_value
    {first : UInt8}
    {more : List UInt8}
    {value n : Nat}
    (h : Sequence first more value)
    (hvalue : value = n) :
    Sequence first more n :=
  hvalue ▸ h

/-- Every character is written as a sequence. -/
theorem exists_sequence
    (c : Char) :
    ∃ first more, Sequence first more c.toNat := by
  have hvalid : c.toNat < 0xd800 ∨ 0xdfff < c.toNat ∧ c.toNat < 0x110000 := c.valid
  generalize c.toNat = n at hvalid
  have hbyte {m : Nat} (hm : m < 256) : (UInt8.ofNat m).toNat = m := by
    rw [UInt8.toNat_ofNat']
    omega
  by_cases hone : n < 0x80
  · have ha : (UInt8.ofNat n).toNat = n := hbyte (by omega)
    exact ⟨UInt8.ofNat n, [], Sequence.of_value (.one (by omega)) ha⟩
  by_cases htwo : n < 0x800
  · have ha : (UInt8.ofNat (n / 64 + 0xc0)).toNat = n / 64 + 0xc0 := hbyte (by omega)
    have hb : maySecond (UInt8.ofNat (n / 64 + 0xc0)) (tailByte n 1) = true := by
      rw [maySecond_iff, ha, toNat_tailByte]
      omega
    refine ⟨_, _, Sequence.of_value (.two (by omega) (by omega) hb) ?_⟩
    rw [ha, toNat_tailByte]
    omega
  by_cases hthree : n < 0x10000
  · have ha : (UInt8.ofNat (n / 4096 + 0xe0)).toNat = n / 4096 + 0xe0 := hbyte (by omega)
    have hb : maySecond (UInt8.ofNat (n / 4096 + 0xe0)) (tailByte n 64) = true := by
      rw [maySecond_iff, ha, toNat_tailByte]
      omega
    refine ⟨_, _, Sequence.of_value
      (.three (by omega) (by omega) hb (isContinuation_tailByte n 1)) ?_⟩
    rw [ha, toNat_tailByte, toNat_tailByte]
    omega
  · have ha : (UInt8.ofNat (n / 262144 + 0xf0)).toNat = n / 262144 + 0xf0 := hbyte (by omega)
    have hb : maySecond (UInt8.ofNat (n / 262144 + 0xf0)) (tailByte n 4096) = true := by
      rw [maySecond_iff, ha, toNat_tailByte]
      omega
    refine ⟨_, _, Sequence.of_value (.four (by omega) (by omega) hb
      (isContinuation_tailByte n 64) (isContinuation_tailByte n 1)) ?_⟩
    rw [ha, toNat_tailByte, toNat_tailByte, toNat_tailByte]
    omega

/-- The bytes of a character are a sequence. -/
theorem exists_sequence_of_char
    (c : Char) :
    ∃ first more, String.utf8EncodeChar c = first :: more ∧ Sequence first more c.toNat := by
  obtain ⟨first, more, h⟩ := exists_sequence c
  refine ⟨first, more, ?_, h⟩
  rw [← h.utf8EncodeChar_eq, Char.ofNat_toNat]

/-- Where enough bytes fit, the second may follow the first and the others continue. -/
theorem continued_of_fits
    {first : UInt8}
    {count : Nat}
    {rest : List UInt8}
    (h : fittingBytes first (count + 2) rest = count + 1) :
    ∃ second more, rest.take (count + 1) = second :: more ∧ maySecond first second = true
      ∧ more.length = count ∧ ∀ b ∈ more, isContinuation b = true := by
  simp only [fittingBytes, Nat.add_one_sub_one] at h
  cases htaken : rest.take (count + 1) with
  | nil => simp [htaken] at h
  | cons second more =>
      simp only [htaken] at h
      split at h
      · rename_i hsecond
        have hlength : (second :: more).length ≤ count + 1 := by
          rw [← htaken]
          exact List.length_take_le _ _
        have hprefix := List.takeWhile_prefix (l := more) isContinuation
        have hshorter := hprefix.length_le
        rw [List.length_cons] at hlength
        have hall : more.takeWhile isContinuation = more := hprefix.eq_of_length (by omega)
        have hcontinue := List.all_takeWhile (l := more) (p := isContinuation)
        rw [hall, List.all_eq_true] at hcontinue
        rw [hall] at h
        exact ⟨second, more, rfl, hsecond, by omega, hcontinue⟩
      · omega

/-- Bytes that fit make a sequence. -/
theorem exists_sequence_of_fits
    {first : UInt8}
    {wanted : Nat}
    {rest : List UInt8}
    (hlength : sequenceLength? first = some wanted)
    (hfits : fittingBytes first wanted rest + 1 = wanted) :
    ∃ more value, rest.take (wanted - 1) = more ∧ more.length + 1 = wanted
      ∧ Sequence first more value := by
  rw [sequenceLength?_eq] at hlength
  split at hlength
  · rename_i hone
    cases hlength
    exact ⟨[], _, rfl, rfl, .one hone⟩
  split at hlength
  · cases hlength
  split at hlength
  · cases hlength
    obtain ⟨b, more, htaken, hb, hcount, _⟩ := continued_of_fits (Nat.succ.inj hfits)
    obtain rfl := List.length_eq_zero_iff.mp hcount
    exact ⟨[b], _, htaken, rfl, .two (by omega) (by omega) hb⟩
  split at hlength
  · cases hlength
    obtain ⟨b, more, htaken, hb, hcount, hmore⟩ := continued_of_fits (Nat.succ.inj hfits)
    obtain ⟨c, rfl⟩ := List.length_eq_one_iff.mp hcount
    exact ⟨[b, c], _, htaken, rfl, .three (by omega) (by omega) hb (hmore c (by simp))⟩
  split at hlength
  · cases hlength
    obtain ⟨b, more, htaken, hb, hcount, hmore⟩ := continued_of_fits (Nat.succ.inj hfits)
    match more, hcount with
    | [c, d], _ =>
        exact ⟨[b, c, d], _, htaken, rfl,
          .four (by omega) (by omega) hb (hmore c (by simp)) (hmore d (by simp))⟩
  · cases hlength

/-! Texts and their bytes. -/

theorem toList_loop
    (bytes : ByteArray)
    (i : Nat)
    (done : List UInt8) :
    ByteArray.toList.loop bytes i done = done.reverse ++ bytes.data.toList.drop i := by
  fun_induction ByteArray.toList.loop bytes i done with
  | case1 i done hlt ih =>
      have hi : i < bytes.data.toList.length := hlt
      rw [ih, List.drop_eq_getElem_cons hi, List.reverse_cons, List.append_assoc]
      simp [ByteArray.get!, hlt]
  | case2 i done hge =>
      have hi : bytes.data.toList.length ≤ i := Nat.le_of_not_lt hge
      rw [List.drop_eq_nil_of_le hi, List.append_nil]

/-- The bytes of a text are those of its characters. -/
theorem encodeUtf8_eq
    (s : String) :
    encodeUtf8 s = s.toList.flatMap String.utf8EncodeChar := by
  have hbytes : s.toUTF8 = (s.toList.flatMap String.utf8EncodeChar).toByteArray := by
    rw [String.toUTF8_eq_toByteArray, ← String.utf8Encode_toList, List.utf8Encode]
  rw [encodeUtf8, hbytes, ByteArray.toList, toList_loop, List.toList_data_toByteArray]
  rfl

/-- Reading the bytes of characters from some position on. -/
theorem decodeFrom_flatMap
    (cs done : List Char)
    (position : Nat)
    {fuel : Nat}
    (hfuel : cs.length ≤ fuel) :
    decodeFrom fuel position done (cs.flatMap String.utf8EncodeChar) = .ok (done.reverse ++ cs) := by
  induction cs generalizing done position fuel with
  | nil => cases fuel <;> simp [decodeFrom]
  | cons c cs ih =>
      obtain ⟨first, more, hbytes, hsequence⟩ := exists_sequence_of_char c
      obtain ⟨fuel, rfl⟩ : ∃ n, fuel = n + 1 :=
        Nat.exists_eq_add_one.mpr (Nat.lt_of_lt_of_le (Nat.succ_pos _) hfuel)
      have hfits := hsequence.fittingBytes_eq (cs.flatMap String.utf8EncodeChar)
      rw [List.flatMap_cons, hbytes, List.cons_append, decodeFrom]
      simp only [hsequence.sequenceLength?_eq, hfits, if_true, List.take_left, List.drop_left,
        hsequence.sequenceValue_eq, Char.ofNat_toNat]
      rw [ih _ _ (Nat.le_of_succ_le_succ hfuel), List.reverse_cons, List.append_assoc]
      rfl

theorem length_le_length_flatMap
    (cs : List Char) :
    cs.length ≤ (cs.flatMap String.utf8EncodeChar).length := by
  induction cs with
  | nil => exact Nat.le_refl _
  | cons c cs ih =>
      obtain ⟨first, more, hbytes, _⟩ := exists_sequence_of_char c
      rw [List.flatMap_cons, hbytes, List.length_append, List.length_cons, List.length_cons]
      omega

/-- A text is read back from its bytes. -/
theorem decodeUtf8_encodeUtf8
    (s : String) :
    decodeUtf8 (encodeUtf8 s) = .ok s := by
  have hdecoded := decodeFrom_flatMap s.toList [] 0 (length_le_length_flatMap s.toList)
  rw [decodeUtf8, encodeUtf8_eq, hdecoded, List.reverse_nil, List.nil_append]
  exact congrArg Except.ok String.ofList_toList

end Text
end Diorama
