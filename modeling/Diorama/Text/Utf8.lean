import Diorama.Text.Quoted

/-!
# Reading UTF-8

Bytes are read as characters one well-formed sequence at a time.  What is not well-formed is
reported with the extent of the longest part that could still have begun a character.
-/

namespace Diorama
namespace Text

/-- What is wrong with a sequence of bytes. -/
inductive Utf8Fault
  | invalidStart
  | invalidContinuation
  | unexpectedEnd
  deriving DecidableEq

/-- A fault in bytes, where it begins, how long it is, and its first byte. -/
structure Utf8Error where
  fault : Utf8Fault
  position : Nat
  length : Nat
  first : UInt8
  deriving DecidableEq

/-- Whether a byte continues a character. -/
def isContinuation
    (b : UInt8) :
    Bool :=
  decide (0x80 ≤ b) && decide (b < 0xc0)

/-- Whether a second byte may follow a first one. -/
def maySecond
    (first second : UInt8) :
    Bool :=
  isContinuation second
    && !(first == 0xe0 && decide (second < 0xa0))
    && !(first == 0xed && decide (0xa0 ≤ second))
    && !(first == 0xf0 && decide (second < 0x90))
    && !(first == 0xf4 && decide (0x90 ≤ second))

/-- The number of bytes of a character that begins with a byte. -/
def sequenceLength?
    (first : UInt8) :
    Option Nat :=
  if first < 0x80 then some 1
  else if first < 0xc2 then none
  else if first < 0xe0 then some 2
  else if first < 0xf0 then some 3
  else if first < 0xf5 then some 4
  else none

/-- The number of bytes behind the first one that fit a character of `wanted` bytes. -/
def fittingBytes
    (first : UInt8)
    (wanted : Nat)
    (rest : List UInt8) :
    Nat :=
  match rest.take (wanted - 1) with
  | [] => 0
  | second :: more =>
      if maySecond first second then 1 + (more.takeWhile isContinuation).length else 0

/-- The bits of a well-formed sequence that belong to the character. -/
def sequenceValue
    (first : UInt8)
    (rest : List UInt8) :
    Nat :=
  let lead :=
    match rest.length with
    | 0 => first.toNat
    | 1 => first.toNat - 0xc0
    | 2 => first.toNat - 0xe0
    | _ => first.toNat - 0xf0
  rest.foldl (fun n b => n * 64 + (b.toNat - 0x80)) lead

/-- The characters of bytes from a position on; `done` holds those before, last one first. -/
def decodeFrom : Nat → Nat → List Char → List UInt8 → Except Utf8Error (List Char)
  | _, _, done, [] => .ok done.reverse
  | 0, _, done, _ => .ok done.reverse
  | fuel + 1, position, done, first :: rest =>
      match sequenceLength? first with
      | none => .error ⟨.invalidStart, position, 1, first⟩
      | some wanted =>
          let fitting := fittingBytes first wanted rest
          if fitting + 1 = wanted then
            let made := Char.ofNat (sequenceValue first (rest.take fitting))
            decodeFrom fuel (position + wanted) (made :: done) (rest.drop fitting)
          else if fitting = rest.length then
            .error ⟨.unexpectedEnd, position, fitting + 1, first⟩
          else .error ⟨.invalidContinuation, position, fitting + 1, first⟩

/-- The text of UTF-8 bytes. -/
def decodeUtf8
    (bytes : List UInt8) :
    Except Utf8Error String :=
  match decodeFrom bytes.length 0 [] bytes with
  | .ok cs => .ok (String.ofList cs)
  | .error e => .error e

/-- The character that stands for bytes that are not well-formed. -/
def replacementCharacter : Char := Char.ofNat 0xfffd

/-- The characters of bytes; a part that could still have begun one is replaced as a whole. -/
def decodeReplacing : List UInt8 → List Char
  | [] => []
  | first :: rest =>
      match sequenceLength? first with
      | none => replacementCharacter :: decodeReplacing rest
      | some wanted =>
          let fitting := fittingBytes first wanted rest
          let read :=
            if fitting + 1 = wanted then Char.ofNat (sequenceValue first (rest.take fitting))
            else replacementCharacter
          read :: decodeReplacing (rest.drop fitting)
termination_by bytes => bytes.length
decreasing_by
  · simp
  · simp only [List.length_drop, List.length_cons]
    omega

/-- The UTF-8 bytes of a text. -/
def encodeUtf8
    (s : String) :
    List UInt8 :=
  s.toUTF8.toList

/-- What a fault is called. -/
def Utf8Fault.message : Utf8Fault → String
  | invalidStart => "invalid start byte"
  | invalidContinuation => "invalid continuation byte"
  | unexpectedEnd => "unexpected end of data"

/-- The report on bytes that are not UTF-8. -/
def Utf8Error.message
    (e : Utf8Error) :
    String :=
  let number (n : Nat) := String.ofList (Nat.toDigits 10 n)
  let which :=
    if e.length = 1 then
      "byte 0x" ++ String.ofList (hexDigits 2 e.first.toNat) ++ " in position " ++ number e.position
    else
      "bytes in position " ++ number e.position ++ "-" ++ number (e.position + e.length - 1)
  "'utf-8' codec can't decode " ++ which ++ ": " ++ e.fault.message

end Text
end Diorama
