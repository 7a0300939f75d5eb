import Diorama.Json.Value
import Diorama.Number.Numeral

/-!
# Reading documents

A document is one value between blanks.  Besides the numbers of the format the names `NaN`,
`Infinity` and `-Infinity` are read, and a later member of an object takes the place of an
earlier one of the same name.  A fault is reported with the position at which it was noticed.
-/

namespace Diorama
namespace Json

/-- What can be wrong with a document. -/
inductive Fault
  | byteOrderMark
  | extraData
  | expectedValue
  | expectedName
  | expectedColon
  | expectedComma
  | unterminatedText
  | controlCharacter
  | badEscape
  | badUnicodeEscape
  | integerTooLong (digits : Nat)
  | tooDeep
  deriving DecidableEq

/-- A fault and the number of characters before it. -/
structure ReadError where
  fault : Fault
  position : Nat
  deriving DecidableEq

/-- The part of a document that is still to be read, and its position. -/
structure Cursor where
  rest : List Char
  position : Nat

namespace Cursor

/-- The cursor after the next character. -/
def next
    (c : Cursor) :
    Cursor :=
  ⟨c.rest.tail, c.position + 1⟩

/-- The cursor after `n` more characters. -/
def advance
    (c : Cursor)
    (n : Nat) :
    Cursor :=
  ⟨c.rest.drop n, c.position + n⟩

/-- Stop with a fault at this position. -/
def fail
    {α : Type}
    (c : Cursor)
    (fault : Fault) :
    Except ReadError α :=
  .error ⟨fault, c.position⟩

end Cursor

/-- The blanks of a document. -/
def isSpace
    (c : Char) :
    Bool :=
  c == ' ' || c == '\t' || c == '\n' || c == '\r'

/-- The cursor after the blanks at its front. -/
def skipSpaces
    (c : Cursor) :
    Cursor :=
  c.advance (c.rest.takeWhile isSpace).length

/-- The value of a hexadecimal digit. -/
def hexValue?
    (c : Char) :
    Option Nat :=
  let n := c.toNat
  if 0x30 ≤ n ∧ n ≤ 0x39 then some (n - 0x30)
  else if 0x41 ≤ n ∧ n ≤ 0x46 then some (n - 0x37)
  else if 0x61 ≤ n ∧ n ≤ 0x66 then some (n - 0x57)
  else none

/-- The value of four hexadecimal digits at the front. -/
def hexUnit?
    (cs : List Char) :
    Option Nat :=
  match cs.take 4 with
  | [a, b, c, d] => do
      let a ← hexValue? a
      let b ← hexValue? b
      let c ← hexValue? c
      let d ← hexValue? d
      return ((a * 16 + b) * 16 + c) * 16 + d
  | _ => none

/-- The character of an escape of one letter. -/
def simpleEscape?
    (c : Char) :
    Option Char :=
  if c = Text.doubleQuote ∨ c = Text.backslash ∨ c = '/' then some c
  else if c = 'b' then some (Char.ofNat 8)
  else if c = 'f' then some (Char.ofNat 12)
  else if c = 'n' then some '\n'
  else if c = 'r' then some '\r'
  else if c = 't' then some '\t'
  else none

/--
The symbol of an escape by number.  The cursor stands on the first digit; at least one more
character has to follow the four digits.  Two escapes that form a surrogate pair are one
character.
-/
def readUnicodeEscape
    (c : Cursor) :
    Except ReadError (Symbol × Cursor) :=
  if (c.rest.drop 4).isEmpty then .error ⟨.badUnicodeEscape, c.position - 1⟩
  else
    match hexUnit? c.rest with
    | none => .error ⟨.badUnicodeEscape, c.position - 1⟩
    | some unit =>
        let after := c.advance 4
        match after.rest with
        | b :: u :: more =>
            if 0xd800 ≤ unit ∧ unit < 0xdc00 ∧ more.drop 4 ≠ [] ∧ b = Text.backslash ∧ u = 'u' then
              match hexUnit? more with
              | none => .error ⟨.badUnicodeEscape, after.position + 1⟩
              | some second =>
                  if 0xdc00 ≤ second ∧ second < 0xe000 then
                    .ok (.char (Char.ofNat (0x10000 + (unit - 0xd800) * 0x400 + (second - 0xdc00))),
                      after.advance 6)
                  else .ok (.ofUnit unit, after)
            else .ok (.ofUnit unit, after)
        | _ => .ok (.ofUnit unit, after)

/--
The rest of a text up to its closing quote.  `start` is the position of the opening quote and
`done` holds the symbols read so far, last one first.
-/
def readText
    (start : Nat) :
    Nat → Text → Cursor → Except ReadError (Text × Cursor)
  | 0, _, _ => .error ⟨.unterminatedText, start⟩
  | fuel + 1, done, c =>
      match c.rest with
      | [] => .error ⟨.unterminatedText, start⟩
      | ch :: rest =>
          if ch = Text.doubleQuote then .ok (done.reverse, c.next)
          else if ch = Text.backslash then
            match rest with
            | [] => .error ⟨.unterminatedText, start⟩
            | letter :: _ =>
                if letter = 'u' then
                  match readUnicodeEscape (c.advance 2) with
                  | .error e => .error e
                  | .ok (made, after) => readText start fuel (made :: done) after
                else
                  match simpleEscape? letter with
                  | none => c.fail .badEscape
                  | some made => readText start fuel (.char made :: done) (c.advance 2)
          else if ch.toNat ≤ 0x1f then c.fail .controlCharacter
          else readText start fuel (.char ch :: done) c.next

/-- The digits of an exponent, if one begins here; the letter and its sign belong to it. -/
def exponentPart
    (cs : List Char) :
    List Char :=
  match cs with
  | mark :: rest =>
      if mark = 'e' ∨ mark = 'E' then
        let (sign, rest) :=
          match rest with
          | '-' :: more => (['-'], more)
          | '+' :: more => (['+'], more)
          | more => ([], more)
        let digits := rest.takeWhile Char.isDigit
        if digits.isEmpty then [] else mark :: sign ++ digits
      else []
  | [] => []

/-- The point and digits of a fraction, if one begins here. -/
def fractionPart
    (cs : List Char) :
    List Char :=
  match cs with
  | '.' :: rest =>
      let digits := rest.takeWhile Char.isDigit
      if digits.isEmpty then [] else '.' :: digits
  | _ => []

/-- The digits before the point: a zero stands alone. -/
def wholePart
    (cs : List Char) :
    List Char :=
  match cs with
  | '0' :: _ => ['0']
  | _ => cs.takeWhile Char.isDigit

/-- A number; whole unless it has a fraction or an exponent. -/
def readNumber
    (c : Cursor) :
    Except ReadError (Json × Cursor) :=
  let (negative, unsigned) := match c.rest with
    | '-' :: rest => (true, rest)
    | rest => (false, rest)
  let whole := wholePart unsigned
  if whole.isEmpty then c.fail .expectedValue
  else
    let fraction := fractionPart (unsigned.drop whole.length)
    let exponent := exponentPart (unsigned.drop (whole.length + fraction.length))
    let length := whole.length + fraction.length + exponent.length
    let after := c.advance (if negative then length + 1 else length)
    if fraction.isEmpty && exponent.isEmpty then
      if Number.maxIntegerDigits < whole.length then c.fail (.integerTooLong whole.length)
      else .ok (.int (Number.Exact.signed negative (Number.digitsValue whole)), after)
    else
      match Number.readMagnitude? (whole ++ fraction ++ exponent) with
      | none => c.fail .expectedValue
      | some x => .ok (.real (if negative then -x else x), after)

/-- The values that have a name of their own. -/
def namedValues : List (List Char × Json) :=
  [("null".toList, .null), ("true".toList, .bool true), ("false".toList, .bool false),
    ("NaN".toList, .real (0.0 / 0.0)), ("Infinity".toList, .real (1.0 / 0.0)),
    ("-Infinity".toList, .real (-1.0 / 0.0))]

/-- A named value or a number. -/
def readScalar
    (c : Cursor) :
    Except ReadError (Json × Cursor) :=
  match namedValues.find? fun entry => entry.1.isPrefixOf c.rest with
  | some (name, v) => .ok (v, c.advance name.length)
  | none => readNumber c

mutual

/--
One value at the cursor.  `limit` bounds the length of a text, and `depth` tells how many lists and
objects may still be opened inside each other.
-/
def readValue
    (limit : Nat) :
    Nat → Nat → Cursor → Except ReadError (Json × Cursor)
  | 0, _, c => c.fail .expectedValue
  | fuel + 1, depth, c =>
      match c.rest with
      | [] => c.fail .expectedValue
      | ch :: _ =>
          if ch = Text.doubleQuote then
            match readText c.position limit [] c.next with
            | .error e => .error e
            | .ok (s, after) => .ok (.text s, after)
          else if ch = '[' then
            match depth with
            | 0 => c.fail .tooDeep
            | depth + 1 =>
                let inner := skipSpaces c.next
                match inner.rest with
                | ']' :: _ => .ok (.list [], inner.next)
                | _ => readItems limit fuel depth [] inner
          else if ch.toNat = 0x7b then
            match depth with
            | 0 => c.fail .tooDeep
            | depth + 1 =>
                let inner := skipSpaces c.next
                match inner.rest with
                | close :: _ =>
                    if close.toNat = 0x7d then .ok (.object [], inner.next)
                    else readMembers limit fuel depth [] inner
                | [] => inner.fail .expectedName
          else readScalar c

/-- The items of a list up to its closing bracket; `done` holds those already read, last first. -/
def readItems
    (limit : Nat) :
    Nat → Nat → List Json → Cursor → Except ReadError (Json × Cursor)
  | 0, _, _, c => c.fail .expectedValue
  | fuel + 1, depth, done, c =>
      match readValue limit fuel depth c with
      | .error e => .error e
      | .ok (v, after) =>
          let after := skipSpaces after
          match after.rest with
          | ']' :: _ => .ok (.list (v :: done).reverse, after.next)
          | ',' :: _ => readItems limit fuel depth (v :: done) (skipSpaces after.next)
          | _ => after.fail .expectedComma

/-- The members of an object up to its closing brace; `done` holds those already read. -/
def readMembers
    (limit : Nat) :
    Nat → Nat → Named Json → Cursor → Except ReadError (Json × Cursor)
  | 0, _, _, c => c.fail .expectedName
  | fuel + 1, depth, done, c =>
      match c.rest with
      | [] => c.fail .expectedName
      | quote :: _ =>
          if quote ≠ Text.doubleQuote then c.fail .expectedName
          else
            match readText c.position limit [] c.next with
            | .error e => .error e
            | .ok (name, after) =>
                let after := skipSpaces after
                match after.rest with
                | ':' :: _ =>
                    match readValue limit fuel depth (skipSpaces after.next) with
                    | .error e => .error e
                    | .ok (v, after) =>
                        let done := Named.insert name v done
                        let after := skipSpaces after
                        match after.rest with
                        | ',' :: _ => readMembers limit fuel depth done (skipSpaces after.next)
                        | close :: _ =>
                            if close.toNat = 0x7d then .ok (.object done, after.next)
                            else after.fail .expectedComma
                        | [] => after.fail .expectedComma
                | _ => after.fail .expectedColon

end

/-- One value between blanks and nothing else; lists and objects may be nested `depth` deep. -/
def readDocument
    (depth : Nat)
    (cs : List Char) :
    Except ReadError Json :=
  match readValue (cs.length + 1) (2 * cs.length + 2) depth (skipSpaces ⟨cs, 0⟩) with
  | .error e => .error e
  | .ok (v, after) =>
      let after := skipSpaces after
      if after.rest.isEmpty then .ok v else after.fail .extraData

/--
The value of a document, which must not begin with a byte order mark and whose lists and objects may
be nested `depth` deep.
-/
def read
    (depth : Nat)
    (s : String) :
    Except ReadError Json :=
  match s.toList with
  | c :: rest =>
      if c.toNat = 0xfeff then .error ⟨.byteOrderMark, 0⟩ else readDocument depth (c :: rest)
  | [] => readDocument depth []

/-- What a fault says. -/
def Fault.message : Fault → String
  | .byteOrderMark => "Unexpected UTF-8 BOM (decode using utf-8-sig)"
  | .extraData => "Extra data"
  | .expectedValue => "Expecting value"
  | .expectedName => "Expecting property name enclosed in double quotes"
  | .expectedColon => "Expecting ':' delimiter"
  | .expectedComma => "Expecting ',' delimiter"
  | .unterminatedText => "Unterminated string starting at"
  | .controlCharacter => "Invalid control character at"
  | .badEscape => "Invalid \\escape"
  | .badUnicodeEscape => "Invalid \\uXXXX escape"
  | .integerTooLong digits =>
      "Exceeds the limit (" ++ Number.intText Number.maxIntegerDigits
        ++ " digits) for integer string conversion: value has " ++ Number.intText digits
        ++ " digits; use sys.set_int_max_str_digits() to increase the limit"
  | .tooDeep => "Values are nested too deeply"

/-- What is wrong with a document and where, by line and column counted from one. -/
def ReadError.message
    (e : ReadError)
    (document : String) :
    String :=
  match e.fault with
  | .integerTooLong _ => e.fault.message
  | _ =>
      let before := document.toList.take e.position
      let line := before.count '\n' + 1
      let column := (before.reverse.takeWhile (· != '\n')).length + 1
      e.fault.message ++ ": line " ++ Number.intText line ++ " column " ++ Number.intText column
        ++ " (char " ++ Number.intText e.position ++ ")"

end Json
end Diorama
