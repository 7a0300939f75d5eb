import Diorama.Text.Basic
import Diorama.Text.Printable

/-!
# Quoted texts

A text is quoted with apostrophes, or with double quotes when it holds an apostrophe and no
double quote.  The backslash, the quote in use and every symbol that cannot be shown are escaped,
so a quoted text is made of characters alone.
-/

namespace Diorama
namespace Text

/-- The last `width` hexadecimal digits of a code point, in lower case. -/
def hexDigits
    (width : Nat)
    (code : Nat) :
    List Char :=
  let digits := Nat.toDigits 16 code
  List.replicate (width - digits.length) '0' ++ digits

/-- The apostrophe. -/
def apostrophe : Char := Char.ofNat 0x27

/-- The double quote. -/
def doubleQuote : Char := Char.ofNat 0x22

/-- The backslash. -/
def backslash : Char := Char.ofNat 0x5c

/-- The quote that encloses a text. -/
def quoteFor
    (t : Text) :
    Char :=
  if t.contains (.char apostrophe) && !t.contains (.char doubleQuote) then doubleQuote
  else apostrophe

/-- One character inside a text enclosed by `quote`. -/
def escapeChar
    (quote c : Char) :
    List Char :=
  if c = quote ∨ c = backslash then [backslash, c]
  else if c = '\n' then [backslash, 'n']
  else if c = '\r' then [backslash, 'r']
  else if c = '\t' then [backslash, 't']
  else if isPrintable c then [c]
  else if c.toNat < 0x100 then backslash :: 'x' :: hexDigits 2 c.toNat
  else if c.toNat < 0x10000 then backslash :: 'u' :: hexDigits 4 c.toNat
  else backslash :: 'U' :: hexDigits 8 c.toNat

/-- One symbol inside a text enclosed by `quote`. -/
def escape
    (quote : Char) :
    Symbol → List Char
  | .char c => escapeChar quote c
  | .surrogate index => backslash :: 'u' :: hexDigits 4 (Symbol.surrogate index).code

/-- A text in quotes. -/
def quoted
    (t : Text) :
    String :=
  let quote := quoteFor t
  String.ofList (quote :: t.flatMap (escape quote) ++ [quote])

end Text
end Diorama
