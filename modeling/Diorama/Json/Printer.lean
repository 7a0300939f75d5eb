import Diorama.Json.Value

/-!
# Printed documents

A document is printed on one line or with two spaces of indentation per level, and in ASCII alone:
every other symbol is escaped by its UTF-16 units.
-/

namespace Diorama
namespace Json

/-- The UTF-16 units of a character. -/
def utf16Units
    (c : Char) :
    List Nat :=
  if c.toNat < 0x10000 then [c.toNat]
  else
    let offset := c.toNat - 0x10000
    [0xd800 + offset / 0x400, 0xdc00 + offset % 0x400]

/-- An escape by number. -/
def escapeUnit
    (unit : Nat) :
    List Char :=
  Text.backslash :: 'u' :: Text.hexDigits 4 unit

/-- One character inside the quotes of a document. -/
def escapeChar
    (c : Char) :
    List Char :=
  if c = Text.doubleQuote ∨ c = Text.backslash then [Text.backslash, c]
  else if c = '\n' then [Text.backslash, 'n']
  else if c = '\r' then [Text.backslash, 'r']
  else if c = '\t' then [Text.backslash, 't']
  else if c.toNat = 8 then [Text.backslash, 'b']
  else if c.toNat = 12 then [Text.backslash, 'f']
  else if 0x20 ≤ c.toNat ∧ c.toNat < 0x7f then [c]
  else (utf16Units c).flatMap escapeUnit

/-- One symbol inside the quotes of a document. -/
def escape : Symbol → List Char
  | .char c => escapeChar c
  | .surrogate index => escapeUnit (Symbol.surrogate index).code

/-- A text in the quotes of a document. -/
def quotedText
    (t : Text) :
    String :=
  String.ofList (Text.doubleQuote :: t.flatMap escape ++ [Text.doubleQuote])

/-- A double in a document. -/
def realText
    (x : Float) :
    String :=
  match Number.Exact.ofFloat x with
  | .notANumber => "NaN"
  | .infinite negative => if negative then "-Infinity" else "Infinity"
  | .finite .. => Number.shortest x

mutual

/-- A document on one line without blanks between its parts. -/
def compact : Json → String
  | null => "null"
  | bool b => if b then "true" else "false"
  | int n => Number.intText n
  | real x => realText x
  | text s => quotedText s
  | list items => "[" ++ ",".intercalate (compactItems items) ++ "]"
  | object members => "\x7b" ++ ",".intercalate (compactMembers members) ++ "\x7d"

/-- Items on one line each. -/
def compactItems : List Json → List String
  | [] => []
  | v :: rest => compact v :: compactItems rest

/-- Members on one line each. -/
def compactMembers : List (Text × Json) → List String
  | [] => []
  | (name, v) :: rest => (quotedText name ++ ":" ++ compact v) :: compactMembers rest

end

/-- A line break and the indentation of a level. -/
def lineAt
    (level : Nat) :
    String :=
  String.ofList ('\n' :: List.replicate (2 * level) ' ')

mutual

/-- A value whose first line stands at an indentation level. -/
def indentedAt
    (level : Nat) :
    Json → String
  | null => "null"
  | bool b => if b then "true" else "false"
  | int n => Number.intText n
  | real x => realText x
  | text s => quotedText s
  | list [] => "[]"
  | list items =>
      "[" ++ ",".intercalate (indentedItems (level + 1) items) ++ lineAt level ++ "]"
  | object [] => "\x7b\x7d"
  | object members =>
      "\x7b" ++ ",".intercalate (indentedMembers (level + 1) members) ++ lineAt level ++ "\x7d"

/-- Items, each on lines of its own. -/
def indentedItems
    (level : Nat) :
    List Json → List String
  | [] => []
  | v :: rest => (lineAt level ++ indentedAt level v) :: indentedItems level rest

/-- Members, each on lines of its own. -/
def indentedMembers
    (level : Nat) :
    List (Text × Json) → List String
  | [] => []
  | (name, v) :: rest =>
      (lineAt level ++ quotedText name ++ ": " ++ indentedAt level v)
        :: indentedMembers level rest

end

/-- A document with two spaces of indentation per level. -/
def indented
    (v : Json) :
    String :=
  indentedAt 0 v

end Json
end Diorama
