import ThreeAddress.Text.Utf8

/-!
# JSON text

Output in JSON is built as a value and written compactly or indented by two blanks. Beside quotes,
backslashes and control characters, the characters `<`, `>`, `&`, U+2028 and U+2029 are escaped, so
that the text can stand in a web page. Bytes that are no valid text become U+FFFD.
-/

namespace ThreeAddress

/-- A JSON value whose members keep their order. -/
inductive Json where
  /-- A string. -/
  | text (b : Bytes)
  /-- A number that is written as an integer. -/
  | int (n : Int)
  /-- A truth value. -/
  | bool (b : Bool)
  /-- An array. -/
  | array (items : List Json)
  /-- An object. -/
  | object (members : List (Bytes × Json))

namespace Json

/-- Writes one character of a string. -/
def escapeChar (c : Char) : Bytes :=
  let n := c.toNat
  if c = '"' ∨ c = '\\' then utf8Chars ['\\', c]
  else if n = 8 then utf8 "\\b"
  else if n = 9 then utf8 "\\t"
  else if n = 10 then utf8 "\\n"
  else if n = 12 then utf8 "\\f"
  else if n = 13 then utf8 "\\r"
  else if n < 0x20 ∨ c = '<' ∨ c = '>' ∨ c = '&' ∨ n = 0x2028 ∨ n = 0x2029 then
    utf8 "\\u" ++ hexPadded 4 n
  else utf8Chars [c]

/-- Writes a string with its quotes. -/
def quote (b : Bytes) : Bytes :=
  utf8 "\"" ++ (Utf8.chars b).flatMap escapeChar ++ utf8 "\""

/-- A newline and `depth` steps of indentation. -/
def newline (depth : Nat) : Bytes :=
  utf8 "\n" ++ List.replicate (2 * depth) ' '.toUInt8

mutual

/-- Writes a value without blanks. -/
def compact : Json → Bytes
  | text b => quote b
  | int n => signedDecimal n
  | bool b => utf8 (if b then "true" else "false")
  | array items => utf8 "[" ++ compactItems items ++ utf8 "]"
  | object members => utf8 "\x7b" ++ compactMembers members ++ utf8 "\x7d"

/-- Writes the items of an array without blanks. -/
def compactItems : List Json → Bytes
  | [] => []
  | [v] => v.compact
  | v :: vs => v.compact ++ utf8 "," ++ compactItems vs

/-- Writes the members of an object without blanks. -/
def compactMembers : List (Bytes × Json) → Bytes
  | [] => []
  | [(k, v)] => quote k ++ utf8 ":" ++ v.compact
  | (k, v) :: ms => quote k ++ utf8 ":" ++ v.compact ++ utf8 "," ++ compactMembers ms

end

mutual

/-- Writes a value that stands at the given depth, one item or member a line. -/
def indented (depth : Nat) : Json → Bytes
  | text b => quote b
  | int n => signedDecimal n
  | bool b => utf8 (if b then "true" else "false")
  | array [] => utf8 "[]"
  | array (v :: vs) =>
    utf8 "[" ++ indentedItems (depth + 1) (v :: vs) ++ newline depth ++ utf8 "]"
  | object [] => utf8 "\x7b\x7d"
  | object (m :: ms) =>
    utf8 "\x7b" ++ indentedMembers (depth + 1) (m :: ms) ++ newline depth ++ utf8 "\x7d"

/-- Writes the items of an array at the given depth. -/
def indentedItems (depth : Nat) : List Json → Bytes
  | [] => []
  | [v] => newline depth ++ indented depth v
  | v :: vs => newline depth ++ indented depth v ++ utf8 "," ++ indentedItems depth vs

/-- Writes the members of an object at the given depth. -/
def indentedMembers (depth : Nat) : List (Bytes × Json) → Bytes
  | [] => []
  | [(k, v)] => newline depth ++ quote k ++ utf8 ": " ++ indented depth v
  | (k, v) :: ms =>
    newline depth ++ quote k ++ utf8 ": " ++ indented depth v ++ utf8 ","
      ++ indentedMembers depth ms

end

/-- Members that are left out when they say nothing: an empty text. -/
def textMember (key : String) (b : Bytes) : List (Bytes × Json) :=
  if b = [] then [] else [(utf8 key, .text b)]

/-- Members that are left out when they say nothing: the number 0. -/
def intMember (key : String) (n : Int) : List (Bytes × Json) :=
  if n = 0 then [] else [(utf8 key, .int n)]

end Json

end ThreeAddress
