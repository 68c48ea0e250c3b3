import ThreeAddress.Text.Integer
import ThreeAddress.Text.Utf8

/-!
# Characters and strings of TOML

## Main definitions

* `Toml.isPlain` : which contents consist of admitted characters.
* `Toml.scanBasic`, `Toml.scanLiteral`, `Toml.scanMultiline` : strings up to their closing quotes.
* `Toml.unescape` : the text that a string with escapes denotes.
-/

namespace ThreeAddress.Toml

/-- The byte of an ASCII character. -/
abbrev byte (c : Char) : UInt8 := c.toUInt8

/-- Tests whether a byte is a blank or a tab. -/
def isBlank (b : UInt8) : Bool :=
  b == byte ' ' || b == byte '\t'

/-- Tests whether a byte belongs to a line break. -/
def isBreak (b : UInt8) : Bool :=
  b == byte '\n' || b == byte '\r'

/-- Skips blanks and tabs. -/
def skipBlanks (b : Bytes) : Bytes :=
  b.dropWhile isBlank

/-- Tests whether a piece of text is admitted in front of the given rest: it is valid, no
replacement character, and no control character but tabs and line breaks. -/
def isAdmitted (p : Utf8.Piece) (rest : List Utf8.Piece) : Bool :=
  let n := p.char.toNat
  p.valid && n != 0xFFFD
    && (n == 9 || n == 10 || (n == 13 && (rest.head?.map fun q => q.char) == some '\n')
      || (0x20 ≤ n && n != 0x7F))

/-- Tests whether every piece of a text is admitted. -/
def allAdmitted : List Utf8.Piece → Bool
  | [] => true
  | p :: rest => isAdmitted p rest && allAdmitted rest

/-- Tests whether a content consists of admitted characters. -/
def isPlain (b : Bytes) : Bool :=
  allAdmitted (Utf8.pieces b)

/-- The content without a byte order mark. -/
def withoutMark (b : Bytes) : Bytes :=
  (([[0xFF, 0xFE], [0xFE, 0xFF], [0xEF, 0xBB, 0xBF]] : List Bytes).findSome? fun m =>
    Bytes.strip? m b).getD b

/-- The text of a one-line string up to its closing quote, with its escapes, and what follows. -/
def scanBasic : Bytes → Option (Bytes × Bytes)
  | [] => none
  | b :: rest =>
    if b == byte '"' then some ([], rest)
    else if isBreak b then none
    else if b == byte '\\' then
      match rest with
      | [] => none
      | e :: more => (scanBasic more).map fun r => (b :: e :: r.1, r.2)
    else (scanBasic rest).map fun r => (b :: r.1, r.2)

/-- The text of a one-line string without escapes up to its closing quote, and what follows. -/
def scanLiteral : Bytes → Option (Bytes × Bytes)
  | [] => none
  | b :: rest =>
    if b == byte '\'' then some ([], rest)
    else if isBreak b then none
    else (scanLiteral rest).map fun r => (b :: r.1, r.2)

/-- The byte that a short escape denotes. -/
def shortEscape? (e : UInt8) : Option UInt8 :=
  if e == byte 'b' then some 8
  else if e == byte 't' then some 9
  else if e == byte 'n' then some 10
  else if e == byte 'f' then some 12
  else if e == byte 'r' then some 13
  else if e == byte '"' || e == byte '\\' then some e
  else none

/-- Tests whether a text starts with so many hexadecimal digits. -/
def startsWithHex (n : Nat) (b : Bytes) : Bool :=
  let digits := b.take n
  digits.length == n
    && digits.all fun x => ((Integer.digitValue? x).map fun d => decide (d < 16)).getD false

/-- Tests whether a text may stand behind a backslash in a string of several lines: the rest of an
escape, or white space that may lead to the end of the line. -/
def continuesEscape : Bytes → Bool
  | [] => false
  | e :: rest =>
    isBlank e || isBreak e || (shortEscape? e).isSome
      || (e == byte 'u' && startsWithHex 4 rest) || (e == byte 'U' && startsWithHex 8 rest)

/-- Tests whether two quotes, not counting an escaped one, end a text that is given backwards. -/
def endsInTwo (quote : UInt8) (seen : Bytes) : Bool :=
  match seen with
  | a :: b :: before =>
    a == quote && b == quote && !(quote == byte '"' && before.head? == some (byte '\\'))
  | _ => false

/-- The text of a string of several lines up to its three closing quotes, and what follows. Up to
two more quotes may stand in front of the closing ones. The text read so far is given backwards. -/
def scanMultiline (quote : UInt8) (seen : Bytes) : Bytes → Option (Bytes × Bytes)
  | [] => none
  | b :: rest =>
    if b == byte '\\' && quote == byte '"' then
      match rest with
      | [] => none
      | e :: more =>
        if continuesEscape rest then scanMultiline quote (e :: b :: seen) more else none
    else if b == quote && [quote, quote].isPrefixOf rest then
      if rest[2]? == some quote then
        if endsInTwo quote seen then none else scanMultiline quote (b :: seen) rest
      else some (seen.reverse, rest.drop 2)
    else scanMultiline quote (b :: seen) rest

/-- The text without a line break at its start. -/
def withoutFirstBreak (b : Bytes) : Bytes :=
  match Bytes.strip? (utf8 "\n") b with
  | some rest => rest
  | none => (Bytes.strip? (utf8 "\r\n") b).getD b

/-- Removes every backslash at the end of a line together with the white space behind it. -/
def joinLines : Bytes → Bytes
  | [] => []
  | b :: rest =>
    if b == byte '\\' then
      if rest.head? == some (byte '\\') then b :: byte '\\' :: joinLines (rest.drop 1)
      else if (rest.takeWhile fun x => isBlank x || isBreak x).contains (byte '\n') then
        joinLines (rest.dropWhile fun x => isBlank x || isBreak x)
      else b :: joinLines rest
    else b :: joinLines rest
termination_by b => b.length
decreasing_by
  · rw [List.length_drop, List.length_cons]
    omega
  · exact Nat.lt_succ_of_le (List.dropWhile_sublist _).length_le
  · exact Nat.lt_succ_self _
  · exact Nat.lt_succ_self _

/-- The character with a code in hexadecimal digits. -/
def codeChar? (digits : Bytes) : Option Char := do
  let values ← digits.mapM Integer.digitValue?
  if values.any fun d => 16 ≤ d then none
  else
    let n := values.foldl (fun n d => n * 16 + d) 0
    if n.isValidChar then some (Char.ofNat n) else none

/-- The text that a string with escapes denotes. -/
def unescape : Bytes → Option Bytes
  | [] => some []
  | b :: rest =>
    if b != byte '\\' then (unescape rest).map fun t => b :: t
    else match rest with
      | [] => none
      | e :: more =>
        match shortEscape? e with
        | some c => (unescape more).map fun t => c :: t
        | none =>
          if e == byte 'u' then
            match more with
            | h1 :: h2 :: h3 :: h4 :: tail => do
              let c ← codeChar? [h1, h2, h3, h4]
              return utf8Chars [c] ++ (← unescape tail)
            | _ => none
          else if e == byte 'U' then
            match more with
            | h1 :: h2 :: h3 :: h4 :: h5 :: h6 :: h7 :: h8 :: tail => do
              let c ← codeChar? [h1, h2, h3, h4, h5, h6, h7, h8]
              return utf8Chars [c] ++ (← unescape tail)
            | _ => none
          else none

/-- A string from its opening quotes on, and what follows. -/
def scanString (b : Bytes) : Option (Bytes × Bytes) :=
  match Bytes.strip? (utf8 "\"\"\"") b with
  | some rest => do
    let (raw, rest) ← scanMultiline (byte '"') [] rest
    return (← unescape (joinLines (withoutFirstBreak raw)), rest)
  | none =>
    match Bytes.strip? (utf8 "'''") b with
    | some rest => do
      let (raw, rest) ← scanMultiline (byte '\'') [] rest
      return (withoutFirstBreak raw, rest)
    | none =>
      match b with
      | [] => none
      | q :: rest =>
        if q == byte '"' then do
          let (raw, rest) ← scanBasic rest
          return (← unescape raw, rest)
        else if q == byte '\'' then scanLiteral rest
        else none

end ThreeAddress.Toml
