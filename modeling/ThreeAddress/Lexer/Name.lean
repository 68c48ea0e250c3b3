import ThreeAddress.Lexer.Character
import ThreeAddress.Lexer.Scan
import ThreeAddress.Unicode.Normalization

/-!
# Names

An identifier or keyword is the longest run of name characters. Names with characters beyond ASCII
are kept in normalization form C.
-/

namespace ThreeAddress.Lexer

/-- Counts the bytes of the name characters at the front, of which `skip` belong to a character
that is already counted as one. -/
def namePartFrom : (skip : Nat) → Bytes → Nat
  | _, [] => 0
  | skip + 1, _ :: rest => 1 + namePartFrom skip rest
  | 0, b :: rest =>
    match Utf8.encoding? (b :: rest) with
    | some (c, n) => if isNamePartChar c then 1 + namePartFrom (n - 1) rest else 0
    | none => 0

/-- Counts the bytes of the name characters at the front. -/
def namePartSize (bs : Bytes) : Nat :=
  namePartFrom 0 bs

/-- The spelling that a name is known by. -/
def nameText (bs : Bytes) : Bytes :=
  if bs.all fun b => decide (b < 0x80) then bs else utf8Chars (Unicode.nfc (Utf8.chars bs))

/-- Reads the name at the front of a byte string, or one invalid character if no name starts
there. -/
def scanName (bs : Bytes) : Scan :=
  match Utf8.decode? bs with
  | none => .bad 0 (.unknownChar Utf8.replacement)
  | some (c, n) =>
    if isNameStartChar c then
      let size := namePartSize bs
      ⟨(TokenKind.keyword? (nameText (bs.take size))).getD .identifier, size, []⟩
    else .bad n (.unknownChar c)

end ThreeAddress.Lexer
