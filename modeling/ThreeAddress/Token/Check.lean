import ThreeAddress.Token.Basic

/-!
# Checking token streams

A token stream fits a source when it ends with exactly one end marker and its spans lie in the
source, in order, without overlap.
-/

namespace ThreeAddress

/-- What is wrong with a token stream. -/
inductive StreamFault where
  /-- There is no source. -/
  | noFile
  /-- The stream does not end with the end marker. -/
  | noEnd
  /-- An end marker stands before the end. -/
  | earlyEnd (index : Nat)
  /-- A token belongs to another file. -/
  | wrongFile (index : Nat) (found expected : FileId)
  /-- A span is reversed or leaves the source. -/
  | outside (index : Nat) (span : Span) (size : UInt32)
  /-- A span starts before the previous one ends. -/
  | overlap (index : Nat) (span : Span) (previous : UInt32)
deriving Repr, DecidableEq

/-- The wording of a fault in a token stream. -/
def StreamFault.message : StreamFault → Bytes
  | .noFile => utf8 "nil file"
  | .noEnd => utf8 "token stream does not end with EOF"
  | .earlyEnd i => utf8 "EOF at index " ++ decimal i ++ utf8 " before end of stream"
  | .wrongFile i found expected =>
    utf8 "token " ++ decimal i ++ utf8 " span file mismatch: got=" ++ decimal found.toNat
      ++ utf8 " want=" ++ decimal expected.toNat
  | .outside i span size =>
    utf8 "token " ++ decimal i ++ utf8 " span " ++ span.render ++ utf8 " outside content of "
      ++ decimal size.toNat ++ utf8 " bytes"
  | .overlap i span previous =>
    utf8 "token " ++ decimal i ++ utf8 " span " ++ span.render
      ++ utf8 " overlaps previous token ending at " ++ decimal previous.toNat

/-- Checks the tokens from the given index on, behind a token that ends at `previous`. -/
def checkTokensFrom (file : FileId) (size : UInt32) (index : Nat) (previous : UInt32) :
    List Token → Except StreamFault Unit
  | [] => .ok ()
  | t :: ts =>
    if t.kind = .endOfFile ∧ ts ≠ [] then .error (.earlyEnd index)
    else if t.span.file ≠ file then .error (.wrongFile index t.span.file file)
    else if t.span.stop < t.span.start ∨ size < t.span.stop then
      .error (.outside index t.span size)
    else if t.span.start < previous then .error (.overlap index t.span previous)
    else checkTokensFrom file size (index + 1) t.span.stop ts

/-- Checks a token stream against a source of the given number and size. -/
def checkTokens (source : Option (FileId × UInt32)) (ts : List Token) : Except StreamFault Unit :=
  match source with
  | none => .error .noFile
  | some (file, size) =>
    if (ts.getLast?.map Token.kind) = some .endOfFile then checkTokensFrom file size 0 0 ts
    else .error .noEnd

end ThreeAddress
