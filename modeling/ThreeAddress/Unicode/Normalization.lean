import ThreeAddress.Bytes
import ThreeAddress.Unicode.CombiningClass
import ThreeAddress.Unicode.Decomposition
import ThreeAddress.Unicode.NonStarter

/-!
# Normalization form C

Identifiers that are spelled with different character sequences but look the same are one name, so
a non-ASCII identifier is kept in normalization form C: fully decomposed, marks in canonical order,
then composed again. This is done segment by segment, where a segment is a character with all that
attaches to it. Runs of more than 30 marks are cut by a combining grapheme joiner, so that
normalization needs a bounded buffer only.

## Main definitions

* `segments` : the segments of a text, overlong runs of marks cut.
* `decompose`, `reorder`, `compose` : the three steps.
* `nfc` : normalization form C.
-/

namespace ThreeAddress.Unicode

/-- Gives the Hangul syllable that two code points compose to: a leading consonant with a vowel, or
a syllable without a final consonant with one. -/
def hangulComposite? (a b : Nat) : Option Nat :=
  if 0x1100 ≤ a ∧ a < 0x1113 ∧ 0x1161 ≤ b ∧ b < 0x1176 then
    some (0xAC00 + ((a - 0x1100) * 21 + (b - 0x1161)) * 28)
  else if 0xAC00 ≤ a ∧ a < 0xD7A4 ∧ (a - 0xAC00) % 28 = 0 ∧ 0x11A7 < b ∧ b < 0x11C3 then
    some (a + (b - 0x11A7))
  else none

/-- Such a pair composes to a Hangul syllable. -/
theorem mem_range_of_hangulComposite? {a b n : Nat} (h : hangulComposite? a b = some n) :
    0xAC00 ≤ n ∧ n < 0xD7A4 := by
  unfold hangulComposite? at h
  split at h
  · obtain rfl := Option.some.inj h
    omega
  · split at h
    · obtain rfl := Option.some.inj h
      omega
    · cases h

/-- Decomposes a Hangul syllable into its letters. -/
def hangulDecomposition (n : Nat) : List Nat :=
  let s := n - 0xAC00
  let start := [0x1100 + s / 588, 0x1161 + s % 588 / 28]
  if s % 28 = 0 then start else start ++ [0x11A7 + s % 28]

/-- Decomposes a code point, following at most `depth` mappings in a row. -/
def decomposeDeep : (depth : Nat) → Nat → List Nat
  | 0, n => [n]
  | depth + 1, n =>
    if 0xAC00 ≤ n ∧ n < 0xD7A4 then hangulDecomposition n
    else match decomposition? n with
      | some ms => ms.flatMap (decomposeDeep depth)
      | none => [n]

/-- Decomposes a character fully. No chain of canonical mappings is longer than four. -/
def decompose (c : Char) : List Char :=
  (decomposeDeep 4 c.toNat).map Char.ofNat

/-- Puts a character behind a list that holds the text so far, last character first: a mark moves
in front of the marks of higher class. -/
def place (c : Char) : List Char → List Char
  | [] => [c]
  | d :: ds =>
    if combiningClass c ≠ 0 ∧ combiningClass c < combiningClass d then d :: place c ds
    else c :: d :: ds

/-- Puts the marks of every run in canonical order. -/
def reorder (cs : List Char) : List Char :=
  (cs.foldl (fun acc c => place c acc) []).reverse

/-- Tests whether a character is a Hangul vowel or final consonant that joins a syllable. -/
def isSyllablePart (c : Char) : Bool :=
  (0x1161 ≤ c.toNat && c.toNat < 0x1176) || (0x11A8 ≤ c.toNat && c.toNat < 0x11C3)

/-- Puts a character behind a text that is given last character first, where it joins the Hangul
letter or syllable in front of it if it can. -/
def joinSyllable (text : List Char) (c : Char) : List Char :=
  match text with
  | [] => [c]
  | l :: before =>
    match hangulComposite? l.toNat c.toNat with
    | some n => Char.ofNat n :: before
    | none => c :: text

/-- Composes the rest of a segment behind a text, which is given last character first. The
characters in `behind` follow the target, with which the characters of the rest are composed. A
character that attaches makes the last character its target if that is a starter; a last mark of
the same or a higher class blocks it from the target. -/
def composeFrom (text : List Char) (target : Char) (behind : List Char) :
    List Char → List Char
  | [] => behind ++ target :: text
  | c :: cs =>
    if !attaches c.toNat then composeFrom text target (c :: behind) cs
    else
      let (text, target, behind, blocked) := match behind with
        | [] => (text, target, [], false)
        | m :: between =>
          if combiningClass m = 0 then (between ++ target :: text, m, [], false)
          else (text, target, behind, decide (combiningClass c ≤ combiningClass m))
      match if blocked then none else composite? target.toNat c.toNat with
      | some n => composeFrom text (Char.ofNat n) behind cs
      | none => composeFrom text target (c :: behind) cs

/-- Composes a segment in canonical order. From its first Hangul vowel or final consonant on, only
syllables are composed. -/
def compose : List Char → List Char
  | [] => []
  | c :: cs =>
    let plain := cs.takeWhile fun d => !isSyllablePart d
    ((cs.drop plain.length).foldl joinSyllable (composeFrom [] c [] plain)).reverse

/-- The number of marks that may follow one another. -/
def maxNonStarters : Nat := 30

/-- Splits a text into segments behind a segment that has begun, which is given last character
first and ends in `run` marks. An overlong run is cut by a combining grapheme joiner. -/
def segmentsFrom (run : Nat) (segment : List Char) : List Char → List (List Char)
  | [] => [segment.reverse]
  | c :: cs =>
    let (leading, trailing) := nonStarters c
    if maxNonStarters < run + leading then
      (Char.ofNat 0x34F :: segment).reverse :: segmentsFrom leading [c] cs
    else if leading = 0 then segment.reverse :: segmentsFrom trailing [c] cs
    else segmentsFrom (run + leading) (c :: segment) cs

/-- The segments of a text. -/
def segments (cs : List Char) : List (List Char) :=
  segmentsFrom 0 [] cs

/-- Brings a text into normalization form C. -/
def nfc (cs : List Char) : List Char :=
  (segments cs).flatMap fun segment => compose (reorder (segment.flatMap decompose))

end ThreeAddress.Unicode
