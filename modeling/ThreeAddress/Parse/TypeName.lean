import ThreeAddress.Parse.Step
import ThreeAddress.Text.Integer

/-!
# Parsing types

A type is a scalar name, `string` with a size in brackets, or an element type behind a size in
brackets. A size of zero, or one above 32 bits, is complained about and counts as zero.
-/

namespace ThreeAddress.Parse

/-- The largest size of an array or a byte string. -/
def maxSize : Nat := UInt32.size - 1

/-- The value of a size literal, if it is one from 1 to the largest size. -/
def sizeValue? (text : Bytes) : Option UInt32 :=
  match Integer.readNat .announced maxSize text with
  | .ok n => if n = 0 then none else some (UInt32.ofNat n)
  | .error _ => none

/-- The complaint about a size literal that is out of range. -/
def badSize (size : Token) : Diagnostic :=
  .ofError .badArraySize size.span
    (utf8 "size must be between 1 and 4294967295, got " ++ size.text)

/-- Reads a size and the closing bracket, behind the opening one. -/
def parseSize (i : Input) : Step UInt32 i :=
  (Step.expect i .integer .expectType (utf8 "expected size") []).bind fun size j _ =>
    (Step.expect j .rightBracket .unclosedBracket (utf8 "expected ']' after size") []).bind
      fun _ _ _ =>
        match sizeValue? size.text with
        | some n => Step.pure n
        | none => Step.remark [.complain (badSize size)] 0

/-- Complains that the next token starts no type. -/
def noType (i : Input) : Step DataType i :=
  .complain i .expectType (utf8 "expected type, got " ++ i.head.describe) []

/-- Reads a type. -/
def parseType (i : Input) : Step DataType i :=
  match _h : i.ahead with
  | [] => noType i
  | l :: _ =>
    match l.token.kind with
    | .leftBracket =>
      Step.behind <| (parseSize i.tail).bind fun n j _hj =>
        (parseType j).bind fun elem _ _ => Step.pure (.array elem n)
    | .identifier =>
      match DataType.ofName? l.token.text with
      | some t => Step.take i t []
      | none =>
        if l.token.text = utf8 "string" then
          Step.behind <|
            (Step.expect i.tail .leftBracket .expectType
              (utf8 "expected '[' after 'string'") []).bind fun _ j _ =>
                (parseSize j).bind fun n _ _ => Step.pure (.string n)
        else noType i
    | _ => noType i
termination_by i.size
decreasing_by exact Nat.lt_of_le_of_lt _hj.length_le (Input.size_tail_lt _h)

end ThreeAddress.Parse
