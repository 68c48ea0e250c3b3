import ThreeAddress.Parse.Event

/-!
# Parse steps

A parse step reads some tokens: it yields events, a value if the tokens fit, and the tokens that are
left, which are always an end of the tokens it was given.

## Main definitions

* `Step` : the outcome of a step.
* `Step.bind` : one step after another.
* `Step.expect` : takes a token of a given kind.
* `resync` : skips the rest of a broken statement.
-/

namespace ThreeAddress.Parse

/-- The outcome of reading from an input. -/
structure Step (α : Type) (i : Input) where
  /-- What came up. -/
  events : List Event
  /-- What was read, if the tokens fit. -/
  value : Option α
  /-- The input that is left. -/
  rest : Input
  /-- The tokens left are an end of the tokens given. -/
  suffix : rest.ahead <:+ i.ahead

namespace Step

variable {α β : Type} {i : Input}

theorem size_le (s : Step α i) : s.rest.size ≤ i.size :=
  s.suffix.length_le

/-- Reads nothing and yields a value. -/
def pure (a : α) : Step α i :=
  ⟨[], some a, i, List.suffix_refl _⟩

/-- Reads nothing, brings events up and yields a value. -/
def remark (events : List Event) (a : α) : Step α i :=
  ⟨events, some a, i, List.suffix_refl _⟩

/-- Puts events in front of a step from a later input. -/
def after {j : Input} (s : Step α j) (events : List Event) (h : j.ahead <:+ i.ahead) : Step α i :=
  ⟨events ++ s.events, s.value, s.rest, s.suffix.trans h⟩

/-- Goes on behind the next token. -/
def behind (s : Step α i.tail) : Step α i :=
  s.after i.lookEvents (Input.tail_suffix i)

/-- Goes on with a second step if the first one yields a value. -/
def bind (s : Step α i) (next : α → (j : Input) → j.ahead <:+ i.ahead → Step β j) : Step β i :=
  match s.value with
  | some a => (next a s.rest s.suffix).after s.events s.suffix
  | none => ⟨s.events, none, s.rest, s.suffix⟩

/-- Adds an event behind a successful step and yields a new value. -/
def yield (s : Step α i) (event : α → Event) (value : β) : Step β i :=
  match s.value with
  | some a => ⟨s.events ++ [event a], some value, s.rest, s.suffix⟩
  | none => ⟨s.events, none, s.rest, s.suffix⟩

/-- Takes the next token, with some events behind it. -/
def take (i : Input) (a : α) (events : List Event) : Step α i :=
  ⟨i.lookEvents ++ events, some a, i.tail, Input.tail_suffix i⟩

/-- Complains about the next token and gives up. -/
def complain (i : Input) (code : Code) (message : Bytes) (notes : List Note) : Step α i :=
  ⟨i.lookEvents ++ [.complain ⟨.error, code, i.complaintSpan, message, notes⟩], none, i.look,
    List.suffix_refl _⟩

/-- Takes a token of the given kind, or complains about the next one. -/
def expect (i : Input) (k : TokenKind) (code : Code) (message : Bytes) (notes : List Note) :
    Step Token i :=
  if i.kind = k then take i i.head []
  else complain i code (message ++ utf8 ", got " ++ i.head.describe) notes

end Step

/-- Skips tokens through the next semicolon, or up to a closing brace or the end of the file. -/
def skipStatement (i : Input) : Step Unit i :=
  match _h : i.ahead with
  | [] => ⟨[], some (), i.look, List.suffix_refl _⟩
  | l :: _ =>
    match l.token.kind with
    | .rightBrace => ⟨i.lookEvents, some (), i.look, List.suffix_refl _⟩
    | .semicolon => Step.take i () []
    | _ => (skipStatement i.tail).behind
termination_by i.size
decreasing_by exact Input.size_tail_lt _h

/-- Gives a broken statement up and skips the rest of it. -/
def resync (i : Input) : Step Unit i :=
  (skipStatement i).after [.abandon] (List.suffix_refl _)

end ThreeAddress.Parse
