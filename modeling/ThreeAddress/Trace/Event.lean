import ThreeAddress.Text.Json
import ThreeAddress.Trace.Level

/-!
# Trace events

An event tells that something began, ended or happened. It is written as a line of text or as a
line of JSON.

## Main definitions

* `Trace.Event` : an event.
* `Trace.timestamp` : a moment in the calendar.
* `Trace.Event.render` : an event in a format.
-/

namespace ThreeAddress.Trace

/-- Sorted pairs of keys and values. -/
abbrev Extra := List (Bytes × Bytes)

/-- Sets a key, keeping the keys sorted and unique. -/
def Extra.put (key value : Bytes) : Extra → Extra
  | [] => [(key, value)]
  | (k, v) :: rest =>
    if k = key then (key, value) :: rest
    else if Bytes.lessEq key k then (key, value) :: (k, v) :: rest
    else (k, v) :: Extra.put key value rest

/-- Something that a trace tells. -/
structure Event where
  /-- When it happened, in nanoseconds since 1970; nothing for a moment that is not told. -/
  time : Option Int := none
  /-- Its place in the sequence of all events. -/
  seq : UInt64 := 0
  /-- What it marks. -/
  kind : Kind
  /-- What it is about. -/
  scope : Scope
  /-- The span that begins or ends; 0 for a point. -/
  span : UInt64 := 0
  /-- The span around it; 0 for none. -/
  parent : UInt64 := 0
  /-- Its name. -/
  name : Bytes
  /-- More about it. -/
  detail : Bytes := []
  /-- Named values. -/
  extra : Extra := []
  /-- Whether the named values are those of a span that may still change. -/
  sharesExtra : Bool := false
deriving Repr, DecidableEq, Inhabited

/-- The day, month and year of a day number; day 0 is the first of January 1970. -/
def civilDate (day : Int) : Int × Nat × Nat :=
  let z := day + 719468
  let era := z.fdiv 146097
  let doe := (z - era * 146097).toNat
  let yoe := (doe - doe / 1460 + doe / 36524 - doe / 146096) / 365
  let doy := doe - (365 * yoe + yoe / 4 - yoe / 100)
  let mp := (5 * doy + 2) / 153
  let d := doy - (153 * mp + 2) / 5 + 1
  let m := if mp < 10 then mp + 3 else mp - 9
  (yoe + era * 400 + (if m ≤ 2 then 1 else 0), m, d)

/-- Writes a number with at least `width` digits. -/
def zeroPadded (width n : Nat) : Bytes :=
  let digits := decimal n
  List.replicate (width - digits.length) '0'.toUInt8 ++ digits

/-- Writes a moment in universal time to the microsecond. -/
def timestamp (ns : Int) : Bytes :=
  let micros := ns.fdiv 1000
  let seconds := micros.fdiv 1000000
  let day := seconds.fdiv 86400
  let second := (seconds - day * 86400).toNat
  let (y, m, d) := civilDate day
  zeroPadded 4 y.toNat ++ utf8 "-" ++ zeroPadded 2 m ++ utf8 "-" ++ zeroPadded 2 d ++ utf8 "T"
    ++ zeroPadded 2 (second / 3600) ++ utf8 ":" ++ zeroPadded 2 (second / 60 % 60) ++ utf8 ":"
    ++ zeroPadded 2 (second % 60) ++ utf8 "." ++ zeroPadded 6 (micros - seconds * 1000000).toNat
    ++ utf8 "Z"

namespace Event

/-- Writes an event as a line of text: its number, a mark, scope and name, then the detail in
parentheses and the named values in braces. -/
def renderText (e : Event) : Bytes :=
  let number := decimal e.seq.toNat
  let values := e.extra.map fun p => p.1 ++ utf8 "=" ++ p.2
  utf8 "[" ++ Bytes.padLeft 6 number.length number ++ utf8 "] "
    ++ (if 0 < e.parent then utf8 "  " else [])
    ++ e.kind.mark ++ e.scope.name ++ utf8 " " ++ e.name
    ++ (if e.detail = [] then [] else utf8 " (" ++ e.detail ++ utf8 ")")
    ++ (if e.extra = [] then []
        else utf8 " \x7b" ++ Bytes.joinWith (utf8 ", ") values ++ utf8 "\x7d")
    ++ utf8 "\n"

/-- An event as a JSON object. What says nothing is left out. -/
def toJson (e : Event) : Json :=
  .object <|
    [(utf8 "time", .text ((e.time.map timestamp).getD [])),
      (utf8 "seq", .int e.seq.toNat),
      (utf8 "kind", .text e.kind.name),
      (utf8 "scope", .text e.scope.name)]
    ++ Json.intMember "span_id" e.span.toNat
    ++ Json.intMember "parent_id" e.parent.toNat
    ++ [(utf8 "name", .text e.name)]
    ++ Json.textMember "detail" e.detail
    ++ (if e.extra = [] then []
        else [(utf8 "extra", .object (e.extra.map fun p => (p.1, .text p.2)))])

/-- Writes an event in a format, with a newline at its end. -/
def render (f : Format) (e : Event) : Bytes :=
  if f = .ndjson then e.toJson.compact ++ utf8 "\n" else e.renderText

end Event

end ThreeAddress.Trace
