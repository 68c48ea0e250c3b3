import ThreeAddress.Code.Generator
import ThreeAddress.Trace.Event

/-!
# Tracers

A tracer receives events. A stream writes them at once, a ring keeps the latest ones, and several
tracers can stand behind one. Everything that stores an event gives it the next number of a common
sequence.

## Main definitions

* `Trace.Ring` : a bounded store of the latest events.
* `Trace.Tracer` : all kinds of tracers.
* `Trace.Session` : a tracer with its sequence of numbers.
* `Trace.Session.begin`, `setExtra`, `finish`, `point` : telling spans and points.
-/

namespace ThreeAddress.Trace

/-- What stands behind a stream. -/
inductive Outlet where
  /-- A store in memory, which can be flushed and closed, and may refuse texts or a flush. -/
  | memory (refusesText : Bool) (flushError : Option Bytes)
  /-- The standard error stream, which stays open. -/
  | standardError
  /-- The file at a path, which can be closed once. -/
  | file (path : Bytes)
deriving Repr, DecidableEq, Inhabited

/-- The texts that a stream has written, and what it was asked to do. -/
structure Writer where
  /-- Where the texts go. -/
  outlet : Outlet
  /-- The texts written, the latest first. -/
  chunks : List Bytes := []
  /-- How often it was flushed. -/
  flushes : Nat := 0
  /-- How often it was closed. -/
  closes : Nat := 0
deriving Repr, Inhabited

namespace Writer

/-- Tests whether texts are refused now. -/
def refuses (w : Writer) : Bool :=
  match w.outlet with
  | .memory refusesText _ => refusesText
  | .standardError => false
  | .file _ => 0 < w.closes

/-- Writes a text. Refusals are ignored: a trace never fails what it traces. -/
def write (w : Writer) (text : Bytes) : Writer :=
  if w.refuses then w else { w with chunks := text :: w.chunks }

/-- Everything written. -/
def text (w : Writer) : Bytes :=
  w.chunks.reverse.flatten

/-- Flushes a writer; the answer is its refusal. Only a store in memory has something to flush. -/
def flush (w : Writer) : Option Bytes × Writer :=
  match w.outlet with
  | .memory _ flushError => (flushError, { w with flushes := w.flushes + 1 })
  | _ => (none, w)

/-- Flushes a writer and, if that works, closes it. -/
def close (w : Writer) : Option Bytes × Writer :=
  match w.flush with
  | (some e, w) => (some e, w)
  | (none, w) =>
    match w.outlet with
    | .standardError => (none, w)
    | .memory _ _ => (none, { w with closes := w.closes + 1 })
    | .file path =>
      (if 0 < w.closes then some (utf8 "close " ++ path ++ utf8 ": file already closed") else none,
        { w with closes := w.closes + 1 })

end Writer

/-- The capacity of a ring that is not given one. -/
def defaultCapacity : Nat := 4096

/-- The capacity that a wanted number of events means. -/
def capacityOf (n : Int) : Nat :=
  if n ≤ 0 then defaultCapacity else n.toNat

theorem capacityOf_pos (n : Int) : 0 < capacityOf n := by
  unfold capacityOf defaultCapacity
  split <;> omega

/-- A bounded store of the latest events. Its slots are filled in turn; behind the last one comes
the first one again, so that the oldest event gives way. -/
structure Ring where
  /-- The slots. One that was never filled holds an event that tells nothing. -/
  slots : Array Event
  /-- The slot that the next event goes to. -/
  head : Nat
  /-- Whether every slot was filled. -/
  full : Bool
  /-- The next event goes to one of the slots. -/
  head_lt : head < slots.size
deriving Repr

namespace Ring

/-- An empty ring for a wanted number of events. -/
def ofCapacity (n : Int) : Ring where
  slots := Array.replicate (capacityOf n) default
  head := 0
  full := false
  head_lt := by simpa using capacityOf_pos n

/-- Stores an event in the next slot, over the oldest one if the ring is full. -/
def push (r : Ring) (e : Event) : Ring where
  slots := r.slots.set r.head e r.head_lt
  head := (r.head + 1) % r.slots.size
  full := r.full || (r.head + 1) % r.slots.size == 0
  head_lt := by
    have := r.head_lt
    simpa using Nat.mod_lt _ (by omega)

/-- The events kept, the oldest first. -/
def snapshot (r : Ring) : List Event :=
  let written := r.slots.toList.take r.head
  if r.full then r.slots.toList.drop r.head ++ written else written

/-- Writes the events kept, the oldest first. -/
def dump (f : Format) (r : Ring) : List Bytes :=
  r.snapshot.map (Event.render f)

/-- Sets a value of a span in the events that share its values. -/
def revise (span : UInt64) (key value : Bytes) (r : Ring) : Ring where
  slots := r.slots.map fun e =>
    if e.sharesExtra && e.span == span then { e with extra := Extra.put key value e.extra } else e
  head := r.head
  full := r.full
  head_lt := by simpa using r.head_lt

@[simp] theorem size_slots_ofCapacity (n : Int) : (ofCapacity n).slots.size = capacityOf n :=
  Array.size_replicate

@[simp] theorem size_slots_push (r : Ring) (e : Event) : (r.push e).slots.size = r.slots.size :=
  Array.size_set r.head_lt

end Ring

/-- A receiver of events. -/
inductive Tracer where
  /-- Receives nothing. -/
  | off
  /-- Writes events at once. -/
  | stream (level : Level) (format : Format) (writer : Writer)
  /-- Keeps the latest events. -/
  | ring (level : Level) (ring : Ring)
  /-- Hands events to a stream and a ring. -/
  | both (level streamLevel : Level) (format : Format) (writer : Writer)
    (ringLevel : Level) (ring : Ring)
deriving Repr, Inhabited

namespace Tracer

/-- The level that callers ask for before telling anything. -/
def level : Tracer → Level
  | off => .off
  | stream l _ _ | ring l _ | both l _ _ _ _ _ => l

/-- Tests whether a tracer wants events at all. -/
def isOn (t : Tracer) : Bool :=
  t.level.isOn

/-- The writer of a stream. -/
def writer? : Tracer → Option Writer
  | stream _ _ w | both _ _ _ w _ _ => some w
  | off | ring _ _ => none

/-- The ring that keeps events. -/
def ring? : Tracer → Option Ring
  | ring _ r | both _ _ _ _ _ r => some r
  | off | stream _ _ _ => none

/-- Sets a value of a span in the events that share its values. -/
def revise (span : UInt64) (key value : Bytes) : Tracer → Tracer
  | ring l r => ring l (r.revise span key value)
  | both l sl f w rl r => both l sl f w rl (r.revise span key value)
  | t => t

/-- Flushes the stream of a tracer. -/
def flush : Tracer → Option Bytes × Tracer
  | stream l f w => let (e, w) := w.flush; (e, stream l f w)
  | both l sl f w rl r => let (e, w) := w.flush; (e, both l sl f w rl r)
  | t => (none, t)

/-- Closes the stream of a tracer. -/
def close : Tracer → Option Bytes × Tracer
  | stream l f w => let (e, w) := w.close; (e, stream l f w)
  | both l sl f w rl r => let (e, w) := w.close; (e, both l sl f w rl r)
  | t => (none, t)

end Tracer

/-- The numbers handed out to events and spans. -/
structure Counters where
  /-- How many events were stored. -/
  seq : UInt64 := 0
  /-- How many spans were begun. -/
  spans : UInt64 := 0
deriving Repr, DecidableEq, Inhabited

/-- A tracer with its sequence of numbers. -/
structure Session where
  /-- The tracer. -/
  tracer : Tracer := .off
  /-- The numbers handed out. -/
  counters : Counters := {}
deriving Repr, Inhabited

/-- A span that was begun; one that nobody traces has no number. -/
structure OpenSpan where
  /-- Whether somebody traces it. -/
  live : Bool := false
  /-- Its number. -/
  id : UInt64 := 0
  /-- The span around it. -/
  parent : UInt64 := 0
  /-- What it is about. -/
  scope : Scope := ⟨0⟩
  /-- Its name. -/
  name : Bytes := []
  /-- Named values to tell at its end. -/
  extra : Extra := []
deriving Repr, Inhabited

namespace Session

/-- Hands an event to the stream of a tracer, if its level admits the event. -/
def writeEvent (l : Level) (f : Format) (w : Writer) (c : Counters) (e : Event) :
    Writer × Counters :=
  if l.admits e.scope then
    let seq := c.seq + 1
    (w.write (Event.render f { e with seq := seq }), { c with seq := seq })
  else (w, c)

/-- Hands an event to a ring, if its level admits the event. -/
def storeEvent (l : Level) (r : Ring) (c : Counters) (e : Event) : Ring × Counters :=
  if l.admits e.scope then
    let seq := c.seq + 1
    (r.push { e with seq := seq }, { c with seq := seq })
  else (r, c)

/-- Tells an event. -/
def emit (s : Session) (e : Event) : Session :=
  match s.tracer with
  | .off => s
  | .stream l f w =>
    let (w, c) := writeEvent l f w s.counters e
    ⟨.stream l f w, c⟩
  | .ring l r =>
    let (r, c) := storeEvent l r s.counters e
    ⟨.ring l r, c⟩
  | .both l sl f w rl r =>
    let (w, c) := writeEvent sl f w s.counters e
    let (r, c) := storeEvent rl r c e
    ⟨.both l sl f w rl r, c⟩

/-- Tests whether a tracer asks for events of a scope. -/
def wants (s : Session) (scope : Scope) : Bool :=
  s.tracer.isOn && s.tracer.level.admits scope

/-- Begins a span. -/
def begin (s : Session) (scope : Scope) (name : Bytes) (parent : UInt64) : OpenSpan × Session :=
  if s.wants scope then
    let id := s.counters.spans + 1
    let s := { s with counters := { s.counters with spans := id } }
    (⟨true, id, parent, scope, name, []⟩,
      s.emit { kind := .spanBegin, scope := scope, span := id, parent := parent, name := name })
  else ({}, s)

/-- Ends a span. -/
def finish (s : Session) (o : OpenSpan) (detail : Bytes) : Session :=
  if o.live then
    s.emit { kind := .spanEnd, scope := o.scope, span := o.id, parent := o.parent, name := o.name,
             detail := detail, extra := o.extra, sharesExtra := o.extra != [] }
  else s

/-- Sets a value to tell at the end of a span. Events of the span that have told values share the
change. -/
def setExtra (s : Session) (o : OpenSpan) (key value : Bytes) : OpenSpan × Session :=
  if o.live then
    ({ o with extra := Extra.put key value o.extra },
      { s with tracer := s.tracer.revise o.id key value })
  else (o, s)

/-- Tells a single moment. -/
def point (s : Session) (scope : Scope) (name detail : Bytes) : Session :=
  if s.wants scope then
    s.emit { kind := .point, scope := scope, name := name, detail := detail }
  else s

/-- Tells the steps of a generator, the earliest first, at node scope. -/
def points (s : Session) (ps : List Point) : Session :=
  ps.foldl (fun s p => s.point .node p.name p.detail) s

end Session

end ThreeAddress.Trace
