import ElfScope.Text.Utf8

/-!
# Sinks

A sink accepts bytes as far as it has room. `Sink.write` offers it some bytes once;
`Sink.writeAll` offers what is left until all are accepted or none are; `Sink.writeTexts` writes
texts one after the other and stops at the first that is not accepted whole.
-/

namespace ElfScope

/-- Something that bytes are written to: how many more bytes it accepts if there is a limit
(`room`), the bytes it has accepted (`written`), and how often it was told that a unit of output is
complete (`flushes`). -/
structure Sink where
  room : Option Nat
  written : Bytes
  flushes : Nat
  deriving DecidableEq, Repr

/-- A sink that accepts no more bytes: it accepted none of the bytes that were left. -/
inductive SinkError where
  | full
  deriving DecidableEq, Repr

namespace Sink

/-- An empty sink. -/
def empty (room : Option Nat) : Sink :=
  ⟨room, #[], 0⟩

/-- Offers some bytes once: how many are accepted, and the sink that has accepted them. -/
def write (sink : Sink) (bytes : Bytes) : Nat × Sink :=
  match sink.room with
  | none => (bytes.size, { sink with written := sink.written ++ bytes })
  | some room =>
    let taken := bytes.extract 0 room
    (taken.size,
      { sink with room := some (room - taken.size), written := sink.written ++ taken })

/-- Offers what is left until all is accepted, at most `rounds` times. -/
def offer : Nat → Bytes → Sink → Except SinkError Unit × Sink
  | 0, bytes, sink => (if bytes.isEmpty then .ok () else .error .full, sink)
  | rounds + 1, bytes, sink =>
    if bytes.isEmpty then (.ok (), sink)
    else
      match sink.write bytes with
      | (0, sink) => (.error .full, sink)
      | (count, sink) => offer rounds (bytes.extract count) sink

/-- Writes all bytes; every accepted offer takes one of them at least. -/
def writeAll (bytes : Bytes) (sink : Sink) : Except SinkError Unit × Sink :=
  offer bytes.size bytes sink

/-- Tells the sink that a unit of output is complete. -/
def flush (sink : Sink) : Sink :=
  { sink with flushes := sink.flushes + 1 }

/-- Writes all bytes as one unit of output. -/
def writeUnit (bytes : Bytes) (sink : Sink) : Except SinkError Unit × Sink :=
  match sink.writeAll bytes with
  | (.ok (), sink) => (.ok (), sink.flush)
  | (.error error, sink) => (.error error, sink)

/-- Writes texts in order, up to the first that is not accepted whole. -/
def writeTexts : List String → Sink → Except SinkError Unit × Sink
  | [], sink => (.ok (), sink)
  | text :: rest, sink =>
    match sink.writeAll (Utf8.encode text) with
    | (.ok (), sink) => writeTexts rest sink
    | (.error error, sink) => (.error error, sink)

end Sink

end ElfScope
