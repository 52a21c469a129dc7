import TokenEcho.Text.Utf8

/-!
# Output that can run full

A sink keeps the bytes it was given, and may have room for only so many. A text that does not fit is
cut where the room ends.
-/

namespace TokenEcho

/-- The texts that have been written as bytes, the latest first, and how many more bytes the sink
takes, if that is limited. -/
structure Sink where
  chunks : List (List UInt8) := []
  room? : Option Nat := none
deriving DecidableEq, Inhabited

namespace Sink

def ofLimit (limit? : Option Nat) : Sink := { room? := limit? }

def written (sink : Sink) : List UInt8 := sink.chunks.reverse.flatten

/-- Takes bytes in, without regard to the room. -/
def push (sink : Sink) (bytes : List UInt8) : Sink := { sink with chunks := bytes :: sink.chunks }

/-- Writes the bytes of a text as far as they fit, and tells whether all did. -/
def write (sink : Sink) (text : String) : Bool × Sink :=
  let bytes := Text.encode text
  match sink.room? with
  | none => (true, sink.push bytes)
  | some room =>
      if bytes.length ≤ room then
        (true, { sink.push bytes with room? := some (room - bytes.length) })
      else (false, { sink.push (bytes.take room) with room? := some 0 })

def writeAll (sink : Sink) : List String → Bool × Sink
  | [] => (true, sink)
  | text :: rest =>
      match sink.write text with
      | (true, sink) => sink.writeAll rest
      | (false, sink) => (false, sink)

@[simp] theorem written_push (sink : Sink) (bytes : List UInt8) :
    (sink.push bytes).written = sink.written ++ bytes := by
  simp [written, push]

end Sink

end TokenEcho
