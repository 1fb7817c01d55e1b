import ClassFormat.CompiledClass.Binary

/-!
# Streams

Reading a class from a source which may fail, and writing one to a sink with
limited room.  How the bytes of a source are cut into pieces has no influence,
and neither has an interruption, after which the read is tried again; a failure
of the source matters only if the class is not complete by then.
-/

namespace ClassFormat

/-- What one read from a source gives. -/
inductive ReadEvent where
  | data (bytes : List UInt8)
  | interrupted
  | failed (failure : IoFailure)
  deriving DecidableEq, Repr

/-- All that a source has to give: some bytes, and how it ends. -/
structure Source where
  bytes : List UInt8
  failure : Option IoFailure
  deriving DecidableEq, Repr

namespace Source

/-- Bytes which are all there is. -/
def ofBytes (bytes : List UInt8) : Source := ⟨bytes, none⟩

/--
What the reads from a source give in all, after the bytes already read, which
are held in reverse.  A read without data ends the source, and so does a
failure.
-/
def ofEventsOnto (done : List UInt8) : List ReadEvent → Source
  | [] => ⟨done.reverse, none⟩
  | .data [] :: _ => ⟨done.reverse, none⟩
  | .data bytes :: others => ofEventsOnto (bytes.reverse ++ done) others
  | .interrupted :: others => ofEventsOnto done others
  | .failed failure :: _ => ⟨done.reverse, some failure⟩

/-- What the reads from a source give in all. -/
def ofEvents (events : List ReadEvent) : Source :=
  ofEventsOnto [] events

/-- The fault of a value for which a source has too few bytes. -/
def endFault (source : Source) : FormatFault :=
  match source.failure with
  | some failure => .ofIo failure
  | none => .truncated

/-- Read a class. -/
def readClass (source : Source) : Except FormatFault CompiledClass :=
  match CompiledClass.decode source.bytes with
  | .ok (class_, _) => .ok class_
  | .error .early => .error source.endFault
  | .error (.fault fault) => .error fault

/--
Where the bytes are all there is, a class is read as from the bytes themselves.
-/
theorem readClass_ofBytes (bytes : List UInt8) :
    (ofBytes bytes).readClass = CompiledClass.parse bytes := by
  simp only [readClass, ofBytes, CompiledClass.parse, Decoder.sealed]
  cases CompiledClass.decode bytes with
  | ok read => rfl
  | error stop => cases stop <;> rfl

end Source

/--
A sink with room for some bytes, which fails beyond them, and may fail to flush
them.
-/
structure Sink where
  room : Nat
  refusal : IoFailure
  flushRefusal : Option IoFailure
  deriving DecidableEq, Repr

namespace Sink

/-- The failure of a sink which takes no more bytes without giving a reason. -/
def full : IoFailure := ⟨.writeZero, "failed to write whole buffer"⟩

/--
Write an encoding.  Whichever comes first ends it: lack of room, or an excess.
-/
def write (sink : Sink) (encoding : Encoding) : Except FormatFault Unit :=
  if sink.room < encoding.bytes.length then
    .error (.ofIo sink.refusal)
  else
    match encoding.excess, sink.flushRefusal with
    | some excess, _ => .error (.tooLarge excess)
    | none, some failure => .error (.ofIo failure)
    | none, none => .ok ()

end Sink

end ClassFormat
