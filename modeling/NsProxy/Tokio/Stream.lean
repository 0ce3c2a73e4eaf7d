import NsProxy.Lib.Text

/-!
# Sockets of the runtime

A connected socket as the program meets it: the schedule of what its next reads and writes
will find. Any segmentation of a byte stream, with any number of moments at which nothing is
ready, is such a schedule; the end of the list of reads is the end of the stream.

The combinators of the runtime that loop over a socket (`write_all`, `read_exact` and the
line reader) are not part of the program. They are a record of operations with what their
documentation promises about the bytes they move.
-/

namespace NsProxy.Tokio

/-- `io::Error`, as far as the program tells errors apart. -/
inductive IoError
  | wouldBlock
  | other (message : String)
  deriving DecidableEq, Repr

/-- What a read finds. -/
inductive ReadEvent
  /-- Bytes that arrived together. -/
  | data (bytes : List UInt8) (nonempty : bytes ≠ [])
  /-- Nothing is ready yet. -/
  | wouldBlock
  /-- The read fails. -/
  | failed (message : String)
  deriving DecidableEq

/-- The bytes that a read event delivers. -/
def ReadEvent.bytes : ReadEvent → List UInt8
  | data bytes _ => bytes
  | wouldBlock | failed _ => []

/-- What a write finds. -/
inductive WriteEvent
  /-- Room for a number of bytes. -/
  | room (count : Nat) (positive : 0 < count)
  /-- Nothing can be written yet. -/
  | wouldBlock
  /-- The write fails. -/
  | failed (message : String)
  deriving DecidableEq

/-- `tokio::net::TcpStream`. -/
structure TcpStream where
  /-- What the next reads find; the stream ends where the list does. -/
  incoming : List ReadEvent
  /-- What the next writes find; there is room for everything where the list ends. -/
  outgoing : List WriteEvent
  /-- The bytes written so far. -/
  written : List UInt8
  deriving DecidableEq

namespace TcpStream

/-- The bytes that are still to come. -/
def remaining (stream : TcpStream) : List UInt8 := stream.incoming.flatMap ReadEvent.bytes

/-- No read will fail. -/
def Clean (stream : TcpStream) : Prop :=
  ∀ event ∈ stream.incoming, ∀ message, event ≠ .failed message

/-- The number of moments at which nothing is ready. -/
def waits (stream : TcpStream) : Nat := stream.incoming.countP (· = .wouldBlock)

/-- Put the rest of a chunk back in front of a schedule. -/
def putBack (rest : List UInt8) (events : List ReadEvent) : List ReadEvent :=
  if nonempty : rest ≠ [] then .data rest nonempty :: events else events

/-- `TcpStream::try_read` into a buffer of `size` bytes; also `poll_read`, with the error
`wouldBlock` for `Pending`. -/
def tryRead (stream : TcpStream) (size : Nat) : Except IoError (List UInt8) × TcpStream :=
  match stream.incoming with
  | [] => (.ok [], stream)
  | .data bytes _ :: events =>
    (.ok (bytes.take size), { stream with incoming := putBack (bytes.drop size) events })
  | .wouldBlock :: events => (.error .wouldBlock, { stream with incoming := events })
  | .failed message :: events => (.error (.other message), { stream with incoming := events })

/-- `TcpStream::try_write`: the number of bytes taken. -/
def tryWrite (stream : TcpStream) (bytes : List UInt8) : Except IoError Nat × TcpStream :=
  match stream.outgoing with
  | [] => (.ok bytes.length, { stream with written := stream.written ++ bytes })
  | .room count _ :: events =>
    (.ok (min count bytes.length),
      { stream with outgoing := events, written := stream.written ++ bytes.take count })
  | .wouldBlock :: events => (.error .wouldBlock, { stream with outgoing := events })
  | .failed message :: events => (.error (.other message), { stream with outgoing := events })

/-- Whether `poll_read_ready` is ready: a read would not block. -/
def readReady (stream : TcpStream) : Bool := stream.incoming.head? ≠ some .wouldBlock

/-- Whether `poll_write_ready` is ready: a write would not block. -/
def writeReady (stream : TcpStream) : Bool := stream.outgoing.head? ≠ some .wouldBlock

/-- Bytes that are put back come before those to come. -/
@[simp] theorem flatMap_putBack (rest : List UInt8) (events : List ReadEvent) :
    (putBack rest events).flatMap ReadEvent.bytes = rest ++ events.flatMap ReadEvent.bytes := by
  unfold putBack
  split
  · rfl
  · rename_i empty
    rw [not_not] at empty
    simp [empty]

/-- Putting bytes back adds one event at most. -/
theorem mem_putBack {event : ReadEvent} {rest : List UInt8} {events : List ReadEvent}
    (member : event ∈ putBack rest events) :
    event ∈ events ∨ ∃ nonempty, event = .data rest nonempty := by
  unfold putBack at member
  split at member
  · rename_i nonempty
    rcases List.mem_cons.mp member with rfl | later
    · exact Or.inr ⟨nonempty, rfl⟩
    · exact Or.inl later
  · exact Or.inl member

/-- What a read returns is taken off the front of the stream. -/
theorem remaining_tryRead {stream : TcpStream} {size : Nat} {bytes : List UInt8}
    (read : (stream.tryRead size).1 = .ok bytes) :
    stream.remaining = bytes ++ (stream.tryRead size).2.remaining := by
  unfold tryRead at *
  split at read
  · cases read
    simp [remaining]
  · rename_i chunk nonempty events schedule
    cases read
    rw [remaining, schedule]
    simp [remaining, ReadEvent.bytes, ← List.append_assoc]
  · contradiction
  · contradiction

/-- A read that returns nothing leaves the bytes to come as they were. -/
theorem remaining_tryRead_error {stream : TcpStream} {size : Nat} {error : IoError}
    (read : (stream.tryRead size).1 = .error error) :
    (stream.tryRead size).2.remaining = stream.remaining := by
  unfold tryRead at *
  split at read
  · contradiction
  · contradiction
  · rename_i events schedule
    simp [remaining, schedule, ReadEvent.bytes]
  · rename_i message events schedule
    simp [remaining, schedule, ReadEvent.bytes]

/-- A read into a non-empty buffer returns nothing only at the end of the stream. -/
theorem remaining_of_tryRead_nil {stream : TcpStream} {size : Nat} (positive : 0 < size)
    (read : (stream.tryRead size).1 = .ok []) : stream.remaining = [] := by
  unfold tryRead at read
  split at read
  · rename_i schedule
    simp [remaining, schedule]
  · rename_i chunk nonempty events schedule
    injection read with taken
    rw [List.take_eq_nil_iff] at taken
    rcases taken with zero | empty
    · omega
    · exact absurd empty nonempty
  · contradiction
  · contradiction

/-- The number of bytes that a write has taken. -/
def taken : Except IoError Nat → Nat
  | .ok count => count
  | .error _ => 0

/-- A write takes bytes from the front of what it is given. -/
theorem written_tryWrite (stream : TcpStream) (bytes : List UInt8) :
    taken (stream.tryWrite bytes).1 ≤ bytes.length ∧
      (stream.tryWrite bytes).2.written =
        stream.written ++ bytes.take (taken (stream.tryWrite bytes).1) := by
  unfold tryWrite
  split
  · exact ⟨Nat.le_refl _, by rw [taken, List.take_length]⟩
  · rename_i count positive events schedule
    refine ⟨Nat.min_le_right _ _, ?_⟩
    show stream.written ++ bytes.take count = stream.written ++ bytes.take (min count bytes.length)
    rw [← List.take_eq_take_min]
  · exact ⟨Nat.zero_le _, by simp [taken]⟩
  · exact ⟨Nat.zero_le _, by simp [taken]⟩

/-- A write reads nothing. -/
theorem incoming_tryWrite (stream : TcpStream) (bytes : List UInt8) :
    (stream.tryWrite bytes).2.incoming = stream.incoming := by
  unfold tryWrite
  split <;> rfl

/-- A read depends on the schedule of the reads only. -/
theorem tryRead_congr {left right : TcpStream} (same : left.incoming = right.incoming)
    (size : Nat) : (left.tryRead size).1 = (right.tryRead size).1 := by
  unfold tryRead
  rw [same]
  split <;> rfl

/-- A read returns no more than its buffer holds. -/
theorem length_tryRead {stream : TcpStream} {size : Nat} {bytes : List UInt8}
    (read : (stream.tryRead size).1 = .ok bytes) : bytes.length ≤ size := by
  unfold tryRead at read
  split at read
  · cases read
    exact Nat.zero_le _
  · cases read
    exact List.length_take_le _ _
  · contradiction
  · contradiction

/-- A read writes nothing. -/
theorem written_tryRead (stream : TcpStream) (size : Nat) :
    (stream.tryRead size).2.written = stream.written := by
  unfold tryRead
  split <;> rfl

/-- A read leaves the readiness for writing alone. -/
theorem writeReady_tryRead (stream : TcpStream) (size : Nat) :
    (stream.tryRead size).2.writeReady = stream.writeReady := by
  unfold tryRead
  split <;> rfl

/-- A read adds no moment to wait at. -/
theorem waits_tryRead_le (stream : TcpStream) (size : Nat) :
    (stream.tryRead size).2.waits ≤ stream.waits := by
  unfold tryRead
  split
  · exact Nat.le_refl _
  · rename_i chunk nonempty events schedule
    simp only [waits, schedule]
    unfold putBack
    split <;> simp
  · rename_i events schedule
    simp [waits, schedule]
  · rename_i message events schedule
    simp [waits, schedule]

/-- A read that finds nothing ready uses up the moment. -/
theorem waits_tryRead_wouldBlock {stream : TcpStream} {size : Nat}
    (read : (stream.tryRead size).1 = .error .wouldBlock) :
    (stream.tryRead size).2.waits + 1 = stream.waits := by
  unfold tryRead at *
  split at read
  · contradiction
  · contradiction
  · rename_i events schedule
    simp [waits, schedule]
  · injection read with other
    contradiction

/-- No read of a clean stream fails. -/
theorem tryRead_clean {stream : TcpStream} (clean : stream.Clean) (size : Nat)
    (message : String) : (stream.tryRead size).1 ≠ .error (.other message) := by
  unfold tryRead
  split
  · simp
  · simp
  · simp
  · rename_i text events schedule
    exact absurd rfl (clean _ (by rw [schedule]; exact List.mem_cons_self) text)

/-- Reads of a clean stream leave it clean. -/
theorem clean_tryRead {stream : TcpStream} (clean : stream.Clean) (size : Nat) :
    (stream.tryRead size).2.Clean := by
  intro event member
  unfold tryRead at member
  split at member
  · exact clean event member
  · rename_i chunk nonempty events schedule
    rcases mem_putBack member with later | ⟨_, rfl⟩
    · exact clean event (by rw [schedule]; exact List.mem_cons_of_mem _ later)
    · intro message
      simp
  · rename_i events schedule
    exact clean event (by rw [schedule]; exact List.mem_cons_of_mem _ member)
  · rename_i message events schedule
    exact clean event (by rw [schedule]; exact List.mem_cons_of_mem _ member)

end TcpStream

/-- One line of a text stream and what follows it: the line ends with its only newline, or it
has none and the stream ends with it. -/
def IsLine (line rest : List UInt8) : Prop :=
  (∃ body, line = body ++ [10] ∧ 10 ∉ body) ∨ (rest = [] ∧ 10 ∉ line)

/-- The combinators of the runtime that the connectors use, with their documented
behaviour. -/
structure Api where
  /-- `AsyncWriteExt::write_all`, or the text of its error. -/
  writeAll : TcpStream → List UInt8 → Except String Unit × TcpStream
  /-- `AsyncReadExt::read_exact` of a number of bytes, or the text of its error. -/
  readExact : TcpStream → Nat → Except String (List UInt8) × TcpStream
  /-- `BufReader<TcpStream>`. -/
  BufReader : Type
  /-- `BufReader::new`. -/
  newReader : TcpStream → BufReader
  /-- `BufReader::get_ref`, and what `into_inner` returns. -/
  inner : BufReader → TcpStream
  /-- What `get_mut` allows: the socket is replaced. -/
  setInner : BufReader → TcpStream → BufReader
  /-- `BufReader::buffer`. -/
  buffer : BufReader → List UInt8
  /-- `AsyncBufReadExt::read_line` into an empty text, or the text of its error. -/
  readLine : BufReader → Except String String × BufReader
  /-- Writing reads nothing. -/
  writeAll_incoming : ∀ stream bytes, (writeAll stream bytes).2.incoming = stream.incoming
  /-- A successful `write_all` writes all bytes. -/
  writeAll_written : ∀ stream bytes, (writeAll stream bytes).1 = .ok () →
    (writeAll stream bytes).2.written = stream.written ++ bytes
  /-- Reading writes nothing. -/
  readExact_written : ∀ stream count, (readExact stream count).2.written = stream.written
  /-- What is returned has the size asked for. -/
  readExact_length : ∀ stream count bytes, (readExact stream count).1 = .ok bytes →
    bytes.length = count
  /-- A stream with enough bytes to come yields exactly the number asked for. -/
  readExact_enough : ∀ stream count, stream.Clean → count ≤ stream.remaining.length →
    (readExact stream count).1 = .ok (stream.remaining.take count) ∧
      (readExact stream count).2.remaining = stream.remaining.drop count ∧
      (readExact stream count).2.Clean
  /-- A stream that ends too early is an error. -/
  readExact_short : ∀ stream count, stream.Clean → stream.remaining.length < count →
    ∃ message, (readExact stream count).1 = .error message
  /-- A new reader has read nothing ahead. -/
  newReader_buffer : ∀ stream, buffer (newReader stream) = []
  /-- A new reader reads its socket. -/
  newReader_inner : ∀ stream, inner (newReader stream) = stream
  /-- Replacing the socket keeps what was read ahead. -/
  setInner_buffer : ∀ reader stream, buffer (setInner reader stream) = buffer reader
  /-- The socket is the one it was replaced by. -/
  setInner_inner : ∀ reader stream, inner (setInner reader stream) = stream
  /-- Reading a line writes nothing. -/
  readLine_written : ∀ reader, (inner (readLine reader).2).written = (inner reader).written
  /-- A returned line was taken off the front of what was read ahead and what is to come;
  the buffer keeps exactly what was read from the socket and is not part of the line. -/
  readLine_consumes : ∀ reader text, (readLine reader).1 = .ok text →
    buffer reader ++ (inner reader).remaining = Text.asBytes text ++
      (buffer (readLine reader).2 ++ (inner (readLine reader).2).remaining) ∧
    IsLine (Text.asBytes text)
      (buffer (readLine reader).2 ++ (inner (readLine reader).2).remaining)
  /-- The next line of a clean stream is returned when it is UTF-8, and is an error when it
  is not. -/
  readLine_clean : ∀ reader line rest, (inner reader).Clean →
    buffer reader ++ (inner reader).remaining = line ++ rest → IsLine line rest →
    (∀ text, Text.fromUtf8 line = some text → (readLine reader).1 = .ok text) ∧
      (Text.fromUtf8 line = none → ∃ message, (readLine reader).1 = .error message) ∧
      (inner (readLine reader).2).Clean

namespace Api

/-- The bytes that a reader has not returned: those read ahead and those to come. -/
def unread (api : Api) (reader : api.BufReader) : List UInt8 :=
  api.buffer reader ++ (api.inner reader).remaining

end Api

end NsProxy.Tokio
