import NsProxy.Tokio.Stream

/-!
# The stream after a handshake

`ProxyStream` of `proxy/mod.rs`: a socket with the bytes that the handshake read ahead. Both
read functions first empty the cursor over those bytes and then go to the socket.
-/

namespace NsProxy

open Tokio

/-- `Cursor<Vec<u8>>`. -/
structure Cursor where
  /-- `get_ref`. -/
  bytes : List UInt8
  /-- `position`. -/
  position : Nat
  /-- The cursor is inside its bytes or at their end. -/
  inside : position ≤ bytes.length

namespace Cursor

/-- `Cursor::new`. -/
def new (bytes : List UInt8) : Cursor := ⟨bytes, 0, Nat.zero_le _⟩

/-- The bytes after the position. -/
def unread (cursor : Cursor) : List UInt8 := cursor.bytes.drop cursor.position

/-- `Read::read` into a buffer of `size` bytes. -/
def read (cursor : Cursor) (size : Nat) : List UInt8 × Cursor :=
  (cursor.unread.take size,
    { cursor with
      position := cursor.position + (cursor.unread.take size).length
      inside := by
        have := cursor.inside
        simp only [unread, List.length_take, List.length_drop]
        omega })

/-- What is read is taken off the front. -/
theorem unread_read (cursor : Cursor) (size : Nat) :
    cursor.unread = (cursor.read size).1 ++ (cursor.read size).2.unread := by
  have left : (cursor.read size).2.unread =
      cursor.unread.drop (cursor.unread.take size).length := by
    rw [unread, unread, List.drop_drop]
    rfl
  have taken : (cursor.read size).1 = cursor.unread.take size := rfl
  rw [left, taken, List.length_take]
  by_cases fits : size ≤ cursor.unread.length
  · rw [Nat.min_eq_left fits, List.take_append_drop]
  · rw [Nat.min_eq_right (by omega), List.drop_length, List.append_nil,
      List.take_of_length_le (by omega)]

end Cursor

/-- `ProxyStream`. -/
structure ProxyStream where
  /-- `inner`. -/
  inner : TcpStream
  /-- `buffered`. -/
  buffered : Cursor

namespace ProxyStream

/-- `ProxyStream::new`. -/
def new (inner : TcpStream) (buffered : List UInt8) : ProxyStream := ⟨inner, .new buffered⟩

/-- `ProxyStream::has_buffered_data`. -/
def hasBufferedData (stream : ProxyStream) : Bool :=
  stream.buffered.position < stream.buffered.bytes.length

/-- `ProxyStream::try_read`. -/
def tryRead (stream : ProxyStream) (size : Nat) : Except IoError (List UInt8) × ProxyStream :=
  if stream.hasBufferedData then
    let (bytes, buffered) := stream.buffered.read size
    (.ok bytes, { stream with buffered := buffered })
  else
    let (result, inner) := stream.inner.tryRead size
    (result, { stream with inner := inner })

/-- `ProxyStream::poll_read` into a buffer with `size` bytes unfilled: the bytes it fills in,
with the error `wouldBlock` for `Pending`. -/
def pollRead (stream : ProxyStream) (size : Nat) : Except IoError (List UInt8) × ProxyStream :=
  if stream.hasBufferedData then
    let (bytes, buffered) := stream.buffered.read size
    (.ok bytes, { stream with buffered := buffered })
  else
    let (result, inner) := stream.inner.tryRead size
    (result, { stream with inner := inner })

/-- Whether `ProxyStream::poll_read_ready` is ready. -/
def pollReadReady (stream : ProxyStream) : Bool :=
  if stream.hasBufferedData then true else stream.inner.readReady

/-- A call of one of the two read functions. -/
inductive ReadCall
  | tryRead (size : Nat)
  | pollRead (size : Nat)

/-- The size of the buffer of a call. -/
def ReadCall.size : ReadCall → Nat
  | tryRead size | pollRead size => size

/-- Make a call. -/
def ReadCall.run (stream : ProxyStream) : ReadCall → Except IoError (List UInt8) × ProxyStream
  | tryRead size => stream.tryRead size
  | pollRead size => stream.pollRead size

/-- Make calls in order: their results, and the stream after them. -/
def runCalls (stream : ProxyStream) :
    List ReadCall → List (Except IoError (List UInt8)) × ProxyStream
  | [] => ([], stream)
  | call :: rest =>
    let (result, next) := call.run stream
    let (results, last) := runCalls next rest
    (result :: results, last)

/-- The bytes that a call returned. -/
def returned : Except IoError (List UInt8) → List UInt8
  | .ok bytes => bytes
  | .error _ => []

/-- The bytes that the stream has not returned: those read ahead and those to come. -/
def unread (stream : ProxyStream) : List UInt8 :=
  stream.buffered.unread ++ stream.inner.remaining

/-- Buffered data are exactly the unread bytes of the cursor. -/
theorem hasBufferedData_iff (stream : ProxyStream) :
    stream.hasBufferedData = true ↔ stream.buffered.unread ≠ [] := by
  rw [hasBufferedData, decide_eq_true_eq, Cursor.unread, Ne, List.drop_eq_nil_iff]
  omega

/-- The two read functions do the same. -/
theorem run_eq_tryRead (stream : ProxyStream) (call : ReadCall) :
    call.run stream = stream.tryRead call.size := by
  cases call <;> rfl

/-- A read of the socket takes what it returns off the front of the bytes to come. -/
theorem remaining_returned (stream : TcpStream) (size : Nat) :
    stream.remaining = returned (stream.tryRead size).1 ++ (stream.tryRead size).2.remaining := by
  cases result : (stream.tryRead size).1 with
  | ok bytes => exact TcpStream.remaining_tryRead result
  | error error => exact (TcpStream.remaining_tryRead_error result).symm

/-- A call takes what it returns off the front of the unread bytes. -/
theorem unread_tryRead (stream : ProxyStream) (size : Nat) :
    stream.unread = returned (stream.tryRead size).1 ++ (stream.tryRead size).2.unread := by
  unfold tryRead
  split
  · rw [unread, stream.buffered.unread_read size, List.append_assoc]
    rfl
  · rename_i empty
    rw [hasBufferedData_iff, not_not] at empty
    simp only [unread, empty, List.nil_append]
    exact remaining_returned stream.inner size

/-- A call returns no more than its buffer holds. -/
theorem length_tryRead {stream : ProxyStream} {size : Nat} {bytes : List UInt8}
    (read : (stream.tryRead size).1 = .ok bytes) : bytes.length ≤ size := by
  unfold tryRead at read
  split at read
  · injection read with same
    rw [← same]
    exact List.length_take_le _ _
  · exact TcpStream.length_tryRead read

/-- A call depends on what was read ahead and the schedule of the reads only. -/
theorem tryRead_congr {left right : ProxyStream} (buffered : left.buffered = right.buffered)
    (incoming : left.inner.incoming = right.inner.incoming) (size : Nat) :
    (left.tryRead size).1 = (right.tryRead size).1 := by
  unfold tryRead hasBufferedData
  rw [buffered]
  split
  · rfl
  · exact TcpStream.tryRead_congr incoming size

/-- A call writes nothing. -/
theorem written_tryRead (stream : ProxyStream) (size : Nat) :
    (stream.tryRead size).2.inner.written = stream.inner.written := by
  unfold tryRead
  split
  · rfl
  · exact stream.inner.written_tryRead size

/-- Calls leave a clean socket clean. -/
theorem clean_tryRead {stream : ProxyStream} (clean : stream.inner.Clean) (size : Nat) :
    (stream.tryRead size).2.inner.Clean := by
  unfold tryRead
  split
  · exact clean
  · exact TcpStream.clean_tryRead clean size

/-- A call with a non-empty buffer returns nothing only when nothing is left. -/
theorem unread_of_tryRead_nil {stream : ProxyStream} {size : Nat} (positive : 0 < size)
    (read : (stream.tryRead size).1 = .ok []) : stream.unread = [] := by
  unfold tryRead at read
  split at read
  · rename_i buffered
    rw [hasBufferedData_iff] at buffered
    injection read with taken
    rcases List.take_eq_nil_iff.mp taken with zero | empty
    · omega
    · exact absurd empty buffered
  · rename_i empty
    rw [hasBufferedData_iff, not_not] at empty
    rw [unread, empty, List.nil_append]
    exact TcpStream.remaining_of_tryRead_nil positive read

/-- No call on a clean socket fails. -/
theorem tryRead_clean {stream : ProxyStream} (clean : stream.inner.Clean) (size : Nat)
    (message : String) : (stream.tryRead size).1 ≠ .error (.other message) := by
  unfold tryRead
  split
  · simp
  · exact TcpStream.tryRead_clean clean size message

/-- While bytes are unread, a call with a non-empty buffer returns some of them or uses up a
moment at which nothing is ready. -/
theorem tryRead_progress {stream : ProxyStream} {size : Nat} (clean : stream.inner.Clean)
    (positive : 0 < size) (left : stream.unread ≠ []) :
    (stream.tryRead size).2.unread.length + (stream.tryRead size).2.inner.waits <
      stream.unread.length + stream.inner.waits := by
  have split := congrArg List.length (stream.unread_tryRead size)
  rw [List.length_append] at split
  have waits : (stream.tryRead size).2.inner.waits ≤ stream.inner.waits := by
    unfold tryRead
    split
    · exact Nat.le_refl _
    · exact TcpStream.waits_tryRead_le _ _
  cases result : (stream.tryRead size).1 with
  | ok bytes =>
    rw [result] at split
    have some : bytes ≠ [] := by
      rintro rfl
      exact left (unread_of_tryRead_nil positive result)
    have length := List.length_pos_of_ne_nil some
    simp only [returned] at split
    omega
  | error error =>
    cases error with
    | other message => exact absurd result (tryRead_clean clean size message)
    | wouldBlock =>
      rw [result] at split
      have used : (stream.tryRead size).2.inner.waits + 1 = stream.inner.waits := by
        unfold tryRead at result ⊢
        split at result
        · contradiction
        · rename_i empty
          rw [if_neg empty]
          exact TcpStream.waits_tryRead_wouldBlock result
      simp only [returned, List.length_nil] at split
      omega

/-! ## Runs of calls -/

/-- The results of a run are the unread bytes it took, in order. -/
theorem unread_runCalls (stream : ProxyStream) (calls : List ReadCall) :
    stream.unread = (stream.runCalls calls).1.flatMap returned ++
      (stream.runCalls calls).2.unread := by
  induction calls generalizing stream with
  | nil => rfl
  | cons call rest ih =>
    simp only [runCalls, List.flatMap_cons, List.append_assoc, ← ih, run_eq_tryRead]
    exact stream.unread_tryRead call.size

/-- A call of a run reports no bytes only after all bytes have been returned. -/
theorem runCalls_nil {stream : ProxyStream} {calls : List ReadCall}
    (positive : ∀ call ∈ calls, 0 < call.size) {index : Nat}
    (empty : (stream.runCalls calls).1[index]? = some (.ok [])) :
    ((stream.runCalls calls).1.take index).flatMap returned = stream.unread := by
  induction calls generalizing stream index with
  | nil => simp [runCalls] at empty
  | cons call rest ih =>
    simp only [runCalls, run_eq_tryRead] at empty ⊢
    have step := stream.unread_tryRead call.size
    cases index with
    | zero =>
      rw [List.getElem?_cons_zero, Option.some.injEq] at empty
      rw [unread_of_tryRead_nil (positive call List.mem_cons_self) empty]
      rfl
    | succ index =>
      rw [List.getElem?_cons_succ] at empty
      rw [List.take_succ_cons, List.flatMap_cons,
        ih (fun other member => positive other (List.mem_cons_of_mem _ member)) empty, ← step]

/-- No call of a run on a clean socket fails. -/
theorem runCalls_clean {stream : ProxyStream} (clean : stream.inner.Clean)
    (calls : List ReadCall) (message : String) :
    .error (.other message) ∉ (stream.runCalls calls).1 := by
  induction calls generalizing stream with
  | nil => simp [runCalls]
  | cons call rest ih =>
    simp only [runCalls, run_eq_tryRead, List.mem_cons, not_or]
    exact ⟨fun failed => tryRead_clean clean call.size message failed.symm,
      ih (clean_tryRead clean call.size)⟩

/-- A run with a call for each unread byte and each moment to wait returns everything. -/
theorem runCalls_complete {stream : ProxyStream} (clean : stream.inner.Clean)
    {calls : List ReadCall} (positive : ∀ call ∈ calls, 0 < call.size)
    (enough : stream.unread.length + stream.inner.waits ≤ calls.length) :
    (stream.runCalls calls).2.unread = [] := by
  induction calls generalizing stream with
  | nil =>
    rw [List.length_nil] at enough
    exact List.eq_nil_of_length_eq_zero (by simp only [runCalls]; omega)
  | cons call rest ih =>
    simp only [runCalls, run_eq_tryRead]
    have later : ∀ other ∈ rest, 0 < other.size :=
      fun other member => positive other (List.mem_cons_of_mem _ member)
    by_cases done : stream.unread = []
    · have split := stream.unread_tryRead call.size
      rw [done] at split
      have after := unread_runCalls (stream.tryRead call.size).2 rest
      rw [(List.append_eq_nil_iff.mp split.symm).2] at after
      exact (List.append_eq_nil_iff.mp after.symm).2
    · have progress := tryRead_progress clean (positive call List.mem_cons_self) done
      rw [List.length_cons] at enough
      exact ih (clean_tryRead clean call.size) later (by omega)

end ProxyStream

end NsProxy
