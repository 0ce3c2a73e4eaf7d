import Mathlib.Data.List.TakeWhile
import NsProxy.Tokio.Stream

/-!
# The combinators over a schedule

The loops that the documentation of the combinators describes, run over the schedule of a
socket: waiting skips the moments at which nothing is ready.
-/

namespace NsProxy.Tokio

/-- Read a number of bytes off a schedule. -/
def gather : List ReadEvent → Nat → Except String (List UInt8) × List ReadEvent
  | events, 0 => (.ok [], events)
  | [], _ + 1 => (.error "early eof", [])
  | .wouldBlock :: events, count + 1 => gather events (count + 1)
  | .failed message :: events, _ + 1 => (.error message, events)
  | .data bytes _ :: events, count + 1 =>
    if count + 1 ≤ bytes.length then
      (.ok (bytes.take (count + 1)), TcpStream.putBack (bytes.drop (count + 1)) events)
    else
      let (result, rest) := gather events (count + 1 - bytes.length)
      (result.map (bytes ++ ·), rest)

/-- Read a line from what was read ahead and from a schedule; also what stays read ahead. -/
def fetchLine : List UInt8 → List ReadEvent →
    Except String (List UInt8) × List UInt8 × List ReadEvent
  | ahead, events =>
    match ahead.dropWhile (· ≠ 10) with
    | newline :: rest => (.ok (ahead.takeWhile (· ≠ 10) ++ [newline]), rest, events)
    | [] =>
      match events with
      | [] => (.ok ahead, [], [])
      | .wouldBlock :: events => fetchLine ahead events
      | .failed message :: events => (.error message, [], events)
      | .data bytes _ :: events => fetchLine (ahead ++ bytes) events

/-- Bytes of a line that are no text. -/
def decodeLine (line : List UInt8) : Except String String :=
  match Text.fromUtf8 line with
  | some text => .ok text
  | none => .error "stream did not contain valid UTF-8"

/-- No event of a schedule is a failure. -/
def CleanEvents (events : List ReadEvent) : Prop :=
  ∀ event ∈ events, ∀ message, event ≠ .failed message

/-- What follows a clean read is clean. -/
theorem CleanEvents.tail {event : ReadEvent} {events : List ReadEvent}
    (clean : CleanEvents (event :: events)) : CleanEvents events :=
  fun other member => clean other (List.mem_cons_of_mem _ member)

/-- As many bytes are read as were asked for. -/
theorem gather_length {events : List ReadEvent} {count : Nat} {bytes : List UInt8}
    (read : (gather events count).1 = .ok bytes) : bytes.length = count := by
  fun_induction gather events count generalizing bytes with
  | case1 events =>
    cases read
    rfl
  | case2 count => contradiction
  | case3 events count ih => exact ih read
  | case4 message events count => contradiction
  | case5 chunk nonempty events count fits =>
    cases read
    rw [List.length_take]
    exact Nat.min_eq_left fits
  | case6 chunk nonempty events count short result rest more ih =>
    simp only [more] at ih
    cases result with
    | error message => contradiction
    | ok tail =>
      cases read
      rw [List.length_append, ih rfl]
      omega

/-- Enough bytes on a clean schedule are read exactly. -/
theorem gather_enough {events : List ReadEvent} {count : Nat} (clean : CleanEvents events)
    (enough : count ≤ (events.flatMap ReadEvent.bytes).length) :
    (gather events count).1 = .ok ((events.flatMap ReadEvent.bytes).take count) ∧
      (gather events count).2.flatMap ReadEvent.bytes =
        (events.flatMap ReadEvent.bytes).drop count ∧
      CleanEvents (gather events count).2 := by
  fun_induction gather events count with
  | case1 events => exact ⟨rfl, rfl, clean⟩
  | case2 count => simp at enough
  | case3 events count ih => exact ih clean.tail enough
  | case4 message events count => exact absurd rfl (clean _ List.mem_cons_self message)
  | case5 bytes nonempty events count fits =>
    refine ⟨?_, ?_, ?_⟩
    · simp only [List.flatMap_cons, ReadEvent.bytes]
      rw [List.take_append_of_le_length fits]
    · simp only [List.flatMap_cons, ReadEvent.bytes, TcpStream.flatMap_putBack]
      rw [List.drop_append_of_le_length fits]
    · intro event member message
      rcases TcpStream.mem_putBack member with later | ⟨_, rfl⟩
      · exact clean.tail event later message
      · simp
  | case6 bytes nonempty events count short result rest more ih =>
    simp only [List.flatMap_cons, ReadEvent.bytes, List.length_append] at enough ⊢
    obtain ⟨read, left, still⟩ := ih clean.tail (by omega)
    simp only [more] at read left still
    have beyond : bytes.length ≤ count + 1 := by omega
    refine ⟨?_, ?_, still⟩
    · rw [read, List.take_append, List.take_of_length_le beyond]
      rfl
    · rw [left, List.drop_append, List.drop_of_length_le beyond, List.nil_append]

/-- A clean schedule with too few bytes is an error. -/
theorem gather_short {events : List ReadEvent} {count : Nat} (clean : CleanEvents events)
    (short : (events.flatMap ReadEvent.bytes).length < count) :
    ∃ message, (gather events count).1 = .error message := by
  fun_induction gather events count with
  | case1 events => omega
  | case2 count => exact ⟨_, rfl⟩
  | case3 events count ih => exact ih clean.tail short
  | case4 message events count => exact ⟨_, rfl⟩
  | case5 bytes nonempty events count fits =>
    simp only [List.flatMap_cons, ReadEvent.bytes, List.length_append] at short
    omega
  | case6 bytes nonempty events count _ result rest more ih =>
    simp only [List.flatMap_cons, ReadEvent.bytes, List.length_append] at short
    obtain ⟨message, failed⟩ := ih clean.tail (by omega)
    simp only [more] at failed
    exact ⟨message, by rw [failed]; rfl⟩

/-- What stands before the first newline is read off a stream. -/
theorem takeWhile_newline {body : List UInt8} (absent : 10 ∉ body) (rest : List UInt8) :
    (body ++ 10 :: rest).takeWhile (· ≠ 10) = body := by
  rw [List.takeWhile_append_of_pos]
  · simp
  · intro byte member
    simp only [decide_eq_true_eq]
    rintro rfl
    exact absent member

/-- A stream starts with one line only. -/
theorem isLine_unique {line rest other more : List UInt8} (left : IsLine line rest)
    (right : IsLine other more) (same : line ++ rest = other ++ more) :
    line = other ∧ rest = more := by
  have ended : ∀ {body rest other more : List UInt8}, 10 ∉ body → IsLine other more →
      body ++ [10] ++ rest = other ++ more → body ++ [10] = other := by
    intro body rest other more absent right same
    rcases right with ⟨tail, rfl, missing⟩ | ⟨rfl, missing⟩
    · simp only [List.append_assoc, List.singleton_append] at same
      have bodies := congrArg (List.takeWhile fun byte : UInt8 => decide (byte ≠ 10)) same
      rw [takeWhile_newline absent, takeWhile_newline missing] at bodies
      rw [bodies]
    · rw [List.append_nil] at same
      rw [← same] at missing
      simp at missing
  have lines : line = other := by
    rcases left with ⟨body, rfl, absent⟩ | ⟨rfl, absent⟩
    · exact ended absent right same
    · rcases right with ⟨tail, rfl, missing⟩ | ⟨rfl, missing⟩
      · exact (ended missing (Or.inr ⟨rfl, absent⟩) same.symm).symm
      · simpa using same
  subst lines
  exact ⟨rfl, List.append_cancel_left same⟩

/-- A fetched line is a line, taken off the front; on a clean schedule there is one. -/
theorem fetchLine_spec (ahead : List UInt8) (events : List ReadEvent) :
    (∀ line, (fetchLine ahead events).1 = .ok line →
      ahead ++ events.flatMap ReadEvent.bytes = line ++ ((fetchLine ahead events).2.1 ++
        (fetchLine ahead events).2.2.flatMap ReadEvent.bytes) ∧
      IsLine line ((fetchLine ahead events).2.1 ++
        (fetchLine ahead events).2.2.flatMap ReadEvent.bytes)) ∧
    (CleanEvents events →
      (∃ line, (fetchLine ahead events).1 = .ok line) ∧
        CleanEvents (fetchLine ahead events).2.2) := by
  have absent : (10 : UInt8) ∉ ahead.takeWhile (· ≠ 10) := by
    intro member
    have := List.mem_takeWhile_imp member
    simp at this
  fun_induction fetchLine ahead events with
  | case1 ahead events newline rest found =>
    have ten : newline = 10 := by
      have := List.head?_dropWhile_not (fun byte : UInt8 => decide (byte ≠ 10)) ahead
      rw [found] at this
      simpa using this
    have whole := List.takeWhile_append_dropWhile (p := fun byte : UInt8 => decide (byte ≠ 10))
      (l := ahead)
    rw [found] at whole
    refine ⟨?_, fun clean => ⟨⟨_, rfl⟩, clean⟩⟩
    rintro line ⟨⟩
    refine ⟨?_, Or.inl ⟨_, by rw [ten], absent⟩⟩
    conv_lhs => rw [← whole]
    simp
  | case2 ahead found =>
    have missing : (10 : UInt8) ∉ ahead := by
      intro member
      have := List.dropWhile_eq_nil_iff.mp found 10 member
      simp at this
    refine ⟨?_, fun clean => ⟨⟨_, rfl⟩, clean⟩⟩
    rintro line ⟨⟩
    exact ⟨by simp, Or.inr ⟨by simp, missing⟩⟩
  | case3 ahead found events ih =>
    obtain ⟨taken, reached⟩ := ih absent
    exact ⟨taken, fun clean => reached clean.tail⟩
  | case4 ahead found message events =>
    refine ⟨?_, fun clean => absurd rfl (clean _ List.mem_cons_self message)⟩
    rintro line ⟨⟩
  | case5 ahead found bytes nonempty events ih =>
    have stillAbsent : (10 : UInt8) ∉ (ahead ++ bytes).takeWhile (· ≠ 10) := by
      intro member
      have := List.mem_takeWhile_imp member
      simp at this
    obtain ⟨taken, reached⟩ := ih stillAbsent
    refine ⟨?_, fun clean => reached clean.tail⟩
    simpa [List.append_assoc, ReadEvent.bytes] using taken

/-- A reader is a socket and the bytes read ahead of the last line. -/
structure ScheduleReader where
  /-- The socket. -/
  stream : TcpStream
  /-- The bytes read ahead. -/
  ahead : List UInt8

/-- The combinators as loops over the schedule. A write waits until there is room. -/
def scheduleApi : Api where
  writeAll stream bytes := (.ok (), { stream with written := stream.written ++ bytes })
  readExact stream count :=
    ((gather stream.incoming count).1,
      { stream with incoming := (gather stream.incoming count).2 })
  BufReader := ScheduleReader
  newReader stream := ⟨stream, []⟩
  inner := ScheduleReader.stream
  setInner reader stream := { reader with stream := stream }
  buffer := ScheduleReader.ahead
  readLine reader :=
    let fetched := fetchLine reader.ahead reader.stream.incoming
    (fetched.1.bind decodeLine,
      ⟨{ reader.stream with incoming := fetched.2.2 }, fetched.2.1⟩)
  writeAll_incoming _ _ := rfl
  writeAll_written _ _ _ := rfl
  readExact_written _ _ := rfl
  readExact_length _ _ _ read := gather_length read
  readExact_enough _ _ clean enough := gather_enough clean enough
  readExact_short _ _ clean short := gather_short clean short
  newReader_buffer _ := rfl
  newReader_inner _ := rfl
  setInner_buffer _ _ := rfl
  setInner_inner _ _ := rfl
  readLine_written _ := rfl
  readLine_consumes := by
    intro reader text returned
    dsimp only at returned ⊢
    cases fetched : (fetchLine reader.ahead reader.stream.incoming).1 with
    | error message =>
      rw [fetched] at returned
      contradiction
    | ok line =>
      have bytes : Text.asBytes text = line := by
        rw [← Text.fromUtf8_eq_some_iff]
        simp only [fetched, Except.bind, decodeLine] at returned
        split at returned
        · rename_i decoded
          cases returned
          exact decoded
        · contradiction
      rw [bytes]
      exact (fetchLine_spec reader.ahead reader.stream.incoming).1 line fetched
  readLine_clean := by
    intro reader line rest clean whole isLine
    obtain ⟨taken, reached⟩ := fetchLine_spec reader.ahead reader.stream.incoming
    obtain ⟨⟨fetched, returned⟩, still⟩ := reached clean
    obtain ⟨split, shape⟩ := taken fetched returned
    have same := (isLine_unique shape isLine (split.symm.trans whole)).1
    subst same
    simp only [returned, Except.bind, decodeLine]
    refine ⟨?_, ?_, still⟩
    · intro text decoded
      rw [decoded]
    · intro invalid
      rw [invalid]
      exact ⟨_, rfl⟩

end NsProxy.Tokio
