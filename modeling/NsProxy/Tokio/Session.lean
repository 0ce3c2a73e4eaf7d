import NsProxy.Lib.Anyhow
import NsProxy.Tokio.Stream

/-!
# Handshakes over a socket

A function that waits on a socket and may fail is a function on sessions: the socket and the
calls made on it so far. Two relations describe such a function. `Reads` compares it with a
parser of the bytes to come; `Traces` says which calls it adds. Both are proved step by step
along the function.
-/

namespace NsProxy.Tokio

/-- A call that moved bytes. -/
inductive Transfer
  /-- A call of `write_all` with these bytes. -/
  | sent (bytes : List UInt8)
  /-- A call of `read_exact` that returned these bytes. -/
  | received (bytes : List UInt8)
  deriving DecidableEq

/-- A socket and the calls made on it. -/
structure Session where
  /-- The socket. -/
  stream : TcpStream
  /-- The calls, in order. -/
  trace : List Transfer

/-- A fallible function on sessions. -/
def Io (α : Type) : Type := Session → Except Error α × Session

namespace Io

variable {α β : Type}

instance : Monad Io where
  pure value := fun session => (.ok value, session)
  bind action next := fun session =>
    match action session with
    | (.ok value, session) => next value session
    | (.error causes, session) => (.error causes, session)

/-- An error without a cause. -/
def bail (message : String) : Io α := fun session => (.error [message], session)

/-- A fallible value. -/
def ofExcept (result : Except Error α) : Io α := fun session => (result, session)

/-- `context`. -/
def context (message : String) (action : Io α) : Io α := fun session =>
  (Error.context message (action session).1, (action session).2)

/-- `write_all`. -/
def writeAll (api : Api) (bytes : List UInt8) : Io Unit := fun session =>
  ((api.writeAll session.stream bytes).1.mapError ([·]),
    ⟨(api.writeAll session.stream bytes).2, session.trace ++ [.sent bytes]⟩)

/-- `read_exact`. -/
def readExact (api : Api) (count : Nat) : Io (List UInt8) := fun session =>
  match (api.readExact session.stream count).1 with
  | .ok bytes =>
    (.ok bytes, ⟨(api.readExact session.stream count).2, session.trace ++ [.received bytes]⟩)
  | .error cause => (.error [cause], ⟨(api.readExact session.stream count).2, session.trace⟩)

/-- The second function runs on what the first leaves, unless that failed. -/
theorem bind_apply (action : Io α) (next : α → Io β) (session : Session) :
    (action >>= next) session = match action session with
      | (.ok value, session) => next value session
      | (.error causes, session) => (.error causes, session) :=
  rfl

/-! ## Functions as parsers -/

/-- A parser of the bytes to come. -/
abbrev Parser (α : Type) : Type := StateT (List UInt8) Option α

/-- Take a number of bytes. -/
def Parser.take (count : Nat) : Parser (List UInt8) := fun bytes =>
  if count ≤ bytes.length then some (bytes.take count, bytes.drop count) else none

/-- On every clean socket the function succeeds exactly when the parser accepts the bytes to
come, with its value, and leaves the bytes that the parser leaves. -/
def Reads (action : Io α) (parser : Parser α) : Prop :=
  ∀ session, session.stream.Clean →
    match parser session.stream.remaining with
    | some (value, rest) => (action session).1 = .ok value ∧
        (action session).2.stream.remaining = rest ∧ (action session).2.stream.Clean
    | none => ∃ causes, (action session).1 = .error causes

/-- A value that is at hand reads nothing. -/
theorem reads_pure (value : α) : Reads (pure value) (pure value) :=
  fun _ clean => ⟨rfl, rfl, clean⟩

/-- A refusal accepts nothing. -/
theorem reads_bail (message : String) : Reads (bail message : Io α) failure :=
  fun _ _ => ⟨_, rfl⟩

/-- Two functions one after the other are read by their parsers one after the other. -/
theorem reads_bind {action : Io α} {parser : Parser α} {next : α → Io β}
    {nextParser : α → Parser β} (first : Reads action parser)
    (second : ∀ value, Reads (next value) (nextParser value)) :
    Reads (action >>= next) (parser >>= nextParser) := by
  intro session clean
  have step := first session clean
  rw [bind_apply]
  change match (parser session.stream.remaining).bind fun read => nextParser read.1 read.2 with
    | some (value, rest) => _
    | none => _
  cases parsed : parser session.stream.remaining with
  | none =>
    rw [parsed] at step
    obtain ⟨causes, failed⟩ := step
    cases ran : action session with
    | mk result after =>
      rw [ran] at failed
      subst failed
      exact ⟨causes, rfl⟩
  | some read =>
    obtain ⟨value, rest⟩ := read
    rw [parsed] at step
    obtain ⟨returned, left, still⟩ := step
    cases ran : action session with
    | mk result after =>
      rw [ran] at returned left still
      subst returned
      have later := second value after still
      rw [left] at later
      exact later

/-- A context changes nothing of what is read. -/
theorem reads_context (message : String) {action : Io α} {parser : Parser α}
    (reads : Reads action parser) : Reads (context message action) parser := by
  intro session clean
  have step := reads session clean
  split at step
  · obtain ⟨returned, rest⟩ := step
    exact ⟨by rw [context, returned]; rfl, rest⟩
  · obtain ⟨causes, failed⟩ := step
    exact ⟨message :: causes, by rw [context, failed]; rfl⟩

/-- A result that is at hand reads nothing. -/
theorem reads_ofExcept (result : Except Error α) :
    Reads (ofExcept result) (StateT.lift result.toOption) := by
  intro session clean
  cases result with
  | ok value => exact ⟨rfl, rfl, clean⟩
  | error causes => exact ⟨causes, rfl⟩

/-- A write that succeeds reads nothing. -/
theorem reads_writeAll {api : Api} {bytes : List UInt8}
    (writes : ∀ stream, (api.writeAll stream bytes).1 = .ok ()) :
    Reads (writeAll api bytes) (pure ()) := by
  intro session clean
  have incoming := api.writeAll_incoming session.stream bytes
  refine ⟨?_, ?_, ?_⟩
  · rw [writeAll, writes]
    rfl
  · simp only [writeAll, TcpStream.remaining, incoming]
  · intro event member
    exact clean event (incoming ▸ member)

/-- An exact read takes as many bytes as it asks for, or fails. -/
theorem reads_readExact (api : Api) (count : Nat) :
    Reads (readExact api count) (Parser.take count) := by
  intro session clean
  unfold Parser.take readExact
  by_cases enough : count ≤ session.stream.remaining.length
  · obtain ⟨read, left, still⟩ := api.readExact_enough session.stream count clean enough
    rw [if_pos enough]
    simp only [read]
    exact ⟨trivial, left, still⟩
  · obtain ⟨message, failed⟩ := api.readExact_short session.stream count clean (by omega)
    rw [if_neg enough]
    simp only [failed]
    exact ⟨_, rfl⟩

/-! ## The calls that a function adds -/

/-- Every run of the function adds calls to the trace, of a shape that depends on its
result. -/
def Traces (action : Io α) (shape : Except Error α → List Transfer → Prop) : Prop :=
  ∀ session, ∃ added, (action session).2.trace = session.trace ++ added ∧
    shape (action session).1 added

/-- A value that is at hand makes no call. -/
theorem traces_pure (value : α) :
    Traces (pure value) fun result added => result = .ok value ∧ added = [] :=
  fun session => ⟨[], (List.append_nil session.trace).symm, rfl, rfl⟩

/-- A refusal makes no call. -/
theorem traces_bail (message : String) :
    Traces (bail message : Io α) fun result added => result = .error [message] ∧ added = [] :=
  fun session => ⟨[], (List.append_nil session.trace).symm, rfl, rfl⟩

/-- A result that is at hand makes no call. -/
theorem traces_ofExcept (value : Except Error α) :
    Traces (ofExcept value) fun result added => result = value ∧ added = [] :=
  fun session => ⟨[], (List.append_nil session.trace).symm, rfl, rfl⟩

/-- The shape of a trace may be widened. -/
theorem Traces.mono {action : Io α} {shape wider : Except Error α → List Transfer → Prop}
    (traces : Traces action shape)
    (covers : ∀ result added, shape result added → wider result added) : Traces action wider := by
  intro session
  obtain ⟨added, whole, here⟩ := traces session
  exact ⟨added, whole, covers _ _ here⟩

/-- Two functions one after the other make their calls one after the other. -/
theorem traces_bind {action : Io α} {next : α → Io β}
    {shape : Except Error α → List Transfer → Prop}
    {nextShape : α → Except Error β → List Transfer → Prop} (first : Traces action shape)
    (second : ∀ value, Traces (next value) (nextShape value)) :
    Traces (action >>= next) fun result added =>
      (∃ causes, result = .error causes ∧ shape (.error causes) added) ∨
        ∃ value before after, added = before ++ after ∧ shape (.ok value) before ∧
          nextShape value result after := by
  intro session
  obtain ⟨before, whole, here⟩ := first session
  rw [bind_apply]
  cases ran : action session with
  | mk result middle =>
    rw [ran] at whole here
    cases result with
    | error causes => exact ⟨before, whole, Or.inl ⟨causes, rfl, here⟩⟩
    | ok value =>
      obtain ⟨after, further, there⟩ := second value middle
      refine ⟨before ++ after, ?_, Or.inr ⟨value, before, after, rfl, here, there⟩⟩
      rw [further, whole, List.append_assoc]

/-- A context changes nothing of the calls. -/
theorem traces_context (message : String) {action : Io α}
    {shape : Except Error α → List Transfer → Prop} (traces : Traces action shape) :
    Traces (context message action) fun result added =>
      (∃ causes, result = .error (message :: causes) ∧ shape (.error causes) added) ∨
        ∃ value, result = .ok value ∧ shape (.ok value) added := by
  intro session
  obtain ⟨added, whole, here⟩ := traces session
  refine ⟨added, whole, ?_⟩
  cases ran : (action session).1 with
  | error causes =>
    rw [ran] at here
    exact Or.inl ⟨causes, by rw [context, ran]; rfl, here⟩
  | ok value =>
    rw [ran] at here
    exact Or.inr ⟨value, by rw [context, ran]; rfl, here⟩

/-- A write is one call. -/
theorem traces_writeAll (api : Api) (bytes : List UInt8) :
    Traces (writeAll api bytes) fun _ added => added = [.sent bytes] :=
  fun _ => ⟨_, rfl, rfl⟩

/-- A read is one call that brings all its bytes, or fails and adds none. -/
theorem traces_readExact (api : Api) (count : Nat) :
    Traces (readExact api count) fun result added =>
      (∃ causes, result = .error causes ∧ added = []) ∨
        ∃ bytes, result = .ok bytes ∧ bytes.length = count ∧ added = [.received bytes] := by
  intro session
  unfold readExact
  split
  · rename_i bytes read
    exact ⟨_, rfl, Or.inr ⟨_, rfl, api.readExact_length _ _ _ read, rfl⟩⟩
  · exact ⟨[], (List.append_nil session.trace).symm, Or.inl ⟨_, rfl, rfl⟩⟩

end Io

end NsProxy.Tokio
