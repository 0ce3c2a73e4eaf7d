import NsProxy.EventLoop.Ownership

/-!
# The loop on its device

`TunDevice` of `tun.rs` and `run` with `wait_for_work` of `event_loop.rs`. The kernel queues
packets at any moment and tells the runtime by an edge; the runtime turns the edge into the
readiness of the `AsyncFd`, which stays until it is cleared. The source clears it before it
reads and then reads until the device has nothing more.
-/

namespace NsProxy.Tun

/-- `MTU`. -/
def mtu : Nat := 65000

/-- The length of the buffer of `poll_read`. -/
def bufferLength : Nat := mtu + 100

/-- A packet that the kernel holds for the reader of the device. -/
structure Packet where
  /-- The bytes. -/
  bytes : List UInt8
  /-- There is no empty packet. -/
  nonempty : bytes ≠ []

/-- What a read of the packet puts into the buffer. -/
def Packet.cut (packet : Packet) : List UInt8 := packet.bytes.take bufferLength

/-- What the device reads of a packet is never empty. -/
theorem Packet.cut_ne_nil (packet : Packet) : packet.cut ≠ [] := by
  intro empty
  rcases List.take_eq_nil_iff.mp empty with none | none
  · contradiction
  · exact packet.nonempty none

/-- `TunDevice`, of which the queue matters. -/
abbrev TunDevice : Type := List (List UInt8)

namespace TunDevice

/-- `TunDevice::poll_read`, with the bytes of the read or its failure. -/
def pollRead (device : TunDevice) : Option (List UInt8) → Bool × TunDevice
  | none => (false, device)
  | some bytes => if bytes.length = 0 then (false, device) else (true, device ++ [bytes])

/-- `TunDevice::receive`, the packet of the receive token. -/
def receive : TunDevice → Option (List UInt8 × TunDevice)
  | [] => none
  | packet :: rest => some (packet, rest)

/-- The packets of a number of calls of `receive`, and the device after them. -/
def receiveMany : Nat → TunDevice → List (List UInt8) × TunDevice
  | 0, device => ([], device)
  | count + 1, device =>
    match device.receive with
    | none => ([], device)
    | some (packet, rest) =>
      let (packets, last) := receiveMany count rest
      (packet :: packets, last)

/-- Packets leave the device in their order. -/
theorem receiveMany_append (count : Nat) (device : TunDevice) :
    (receiveMany count device).1 ++ (receiveMany count device).2 = device := by
  induction count generalizing device with
  | zero => rfl
  | succ count ih =>
    cases device with
    | nil => rfl
    | cons packet rest =>
      show packet :: (receiveMany count rest).1 ++ (receiveMany count rest).2 = packet :: rest
      rw [List.cons_append, ih]

/-- A packet that is read joins the queue of the device. -/
theorem pollRead_cut (device : TunDevice) (packet : Packet) :
    device.pollRead (some packet.cut) = (true, device ++ [packet.cut]) := by
  rw [pollRead, if_neg]
  intro empty
  exact packet.cut_ne_nil (List.length_eq_zero_iff.mp empty)

end TunDevice

end NsProxy.Tun

namespace NsProxy.EventLoop

open Smoltcp Tun Published

/-- The stack takes packets from its device by `Device::receive` only. -/
structure Receives (stack : StackApi) : Prop where
  /-- What is left on the device after `Interface::poll`. -/
  poll : ∀ now interface (device : TunDevice) sockets, ∃ count,
    (stack.poll now interface device sockets).2.1 = (device.receiveMany count).2

/-- The timeout of `wait_for_work` in milliseconds, from the poll delay of the interface. -/
def waitTimeout (pollDelay : Option Nat) : Nat := min (max (pollDelay.getD 50) 1) 100

/-- Where `EventLoop::run` stands. -/
inductive Control
  /-- In the `select!` of `wait_for_work`. -/
  | waiting
  /-- In the reading loop of `tick`. -/
  | draining
  /-- After that loop. -/
  | ticking
  /-- Returned. -/
  | stopped
  deriving DecidableEq

/-- The event loop with the device that it reads, the runtime that it waits on and the shutdown
channel. -/
structure OnDevice (stack : StackApi) (regex : RegexApi) where
  /-- The event loop. -/
  loop : EventLoop stack regex
  /-- The packets that the kernel holds. -/
  kernel : List Packet
  /-- The kernel has told of a packet, and the runtime has not seen it yet. -/
  edge : Bool
  /-- The readiness of the `AsyncFd`. -/
  ready : Bool
  /-- The value of the shutdown channel. -/
  shutdown : Bool
  /-- Where the loop stands. -/
  control : Control
  /-- When the wait began, in milliseconds. -/
  began : Nat
  /-- When its timer fires. -/
  deadline : Nat
  /-- The last reading loop ended by an error other than that the device is empty. -/
  failed : Bool
  /-- The packets that the kernel has queued by now. -/
  arrived : List Packet
  /-- The packets that `observe_syns` was given by now. -/
  inspected : List (List UInt8)
  /-- The packets that the stack has received by now. -/
  received : List (List UInt8)

namespace OnDevice

variable {stack : StackApi} {regex : RegexApi}

/-- The start of `wait_for_work`. -/
def beginWait (state : OnDevice stack regex) (now : Nat) (pollDelay : Option Nat) :
    OnDevice stack regex :=
  if state.shutdown then { state with control := .stopped }
  else { state with control := .waiting, began := now, deadline := now + waitTimeout pollDelay }

/-- `EventLoop::new` on a device that may hold packets already, and the first wait. -/
def start (config : AppConfig regex) (interface : stack.Interface) (kernel : List Packet)
    (now : Nat) (pollDelay : Option Nat) : OnDevice stack regex :=
  beginWait
    { loop := EventLoop.new config interface
      kernel := kernel
      edge := !kernel.isEmpty
      ready := false
      shutdown := false
      control := .waiting
      began := now
      deadline := now
      failed := false
      arrived := kernel
      inspected := []
      received := [] } now pollDelay

/-- The end of `wait_for_work`. -/
def endWait (state : OnDevice stack regex) : OnDevice stack regex :=
  { state with control := if state.shutdown then .stopped else .draining }

/-- A poll of the `select!`, whose branches are tried in their order. -/
def pollWait (state : OnDevice stack regex) (outbound : OutboundTcp.PollInput)
    (published : PublishedTcp.PollInput) (now : Nat) : Run (OnDevice stack regex) :=
  if state.shutdown then return state.endWait
  else do
    let (ready, loop) ← state.loop.pollReady outbound published
    let state := { state with loop := loop }
    if ready then return state.endWait
    else if state.ready then return { state with ready := false }.endWait
    else if state.deadline ≤ now then return state.endWait
    else return state

/-- One round of the reading loop, on what the kernel holds. -/
def read (state : OnDevice stack regex) : OnDevice stack regex :=
  let (result, kernel) := match state.kernel with
    | [] => (none, [])
    | packet :: rest => (some packet.cut, rest)
  let (more, rxQueue) := TunDevice.pollRead state.loop.rxQueue result
  { state with
    loop := { state.loop with rxQueue := rxQueue }
    kernel := kernel
    control := if more then .draining else .ticking
    failed := false }

/-- The packets that left the front of a queue. -/
def taken (before after : List (List UInt8)) : List (List UInt8) :=
  before.take (before.length - after.length)

/-- The rest of `tick`, and the start of the next wait. -/
def finishTick (state : OnDevice stack regex) (input : TickInput) (now : Nat)
    (pollDelay : Option Nat) : Run (OnDevice stack regex) := do
  let loop ← state.loop.tick { input with packets := [] }
  return beginWait { state with
    loop := loop
    inspected := state.received ++ state.loop.rxQueue
    received := state.received ++ taken state.loop.rxQueue loop.rxQueue } now pollDelay

/-- What can happen, in any order. -/
inductive Act
  /-- The kernel queues a packet. -/
  | arrive (packet : Packet)
  /-- The runtime sees what the kernel has told. -/
  | notify
  /-- An accept task sends a connection. -/
  | accept (accepted : AcceptedConnection)
  /-- The parent sends the shutdown. -/
  | shutDown
  /-- The wait is polled. -/
  | pollWait (outbound : OutboundTcp.PollInput) (published : PublishedTcp.PollInput) (now : Nat)
  /-- The device is read. -/
  | read
  /-- A read fails although the device may hold packets. -/
  | readFails
  /-- The tick goes on. -/
  | tick (input : TickInput) (now : Nat) (pollDelay : Option Nat)

/-- What an act does; an act of the loop out of turn does nothing. -/
def step (state : OnDevice stack regex) : Act → Run (OnDevice stack regex)
  | .arrive packet => return { state with
      kernel := state.kernel ++ [packet], arrived := state.arrived ++ [packet], edge := true }
  | .notify => return { state with edge := false, ready := state.ready || state.edge }
  | .accept accepted => do
    let loop ← state.loop.step (.accept accepted)
    return { state with loop := loop }
  | .shutDown => return { state with shutdown := true }
  | .pollWait outbound published now =>
    if state.control = .waiting then state.pollWait outbound published now else return state
  | .read => if state.control = .draining then return state.read else return state
  | .readFails =>
    if state.control = .draining then return { state with control := .ticking, failed := true }
    else return state
  | .tick input now pollDelay =>
    if state.control = .ticking then state.finishTick input now pollDelay else return state

/-- Take acts in order. -/
def run (state : OnDevice stack regex) (acts : List Act) : Run (OnDevice stack regex) :=
  acts.foldlM step state

/-! ## The loop below -/

/-- A loop that has read packets in the tick that it begins. -/
def withRead (loop : EventLoop stack regex) (packets : List (List UInt8)) :
    EventLoop stack regex := { loop with rxQueue := loop.rxQueue ++ packets }

/-- Reading first and then going on is a tick with these packets. -/
theorem tick_withRead (loop : EventLoop stack regex) (packets : List (List UInt8))
    (input : TickInput) : (withRead loop packets).tick { input with packets := [] } =
      loop.tick { input with packets := packets } := by
  unfold EventLoop.tick EventLoop.observe withRead
  simp only [List.append_nil]
  rfl

/-- An accepted connection is queued whatever packets have been read. -/
theorem step_accept_withRead (loop : EventLoop stack regex) (packets : List (List UInt8))
    (accepted : AcceptedConnection) : ∃ next, loop.step (.accept accepted) = .ok next ∧
      (withRead loop packets).step (.accept accepted) = .ok (withRead next packets) :=
  ⟨_, rfl, rfl⟩

/-- A loop that some run of the event loop reaches, with packets read since. -/
def Reached (config : AppConfig regex) (interface : stack.Interface)
    (loop : EventLoop stack regex) (packets : List (List UInt8)) : Prop :=
  ∃ events before, (EventLoop.new config interface).run events = .ok before ∧
    loop = withRead before packets

variable {config : AppConfig regex} {interface : stack.Interface}

/-- One more event extends a run. -/
theorem run_snoc {loop before next : EventLoop stack regex} {events : List Event} {event : Event}
    (ran : loop.run events = .ok before) (stepped : before.step event = .ok next) :
    loop.run (events ++ [event]) = .ok next := by
  have split : loop.run (events ++ [event]) = loop.run events >>= fun middle =>
      middle.run [event] := List.foldlM_append ..
  rw [split, ran]
  show before.run [event] = .ok next
  rw [EventLoop.run, List.foldlM_cons, stepped]
  rfl

/-- No event makes a reachable loop panic. -/
theorem step_of_run {before : EventLoop stack regex} {events : List Event}
    (ran : (EventLoop.new config interface).run events = .ok before) (event : Event) :
    ∃ next, before.step event = .ok next := by
  obtain ⟨last, whole, -⟩ := run_owned config interface (events ++ [event])
  have split : (EventLoop.new config interface).run (events ++ [event]) =
      (EventLoop.new config interface).run events >>= fun middle =>
        middle.run [event] := List.foldlM_append ..
  rw [split, ran] at whole
  cases stepped : before.step event with
  | ok next => exact ⟨next, rfl⟩
  | error panic =>
    have single : before.run [event] = .ok last := whole
    rw [EventLoop.run, List.foldlM_cons, stepped] at single
    contradiction

/-- A poll of the stack leaves the back of the queue. -/
theorem pollInterface_isSuffix (receives : Receives stack) (loop : EventLoop stack regex)
    (now : Nat) : (loop.pollInterface now).rxQueue <:+ loop.rxQueue := by
  obtain ⟨count, left⟩ := receives.poll now loop.interface loop.rxQueue loop.sockets
  have parts := TunDevice.receiveMany_append count loop.rxQueue
  rw [← left] at parts
  exact ⟨_, parts⟩

/-- A tick leaves the back of the queue with the packets that it read. -/
theorem tick_isSuffix (receives : Receives stack) {loop next : EventLoop stack regex}
    {input : TickInput} (ticked : loop.tick input = .ok next) :
    next.rxQueue <:+ loop.rxQueue ++ input.packets := by
  unfold EventLoop.tick at ticked
  obtain ⟨observed, observe, ticked⟩ := Error.bind_eq_ok.mp ticked
  obtain ⟨served, serve, cleaned⟩ := Error.bind_eq_ok.mp ticked
  have queued : observed.rxQueue = loop.rxQueue ++ input.packets := by
    unfold EventLoop.observe at observe
    obtain ⟨_, -, same⟩ := Error.bind_eq_ok.mp observe
    rw [← Except.ok.inj same]
  have kept : served.rxQueue = (observed.pollInterface input.firstPoll).rxQueue := by
    unfold EventLoop.serve at serve
    obtain ⟨_, -, serve⟩ := Error.bind_eq_ok.mp serve
    obtain ⟨_, -, serve⟩ := Error.bind_eq_ok.mp serve
    obtain ⟨_, -, same⟩ := Error.bind_eq_ok.mp serve
    rw [← Except.ok.inj same]
  have left : next.rxQueue = (served.pollInterface input.secondPoll).rxQueue := by
    unfold EventLoop.cleanup at cleaned
    obtain ⟨_, -, cleaned⟩ := Error.bind_eq_ok.mp cleaned
    obtain ⟨_, -, same⟩ := Error.bind_eq_ok.mp cleaned
    rw [← Except.ok.inj same]
  have first := pollInterface_isSuffix receives observed input.firstPoll
  have second := pollInterface_isSuffix receives served input.secondPoll
  rw [← left, kept] at second
  rw [queued] at first
  exact second.trans first

/-- What was taken and what is left are the queue. -/
theorem taken_append {before after : List (List UInt8)} (back : after <:+ before) :
    taken before after ++ after = before := by
  obtain ⟨front, parts⟩ := back
  have count : before.length - after.length = front.length := by
    rw [← parts, List.length_append]
    omega
  rw [taken, count, ← parts, List.take_left]

/-! ## What every act keeps -/

/-- In every state: the loop is one that its events reach, with the packets read since the tick
began; no packet is lost, doubled or overtaken on the way to the stack, and none reaches it
uninspected; where the loop waits or is about to, a packet that the kernel holds has been told
of; and a wait is between one and a hundred milliseconds. -/
structure Served (config : AppConfig regex) (interface : stack.Interface)
    (state : OnDevice stack regex) : Prop where
  /-- The loop is reached by its events. -/
  reached : ∃ packets, Reached config interface state.loop packets ∧
    (state.control = .waiting → packets = [])
  /-- Every packet is in one place, in order. -/
  once : state.received ++ state.loop.rxQueue ++ state.kernel.map Packet.cut =
    state.arrived.map Packet.cut
  /-- Packets are inspected before they are received. -/
  inspected : state.received <+: state.inspected
  /-- A packet in the kernel has been told of. -/
  noticed : state.control = .waiting ∨ state.control = .ticking → state.kernel ≠ [] →
    state.edge = true ∨ state.ready = true ∨ state.failed = true
  /-- The wait is short. -/
  timed : state.control = .waiting → state.began + 1 ≤ state.deadline ∧
    state.deadline ≤ state.began + 100

variable {state : OnDevice stack regex}

/-- A wait lasts between one and a hundred milliseconds. -/
theorem waitTimeout_bounds (pollDelay : Option Nat) :
    1 ≤ waitTimeout pollDelay ∧ waitTimeout pollDelay ≤ 100 := by
  unfold waitTimeout
  omega

/-- A wait begins in a sound state. -/
theorem Served.beginWait {packets : List (List UInt8)} (now : Nat) (pollDelay : Option Nat)
    (reached : Reached config interface state.loop packets) (whole : packets = [])
    (once : state.received ++ state.loop.rxQueue ++ state.kernel.map Packet.cut =
      state.arrived.map Packet.cut) (inspected : state.received <+: state.inspected)
    (noticed : state.kernel ≠ [] → state.edge = true ∨ state.ready = true ∨ state.failed = true) :
    Served config interface (state.beginWait now pollDelay) := by
  have bounds := waitTimeout_bounds pollDelay
  unfold OnDevice.beginWait
  split_ifs
  · refine ⟨⟨packets, reached, fun _ => whole⟩, once, inspected, ?_, ?_⟩
    · rintro (stopped | stopped) <;> contradiction
    · intro stopped
      contradiction
  · refine ⟨⟨packets, reached, fun _ => whole⟩, once, inspected, fun _ => noticed, fun _ => ?_⟩
    simp only
    omega

/-- A loop that starts has served all that arrived: nothing did. -/
theorem Served.start (config : AppConfig regex) (interface : stack.Interface)
    (kernel : List Packet) (now : Nat) (pollDelay : Option Nat) :
    Served config interface (OnDevice.start config interface kernel now pollDelay) := by
  have initial : Reached config interface (EventLoop.new config interface) [] :=
    ⟨[], EventLoop.new config interface, rfl, rfl⟩
  apply Served.beginWait now pollDelay initial rfl rfl List.nil_prefix
  intro holds
  have told : (!kernel.isEmpty) = true := by simpa using holds
  exact Or.inl told

/-- A wait ends in a sound state, also where it has cleared the readiness: the reading loop is
next. -/
theorem Served.endWait (served : Served config interface state) (ready : Bool) :
    Served config interface { state with ready := ready }.endWait := by
  obtain ⟨packets, reached, -⟩ := served.reached
  have past : { state with ready := ready }.endWait.control ≠ .waiting ∧
      { state with ready := ready }.endWait.control ≠ .ticking := by
    unfold OnDevice.endWait
    split_ifs <;> simp
  refine ⟨⟨packets, reached, fun still => absurd still past.1⟩, served.once, served.inspected,
    ?_, fun still => absurd still past.1⟩
  rintro (still | still)
  · exact absurd still past.1
  · exact absurd still past.2

/-- A packet that arrives in the kernel keeps all of it served. -/
theorem Served.arrive (served : Served config interface state) (packet : Packet) :
    Served config interface { state with
      kernel := state.kernel ++ [packet], arrived := state.arrived ++ [packet], edge := true } := by
  refine ⟨served.reached, ?_, served.inspected, fun _ _ => Or.inl rfl, served.timed⟩
  simp only
  rw [List.map_append, List.map_append, ← List.append_assoc, served.once]

/-- The runtime may look at the device at any time. -/
theorem Served.notify (served : Served config interface state) :
    Served config interface { state with edge := false, ready := state.ready || state.edge } := by
  refine ⟨served.reached, served.once, served.inspected, ?_, served.timed⟩
  intro stands holds
  have told := served.noticed stands holds
  simp only [Bool.or_eq_true]
  tauto

/-- A published connection may be accepted at any time. -/
theorem Served.accept (served : Served config interface state) (accepted : AcceptedConnection) :
    ∃ loop, state.loop.step (.accept accepted) = .ok loop ∧
      Served config interface { state with loop := loop } := by
  obtain ⟨packets, ⟨events, before, ran, same⟩, whole⟩ := served.reached
  obtain ⟨next, stepped, along⟩ := step_accept_withRead before packets accepted
  have queue : next.rxQueue = before.rxQueue := by rw [← Except.ok.inj stepped]
  have kept : (withRead next packets).rxQueue = state.loop.rxQueue := by
    rw [same, withRead, withRead, queue]
  rw [← same] at along
  refine ⟨withRead next packets, along, ⟨packets, ⟨_, next, run_snoc ran stepped, rfl⟩, whole⟩,
    ?_, served.inspected, served.noticed, served.timed⟩
  simp only [kept]
  exact served.once

/-- A poll of the TCP components leaves the queue alone. -/
theorem pollReady_rxQueue {loop next : EventLoop stack regex} {outbound : OutboundTcp.PollInput}
    {published : PublishedTcp.PollInput} {ready : Bool}
    (polled : loop.pollReady outbound published = .ok (ready, next)) :
    next.rxQueue = loop.rxQueue := by
  unfold EventLoop.pollReady at polled
  obtain ⟨_, -, polled⟩ := Error.bind_eq_ok.mp polled
  obtain ⟨_, -, same⟩ := Error.bind_eq_ok.mp polled
  have pair := Except.ok.inj same
  rw [← (Prod.mk.inj pair).2]

/-- In a wait the TCP components are polled without a panic. -/
theorem Served.pollReady (served : Served config interface state)
    (waiting : state.control = .waiting) (outbound : OutboundTcp.PollInput)
    (published : PublishedTcp.PollInput) :
    ∃ ready loop, state.loop.pollReady outbound published = .ok (ready, loop) ∧
      Served config interface { state with loop := loop } := by
  obtain ⟨packets, ⟨events, before, ran, same⟩, whole⟩ := served.reached
  have plain : state.loop = before := by
    rw [same, whole waiting, withRead, List.append_nil]
  obtain ⟨next, stepped⟩ := step_of_run ran (.poll outbound published)
  have result := stepped
  rw [EventLoop.step, Error.bind_eq_ok] at result
  obtain ⟨⟨ready, loop⟩, polled, returned⟩ := result
  have equal : loop = next := Except.ok.inj returned
  have queue := pollReady_rxQueue polled
  refine ⟨ready, loop, by rw [plain, polled], ?_⟩
  have reached : Reached config interface loop [] := by
    refine ⟨_, next, run_snoc ran stepped, ?_⟩
    rw [equal, withRead, List.append_nil]
  refine ⟨⟨[], reached, fun _ => rfl⟩, ?_, served.inspected, served.noticed, served.timed⟩
  simp only [queue, ← plain]
  exact served.once

/-- A poll of the wait. -/
theorem Served.pollWait (served : Served config interface state)
    (waiting : state.control = .waiting) (outbound : OutboundTcp.PollInput)
    (published : PublishedTcp.PollInput) (now : Nat) :
    ∃ next, state.pollWait outbound published now = .ok next ∧ Served config interface next := by
  unfold OnDevice.pollWait
  by_cases shut : state.shutdown = true
  · rw [if_pos shut]
    exact ⟨_, rfl, served.endWait state.ready⟩
  · rw [if_neg shut]
    obtain ⟨ready, loop, polled, after⟩ := served.pollReady waiting outbound published
    rw [polled]
    simp only [bind, Except.bind]
    split_ifs
    · exact ⟨_, rfl, after.endWait state.ready⟩
    · exact ⟨_, rfl, after.endWait false⟩
    · exact ⟨_, rfl, after.endWait state.ready⟩
    · exact ⟨_, rfl, after⟩

/-- A round of the reading loop moves the first packet of the kernel to the queue, or ends it
with an empty kernel. -/
theorem Served.read (served : Served config interface state) :
    Served config interface state.read := by
  obtain ⟨packets, ⟨events, before, ran, same⟩, -⟩ := served.reached
  have once := served.once
  unfold OnDevice.read
  cases held : state.kernel with
  | nil =>
    rw [held] at once
    refine ⟨⟨packets, ⟨events, before, ran, same⟩, ?_⟩, once, served.inspected, ?_, ?_⟩
    · intro waiting
      contradiction
    · intro _ holds
      exact absurd rfl holds
    · intro waiting
      contradiction
  | cons packet rest =>
    rw [held, List.map_cons] at once
    simp only [TunDevice.pollRead_cut, if_true]
    refine ⟨⟨packets ++ [packet.cut], ⟨events, before, ran, ?_⟩, ?_⟩, ?_, served.inspected, ?_, ?_⟩
    · rw [same, withRead, withRead, List.append_assoc]
    · intro waiting
      contradiction
    · simp only
      rw [← once]
      simp only [List.append_assoc, List.cons_append, List.nil_append]
    · rintro (waiting | ticking) <;> contradiction
    · intro waiting
      contradiction

/-- A failed read ends the reading and loses no packet. -/
theorem Served.readFails (served : Served config interface state) :
    Served config interface { state with control := .ticking, failed := true } := by
  obtain ⟨packets, reached, -⟩ := served.reached
  refine ⟨⟨packets, reached, ?_⟩, served.once, served.inspected,
    fun _ _ => Or.inr (Or.inr rfl), ?_⟩
  · intro waiting
    contradiction
  · intro waiting
    contradiction

/-- A tick does not panic, and the stack receives from the front of the queue. -/
theorem Served.finishTick (receives : Receives stack) (served : Served config interface state)
    (ticking : state.control = .ticking) (input : TickInput) (now : Nat)
    (pollDelay : Option Nat) : ∃ next, state.finishTick input now pollDelay = .ok next ∧
      Served config interface next := by
  obtain ⟨packets, ⟨events, before, ran, same⟩, -⟩ := served.reached
  obtain ⟨loop, stepped⟩ := step_of_run ran (.tick { input with packets := packets })
  have ticked : state.loop.tick { input with packets := [] } = .ok loop := by
    rw [same, tick_withRead]
    exact stepped
  have back := tick_isSuffix receives ticked
  rw [List.append_nil] at back
  have parts := taken_append back
  unfold OnDevice.finishTick
  rw [ticked]
  refine ⟨_, rfl, ?_⟩
  have reached : Reached config interface loop [] := by
    refine ⟨_, loop, run_snoc ran stepped, ?_⟩
    rw [withRead, List.append_nil]
  apply Served.beginWait now pollDelay reached rfl
  · simp only
    rw [List.append_assoc state.received, parts]
    exact served.once
  · refine ⟨loop.rxQueue, ?_⟩
    simp only
    rw [List.append_assoc, parts]
  · exact served.noticed (Or.inr ticking)

/-- Every act goes through and keeps the state sound. -/
theorem Served.step (receives : Receives stack) (served : Served config interface state)
    (act : Act) : ∃ next, state.step act = .ok next ∧ Served config interface next := by
  cases act with
  | arrive packet => exact ⟨_, rfl, served.arrive packet⟩
  | notify => exact ⟨_, rfl, served.notify⟩
  | accept accepted =>
    obtain ⟨loop, stepped, after⟩ := served.accept accepted
    refine ⟨_, ?_, after⟩
    rw [OnDevice.step, stepped]
    rfl
  | shutDown => exact ⟨_, rfl, served.reached, served.once, served.inspected, served.noticed,
      served.timed⟩
  | pollWait outbound published now =>
    rw [OnDevice.step]
    split_ifs with waiting
    · exact served.pollWait waiting outbound published now
    · exact ⟨state, rfl, served⟩
  | read =>
    rw [OnDevice.step]
    split_ifs
    · exact ⟨_, rfl, served.read⟩
    · exact ⟨state, rfl, served⟩
  | readFails =>
    rw [OnDevice.step]
    split_ifs
    · exact ⟨_, rfl, served.readFails⟩
    · exact ⟨state, rfl, served⟩
  | tick input now pollDelay =>
    rw [OnDevice.step]
    split_ifs with ticking
    · exact served.finishTick receives ticking input now pollDelay
    · exact ⟨state, rfl, served⟩

/-! ## What the loop can go on to do -/

/-- A run makes its first act and then the others. -/
theorem run_cons {act : Act} {next : OnDevice stack regex} (stepped : state.step act = .ok next)
    (acts : List Act) : state.run (act :: acts) = next.run acts := by
  rw [run, List.foldlM_cons, stepped]
  rfl

/-- Reads in number of the packets and one more empty the kernel. -/
theorem run_reads (state : OnDevice stack regex) (draining : state.control = .draining) :
    ∃ next, state.run (List.replicate (state.kernel.length + 1) .read) = .ok next ∧
      next.control = .ticking ∧ next.kernel = [] ∧
      next.loop.rxQueue = state.loop.rxQueue ++ state.kernel.map Packet.cut := by
  have turn : state.step .read = .ok state.read := by
    rw [step, if_pos draining]
    rfl
  generalize count : state.kernel.length = number
  induction number generalizing state with
  | zero =>
    have empty := List.length_eq_zero_iff.mp count
    refine ⟨state.read, ?_, ?_, ?_, ?_⟩
    · exact run_cons turn []
    all_goals rw [read, empty]
    · rfl
    · exact (List.append_nil _).symm
  | succ number ih =>
    cases held : state.kernel with
    | nil =>
      rw [held] at count
      contradiction
    | cons packet rest =>
      have after : state.read = { state with
          loop := { state.loop with rxQueue := state.loop.rxQueue ++ [packet.cut] }
          kernel := rest
          control := .draining
          failed := false } := by
        rw [read, held]
        simp only [TunDevice.pollRead_cut, if_true]
      have fewer : state.read.kernel.length = number := by
        rw [held, List.length_cons] at count
        rw [after]
        exact Nat.succ.inj count
      have still : state.read.control = .draining := by rw [after]
      have again : state.read.step .read = .ok state.read.read := by
        rw [step, if_pos still]
        rfl
      obtain ⟨next, ran, ticking, empty, queue⟩ := ih state.read still again fewer
      refine ⟨next, ?_, ticking, empty, ?_⟩
      · rw [List.replicate_succ, run_cons turn]
        exact ran
      · rw [queue, after]
        simp only [List.map_cons, List.append_assoc, List.cons_append, List.nil_append]

/-- The readiness of the device or the timer ends a wait. -/
theorem pollWait_draining (served : Served config interface state)
    (waiting : state.control = .waiting) (serving : state.shutdown = false)
    (outbound : OutboundTcp.PollInput) (published : PublishedTcp.PollInput) {now : Nat}
    (due : state.ready = true ∨ state.deadline ≤ now) :
    ∃ next, state.pollWait outbound published now = .ok next ∧ next.control = .draining := by
  obtain ⟨ready, loop, polled, -⟩ := served.pollReady waiting outbound published
  have ends (state : OnDevice stack regex) (stays : state.shutdown = false) :
      state.endWait.control = .draining := by
    rw [OnDevice.endWait, stays]
    rfl
  unfold OnDevice.pollWait
  rw [serving, polled]
  simp only [bind, Except.bind, Bool.false_eq_true, if_false]
  split_ifs with early told late
  · exact ⟨_, rfl, ends _ rfl⟩
  · exact ⟨_, rfl, ends _ rfl⟩
  · exact ⟨_, rfl, ends _ rfl⟩
  · exact absurd due (not_or.mpr ⟨told, late⟩)

/-- Where the loop can go: a wait with a packet in the kernel ends once the runtime has looked,
any wait ends after a hundred milliseconds, and a reading loop takes all that the kernel holds. -/
structure Progresses (state : OnDevice stack regex) : Prop where
  /-- Packets end a wait. -/
  wakes : state.control = .waiting → state.shutdown = false → state.kernel ≠ [] →
    state.failed = false → ∀ outbound published now,
      ∃ next, state.run [.notify, .pollWait outbound published now] = .ok next ∧
        next.control = .draining
  /-- Time ends a wait. -/
  times : state.control = .waiting → state.shutdown = false →
    ∀ outbound published now, state.began + 100 ≤ now →
      ∃ next, state.run [.pollWait outbound published now] = .ok next ∧ next.control = .draining
  /-- The reading loop ends. -/
  drains : state.control = .draining →
    ∃ next, state.run (List.replicate (state.kernel.length + 1) .read) = .ok next ∧
      next.control = .ticking ∧ next.kernel = [] ∧
      next.loop.rxQueue = state.loop.rxQueue ++ state.kernel.map Packet.cut

/-- The loop can go on from every state that is served. -/
theorem Served.progresses (served : Served config interface state) : Progresses state where
  wakes := by
    intro waiting serving holds succeeded outbound published now
    have told := served.noticed (Or.inl waiting) holds
    have ready : (state.ready || state.edge) = true := by
      rw [succeeded] at told
      rw [Bool.or_eq_true]
      tauto
    have due : (state.ready || state.edge) = true ∨ state.deadline ≤ now := Or.inl ready
    obtain ⟨next, polled, draining⟩ := pollWait_draining served.notify waiting serving outbound
      published due
    have stepped : OnDevice.step { state with edge := false, ready := state.ready || state.edge }
        (.pollWait outbound published now) = .ok next := by
      rw [OnDevice.step, if_pos waiting]
      exact polled
    refine ⟨next, ?_, draining⟩
    rw [run_cons rfl, run_cons stepped]
    rfl
  times := by
    intro waiting serving outbound published now late
    have bound := (served.timed waiting).2
    have due : state.deadline ≤ now := by omega
    obtain ⟨next, polled, draining⟩ := pollWait_draining served waiting serving outbound published
      (Or.inr due)
    have stepped : state.step (.pollWait outbound published now) = .ok next := by
      rw [OnDevice.step, if_pos waiting]
      exact polled
    refine ⟨next, ?_, draining⟩
    rw [run_cons stepped]
    rfl
  drains := run_reads state

/-- Packets flow from the kernel through the loop to the stack, in every interleaving of their
arrival, the runtime, the accept tasks, the shutdown and the loop. -/
theorem packets_reach_stack (receives : Receives stack) (config : AppConfig regex)
    (interface : stack.Interface) (kernel : List Packet) (now : Nat) (pollDelay : Option Nat)
    (acts : List Act) :
    ∃ last, (start config interface kernel now pollDelay).run acts = .ok last ∧
      Served config interface last ∧ Progresses last := by
  have kept : ∀ act ∈ acts, ∀ state : OnDevice stack regex, Served config interface state →
      ∃ next, state.step act = .ok next ∧ Served config interface next := by
    intro act _ state served
    exact served.step receives act
  obtain ⟨last, ran, served⟩ := foldlM_all (Served config interface) kept
    (start config interface kernel now pollDelay) (.start config interface kernel now pollDelay)
  exact ⟨last, ran, served, served.progresses⟩

/-- A packet of one byte. -/
def bytePacket (byte : UInt8) : Packet := ⟨[byte], List.cons_ne_nil byte []⟩

/-- Two packets end the wait, and a third comes while they are read. -/
def threePackets : List Act :=
  [.arrive (bytePacket 1), .arrive (bytePacket 2), .notify,
    .pollWait ⟨fun _ => .pending, ascending, ascending⟩ ⟨true, ascending⟩ 0, .read,
    .arrive (bytePacket 3), .read, .read, .read,
    .tick ⟨[], fun _ => 0, fun _ => 0, [], 0, ⟨fun _ => 0, ascending, ascending, ascending⟩,
      ⟨fun _ => 0, ascending, ascending⟩, 0, ascending, ascending⟩ 0 none]

/-- The small stack receives all that is on the device. -/
theorem quiet_receives : Receives quietStack := by
  refine ⟨fun now interface device sockets => ⟨device.length, ?_⟩⟩
  show [] = (device.receiveMany device.length).2
  induction device with
  | nil => rfl
  | cons packet rest ih => exact ih

/-- The loop over the small stack. -/
def quietStart : OnDevice quietStack RuleMatcher.literalRegex :=
  start (.withoutRules _ .direct) () [] 0 none

/-- Three packets that arrive around a read and a wait all reach the stack in their order. -/
theorem packets_reach_stack_three :
    ∃ last, quietStart.run threePackets = .ok last ∧ last.received = [[1], [2], [3]] ∧
      @Served quietStack _ (.withoutRules _ .direct) () last ∧ Progresses last := by
  obtain ⟨last, ran, served, progresses⟩ := packets_reach_stack quiet_receives
    (.withoutRules RuleMatcher.literalRegex .direct) () [] 0 none threePackets
  have computed : (quietStart.run threePackets).toOption.map OnDevice.received =
      some [[1], [2], [3]] := by decide +kernel
  have same : quietStart.run threePackets = .ok last := ran
  rw [same] at computed
  exact ⟨last, ran, Option.some.inj computed, served, progresses⟩

end OnDevice

end NsProxy.EventLoop
