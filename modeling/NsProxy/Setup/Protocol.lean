import NsProxy.Lib.Conversation
import NsProxy.Setup.Programs

/-!
# The set-up protocol

Both programs keep to one conversation, so every byte is read by the read it is meant for and
the two never wait for each other. What each program must have done before it goes on gives
the rest: the command runs only after the parent is ready, and the child goes past the read of
the maps only after they were written.
-/

namespace NsProxy.Setup

open SocketPair System

/-- The order of the messages. -/
def conversation (needsMaps : Bool) : Conversation setup :=
  (.child, .unshareSignal) ::
    if needsMaps then
      [(.parent, .mapsDone), (.child, .tunFd), (.parent, .readySignal)]
    else [(.child, .tunFd), (.parent, .readySignal)]

/-- The signal after the unshare. -/
def unshareSignal (needsMaps : Bool) : Message :=
  ⟨if needsMaps then 1 else 0, none, .unshareSignal⟩

/-- A message for a purpose is sent. -/
def Sends (purpose : Purpose) (event : Event setup) : Prop :=
  ∃ message, event = .sent message ∧ message.purpose = purpose

/-- A message is read for a purpose. -/
def Reads (purpose : Purpose) (event : Event setup) : Prop :=
  ∃ message, event = .took purpose message

/-- A call is made. -/
def Does (op : Op) (event : Event setup) : Prop := ∃ result, event = .did op result

/-- The descriptor is read. -/
def ReceivesFd (event : Event setup) : Prop :=
  ∃ message fd, event = .took .tunFd message ∧ message.fd = some fd

/-- The command is run. -/
def Runs (event : Event setup) : Prop := ∃ command, Does (.runCommandTree command) event

variable {config : Config}

/-! ## The child -/

/-- The child, once its maps are there, sends the TUN descriptor and waits to be released. -/
theorem setUpChild_converses (config : Config) :
    Converses .child [(.child, Purpose.tunFd), (.parent, Purpose.readySignal)]
      (setUpChild config) := by
  unfold setUpChild sendFd readControlByte runCommand
  apply Converses.perform
  intro _
  apply Converses.perform
  intro fd
  apply Converses.perform
  intro _
  apply Converses.send
  apply Converses.receive
  intro message
  dsimp only
  split
  · exact .ret _
  · apply Converses.close
    apply Converses.perform
    intro _
    apply Converses.perform
    intro code
    exact .ret _

/-- The child keeps to the conversation from its first signal on. -/
theorem signalParent_converses (config : Config) (needsMaps : Bool) :
    Converses .child (conversation needsMaps) (signalParent config needsMaps) := by
  unfold signalParent writeControlByte readControlByte
  cases needsMaps with
  | false =>
    apply Converses.send
    exact setUpChild_converses config
  | true =>
    apply Converses.send
    apply Converses.receive
    intro message
    dsimp only
    split
    · exact .ret _
    · exact setUpChild_converses config

/-- The command is run only after the ready signal was read. -/
theorem setUpChild_requires (config : Config) :
    Requires (Reads .readySignal) Runs (setUpChild config) := by
  unfold setUpChild sendFd readControlByte
  apply Requires.perform (by simp [Runs, Does])
  intro _
  right
  apply Requires.perform (by simp [Runs, Does])
  intro fd
  right
  apply Requires.perform (by simp [Runs, Does])
  intro _
  right
  apply Requires.send (by simp [Runs, Does])
  right
  apply Requires.receive (by simp [Runs, Does])
  intro message
  exact .inl ⟨message, rfl⟩

/-- The child runs the command only after the parent has released it. -/
theorem signalParent_requires (config : Config) (needsMaps : Bool) :
    Requires (Reads .readySignal) Runs (signalParent config needsMaps) := by
  unfold signalParent writeControlByte readControlByte
  apply Requires.send (by simp [Runs, Does])
  right
  split
  · apply Requires.receive (by simp [Runs, Does])
    intro message
    right
    dsimp only
    split
    · exact .ret _
    · exact setUpChild_requires config
  · exact setUpChild_requires config

/-- When maps are needed, nothing is done after the signal unless their acknowledgement was
read. -/
theorem signalParent_waits (config : Config) :
    Requires (Reads .mapsDone)
      (fun event => event ≠ .sent (unshareSignal true) ∧ ¬ Reads .mapsDone event)
      (signalParent config true) := by
  apply Requires.send (by simp [unshareSignal])
  right
  apply Requires.receive (by simp [Reads])
  intro message
  exact .inl ⟨message, rfl⟩

/-- The namespace is created once. -/
theorem setUpChild_creates_none (config : Config) :
    Requires (fun _ => False) (Does .createNamespace) (setUpChild config) := by
  unfold setUpChild sendFd readControlByte runCommand
  apply Requires.perform (by simp [Does])
  intro _
  right
  apply Requires.perform (by simp [Does])
  intro fd
  right
  apply Requires.perform (by simp [Does])
  intro _
  right
  apply Requires.send (by simp [Does])
  right
  apply Requires.receive (by simp [Does])
  intro message
  right
  dsimp only
  split
  · exact .ret _
  · apply Requires.close (by simp [Does])
    right
    apply Requires.perform (by simp [Does])
    intro _
    right
    apply Requires.perform (by simp [Does])
    intro code
    exact .inr (.ret _)

/-- The child that has signalled its parent creates no namespace any more. -/
theorem signalParent_creates_none (config : Config) (needsMaps : Bool) :
    Requires (fun _ => False) (Does .createNamespace) (signalParent config needsMaps) := by
  unfold signalParent writeControlByte readControlByte
  apply Requires.send (by simp [Does])
  right
  split
  · apply Requires.receive (by simp [Does])
    intro message
    right
    dsimp only
    split
    · exact .ret _
    · exact setUpChild_creates_none config
  · exact setUpChild_creates_none config

/-! ## The parent -/

/-- Binding the published ports takes no part in the conversation. -/
theorem bindPublishSpecs_converses {side : Side} {rest : Conversation setup}
    {next : Program setup} (specs : List PublishSpec) (after : Converses side rest next) :
    Converses side rest (bindPublishSpecs specs next) := by
  induction specs with
  | nil => exact after
  | cons spec specs hyp =>
    apply Converses.perform
    intro _
    apply Converses.perform
    intro _
    exact hyp

/-- Registering the published ports takes no part in the conversation. -/
theorem registerPublishSpecs_converses {side : Side} {rest : Conversation setup}
    {next : Program setup} (specs : List PublishSpec) (after : Converses side rest next) :
    Converses side rest (registerPublishSpecs specs next) := by
  induction specs with
  | nil => exact after
  | cons spec specs hyp =>
    apply Converses.perform
    intro _
    exact hyp

/-- The parent releases the child as the last entry of the conversation. -/
theorem release_converses (fd : Fd) :
    Converses .parent [(.parent, Purpose.readySignal)] (release fd) := by
  unfold release writeControlByte
  apply Converses.perform
  intro _
  apply Converses.perform
  intro _
  apply Converses.perform
  intro _
  apply Converses.send
  apply Converses.perform
  intro code
  apply Converses.perform
  intro _
  apply Converses.close
  exact .ret _

/-- The parent takes the TUN descriptor and then releases the child. -/
theorem setUpParent_converses (config : Config) :
    Converses .parent [(.child, Purpose.tunFd), (.parent, Purpose.readySignal)]
      (setUpParent config) := by
  unfold setUpParent recvFd
  apply Converses.receive
  intro message
  split
  · apply bindPublishSpecs_converses
    apply Converses.perform
    intro _
    apply registerPublishSpecs_converses
    exact release_converses _
  · exact .ret _

/-- The parent keeps to the conversation that the signal of the child announces. -/
theorem answerChild_converses (config : Config) (needsMaps : Bool) :
    Converses .parent (conversation needsMaps).tail
      (answerChild config (unshareSignal needsMaps).byte) := by
  cases needsMaps with
  | false => exact setUpParent_converses config
  | true =>
    apply Converses.perform
    intro _
    apply Converses.send
    exact setUpParent_converses config

/-- The ready signal is sent only after every listener was bound. -/
theorem bindPublishSpecs_requires {needed : Event setup → Prop} {next : Program setup}
    (specs : List PublishSpec)
    (rest : (∃ spec ∈ specs, needed (.did (.bind spec) ())) ∨
      Requires needed (Sends .readySignal) next) :
    Requires needed (Sends .readySignal) (bindPublishSpecs specs next) := by
  induction specs with
  | nil => simpa [bindPublishSpecs] using rest
  | cons spec specs hyp =>
    apply Requires.perform (by simp [Sends])
    intro _
    by_cases now : needed (.did (.bind spec) ())
    · exact .inl now
    · right
      apply Requires.perform (by simp [Sends])
      intro _
      right
      apply hyp
      simpa [now] using rest

/-- What the release needs may come from the registration or from what follows it. -/
theorem registerPublishSpecs_requires {needed : Event setup → Prop} {next : Program setup}
    (specs : List PublishSpec)
    (rest : (∃ spec ∈ specs, needed (.did (.register spec) ())) ∨
      Requires needed (Sends .readySignal) next) :
    Requires needed (Sends .readySignal) (registerPublishSpecs specs next) := by
  induction specs with
  | nil => simpa [registerPublishSpecs] using rest
  | cons spec specs hyp =>
    apply Requires.perform (by simp [Sends])
    intro _
    by_cases now : needed (.did (.register spec) ())
    · exact .inl now
    · right
      apply hyp
      simpa [now] using rest

/-- The ready signal is sent only after the descriptor came. -/
theorem setUpParent_requires_fd (config : Config) :
    Requires ReceivesFd (Sends .readySignal) (setUpParent config) := by
  unfold setUpParent recvFd
  apply Requires.receive (by simp [Sends])
  intro message
  cases carried : message.fd with
  | some fd => exact .inl ⟨message, fd, rfl, carried⟩
  | none => exact .inr (.ret _)

/-- The ready signal is sent only after every published port was bound. -/
theorem setUpParent_requires_bind (config : Config) {spec : PublishSpec}
    (member : spec ∈ config.publishes) :
    Requires (Does (.bind spec)) (Sends .readySignal) (setUpParent config) := by
  unfold setUpParent recvFd
  apply Requires.receive (by simp [Sends])
  intro message
  right
  dsimp only
  split
  · exact bindPublishSpecs_requires _ (.inl ⟨spec, member, (), rfl⟩)
  · exact .ret _

/-- The ready signal is sent only after every published port was registered. -/
theorem setUpParent_requires_register (config : Config) {spec : PublishSpec}
    (member : spec ∈ config.publishes) :
    Requires (Does (.register spec)) (Sends .readySignal) (setUpParent config) := by
  unfold setUpParent recvFd
  apply Requires.receive (by simp [Sends])
  intro message
  right
  dsimp only
  split
  · apply bindPublishSpecs_requires
    right
    apply Requires.perform (by simp [Sends])
    intro _
    right
    exact registerPublishSpecs_requires _ (.inl ⟨spec, member, (), rfl⟩)
  · exact .ret _

/-- What the ready signal needs once the unshare signal was read is what it needs after it. -/
theorem answerChild_requires {needed : Event setup → Prop} {config : Config} (byte : UInt8)
    (rest : Requires needed (Sends .readySignal) (setUpParent config)) :
    Requires needed (Sends .readySignal) (answerChild config byte) := by
  unfold answerChild writeControlByte
  split
  · exact rest
  · split
    · apply Requires.perform (by simp [Sends])
      intro _
      right
      apply Requires.send (by simp [Sends])
      exact .inr rest
    · exact .ret _

/-- When maps are needed, the parent writes them before anything else. -/
theorem answerChild_writes_maps (config : Config) :
    Requires (Does .writeIdMaps) (fun event => ¬ Does .writeIdMaps event)
      (answerChild config (unshareSignal true).byte) := by
  apply Requires.perform (by simp [Does])
  intro _
  exact .inl ⟨(), rfl⟩

/-! ## The two together -/

/-- What both have done so far agrees on whether maps are needed. -/
structure Agrees (config : Config) (needsMaps : Bool) (system : System setup) : Prop where
  /-- Both keep to one conversation. -/
  keeps : ∀ side,
    KeepsTo side (conversation needsMaps) (own side system.history) (system.program side)
  /-- The child has done nothing, or it has created the namespace and gone on. -/
  child : own .child system.history = [] ∨ ∃ events last,
    own .child system.history = .did .createNamespace needsMaps :: events ∧
      Follows (signalParent config needsMaps) events last
  /-- The parent has done nothing, or it has read the signal of the child and gone on. -/
  parent : own .parent system.history = [] ∨ ∃ message events last,
    own .parent system.history = .took .unshareSignal message :: events ∧
      Follows (answerChild config (unshareSignal needsMaps).byte) events last

/-- The child begins with the creation of the namespace. -/
theorem childMain_follows {events : List (Event setup)} {last : Program setup}
    (follows : Follows (childMain config) events last) :
    (events = [] ∧ last = childMain config) ∨ ∃ needsMaps rest,
      events = .did .createNamespace needsMaps :: rest ∧
        Follows (signalParent config needsMaps) rest last := by
  unfold childMain at follows
  cases follows with
  | here => exact .inl ⟨rfl, rfl⟩
  | perform follows => exact .inr ⟨_, _, rfl, follows⟩

/-- The parent begins with the read of the signal. -/
theorem parentMain_follows {events : List (Event setup)} {last : Program setup}
    (follows : Follows (parentMain config) events last) :
    (events = [] ∧ last = parentMain config) ∨ ∃ message rest,
      events = .took .unshareSignal message :: rest ∧
        Follows (answerChild config message.byte) rest last := by
  unfold parentMain readControlByte at follows
  cases follows with
  | here => exact .inl ⟨rfl, rfl⟩
  | receive follows => exact .inr ⟨_, _, rfl, follows⟩

/-- The first message of the child tells whether maps are needed. -/
theorem signalParent_first {needsMaps : Bool} {events : List (Event setup)}
    {last : Program setup} (follows : Follows (signalParent config needsMaps) events last)
    {message : Message} {others : List Message} (sent : sentIn events = message :: others) :
    message = unshareSignal needsMaps := by
  unfold signalParent writeControlByte at follows
  cases follows with
  | here => simp [sentIn] at sent
  | send follows =>
    have both := List.cons.inj sent
    exact both.1.symm

/-- What a program keeps to, it keeps to also when it has stopped. -/
theorem keepsTo_of_standing {side : Side} {needsMaps : Bool} {events : List (Event setup)}
    {program rest : Program setup} (keeps : KeepsTo side (conversation needsMaps) events rest)
    (standing : program = rest ∨ ∃ causes, program = .ret (.error causes)) :
    KeepsTo side (conversation needsMaps) events program := by
  rcases standing with same | ⟨causes, stopped⟩
  · rwa [same]
  · rw [stopped]
    exact keeps.stopped _

/-- Before it has done anything the parent keeps to every conversation. -/
theorem parentMain_keepsTo (config : Config) (needsMaps : Bool) :
    KeepsTo .parent (conversation needsMaps) [] (parentMain config) :=
  Converses.receive_here

/-- The parent, once the child has created the namespace. -/
theorem parent_agrees (needsMaps : Bool) {events : List (Event setup)}
    {last program : Program setup} (follows : Follows (parentMain config) events last)
    (standing : program = last ∨ ∃ causes, program = .ret (.error causes))
    (first : ∀ read others, tookIn events = read :: others → read.2 = unshareSignal needsMaps) :
    KeepsTo .parent (conversation needsMaps) events program ∧
      (events = [] ∨ ∃ message rest last, events = .took .unshareSignal message :: rest ∧
        Follows (answerChild config (unshareSignal needsMaps).byte) rest last) := by
  rcases parentMain_follows follows with ⟨none, main⟩ | ⟨message, rest, parts, follows⟩
  · rw [main] at standing
    rw [none]
    exact ⟨keepsTo_of_standing (parentMain_keepsTo config needsMaps) standing, .inl rfl⟩
  · have read : message = unshareSignal needsMaps := by
      rw [parts] at first
      exact first _ _ rfl
    rw [read] at follows
    have keeps := (answerChild_converses config needsMaps _ _ follows).took
      Purpose.unshareSignal message
    rw [parts]
    exact ⟨keepsTo_of_standing keeps standing, .inr ⟨message, rest, last, rfl, follows⟩⟩

/-- In every state of every run the two agree. -/
theorem agrees_of_reaches {system : System setup}
    (run : Reaches (start (programs config)) system) :
    ∃ needsMaps, Agrees config needsMaps system := by
  obtain ⟨childRest, childFollows, childStands⟩ := run.onTrack .child
  obtain ⟨parentRest, parentFollows, parentStands⟩ := run.onTrack .parent
  have heard : (tookIn (own .parent system.history)).map Prod.snd ++ system.inbox .parent =
      sentIn (own .child system.history) := run.inOrder .parent
  rcases childMain_follows childFollows with ⟨none, main⟩ | ⟨needsMaps, events, parts, goes⟩
  · -- The child has sent nothing, so the parent has read nothing.
    refine ⟨false, ?_⟩
    have silent : tookIn (own .parent system.history) = [] := by
      rw [none] at heard
      simpa using (List.append_eq_nil_iff.mp heard).1
    obtain ⟨parentKeeps, parentBegins⟩ := parent_agrees false parentFollows parentStands
      (by simp [silent])
    refine ⟨?_, .inl none, parentBegins⟩
    rintro (_ | _)
    · have keeps : KeepsTo .child (conversation false) [] childRest := by
        rw [main]
        exact .of_not_readsNext (by simp [ReadsNext, childMain])
      rw [none]
      exact keepsTo_of_standing keeps childStands
    · exact parentKeeps
  · refine ⟨needsMaps, ?_⟩
    have first : ∀ read others, tookIn (own .parent system.history) = read :: others →
        read.2 = unshareSignal needsMaps := by
      intro read others took
      rw [took, parts] at heard
      exact signalParent_first goes heard.symm
    obtain ⟨parentKeeps, parentBegins⟩ :=
      parent_agrees needsMaps parentFollows parentStands first
    refine ⟨?_, .inr ⟨events, childRest, parts, goes⟩, parentBegins⟩
    rintro (_ | _)
    · rw [parts]
      have keeps := (signalParent_converses config needsMaps _ _ goes).did
        Op.createNamespace needsMaps
      exact keepsTo_of_standing keeps childStands
    · exact parentKeeps

/-! ## Safety -/

/-- Something of a kind was done by one side. -/
def Happened (side : Side) (kind : Event setup → Prop) (past : List (Side × Event setup)) : Prop :=
  ∃ event, (side, event) ∈ past ∧ kind event

/-- The parent is ready: it has the descriptor, every published port is bound and registered, and
the ready signal is sent. -/
structure Ready (config : Config) (past : List (Side × Event setup)) : Prop where
  /-- The descriptor was received. -/
  fd : Happened .parent ReceivesFd past
  /-- Every published port is bound. -/
  bound : ∀ spec ∈ config.publishes, Happened .parent (Does (.bind spec)) past
  /-- Every published port is registered. -/
  registered : ∀ spec ∈ config.publishes, Happened .parent (Does (.register spec)) past
  /-- The ready signal is sent. -/
  signalled : Happened .parent (Sends .readySignal) past

/-- What must have happened before an event. -/
structure Safe (config : Config) (past : List (Side × Event setup))
    (entry : Side × Event setup) : Prop where
  /-- The child runs the command only when the parent is ready. -/
  ready : entry.1 = .child → Runs entry.2 → Ready config past
  /-- When the child has created a user namespace, all it does before the parent has written the
  maps is to signal the parent. -/
  maps : entry.1 = .child → (.child, .did .createNamespace true) ∈ past →
    entry.2 ≠ .sent (unshareSignal true) → Happened .parent (Does .writeIdMaps) past
  /-- A byte is read by the read it is meant for, after it was sent. -/
  read : ∀ purpose message, entry.2 = .took purpose message →
    message.purpose = purpose ∧ (entry.1.other, .sent message) ∈ past

section Moment

/-! The last event of a run, with the two agreed. -/

variable {needsMaps : Bool} {system : System setup} {past : List (Side × Event setup)}

/-- What the other side has done was done before the last event. -/
theorem mem_past_of_mem_own {side : Side} {event other : Event setup}
    (last : system.history = past ++ [(side, event)])
    (done : other ∈ own side.other system.history) :
    (side.other, other) ∈ past := by
  rw [last, own_concat_other] at done
  exact mem_own.mp done

/-- A message that the child has read tells that the parent has sent one for the same purpose. -/
theorem Agrees.parent_sent (agrees : Agrees config needsMaps system) (inOrder : InOrder system)
    {purpose : Purpose} {events : List (Event setup)} {event : Event setup}
    (reads : Reads purpose event) (member : event ∈ events)
    (begins : own .child system.history = .did .createNamespace needsMaps :: events) :
    ∃ first rest last sent, own .parent system.history = .took .unshareSignal first :: rest ∧
      Follows (answerChild config (unshareSignal needsMaps).byte) rest last ∧
      .sent sent ∈ rest ∧ sent.purpose = purpose := by
  obtain ⟨message, took⟩ := reads
  have done : .took purpose message ∈ own .child system.history := by
    rw [begins, ← took]
    exact List.mem_cons_of_mem _ member
  have meant : message.purpose = purpose := read_as_meant inOrder (agrees.keeps .child).talk
    (agrees.keeps .parent).talk (purpose, message) (mem_tookIn.mpr done)
  have sent : .sent message ∈ own .parent system.history := inOrder.sent_of_took done
  rcases agrees.parent with none | ⟨first, rest, last, parts, follows⟩
  · rw [none] at sent
    contradiction
  · refine ⟨first, rest, last, message, parts, follows, ?_, meant⟩
    rw [parts] at sent
    exact (List.mem_cons.mp sent).resolve_left (by simp)

/-- When the child runs the command, the parent is ready. -/
theorem Agrees.ready (agrees : Agrees config needsMaps system) (inOrder : InOrder system)
    {event : Event setup} (last : system.history = past ++ [(.child, event)]) (runs : Runs event) :
    Ready config past := by
  have done : event ∈ own .child system.history := by simp [last, own_concat]
  rcases agrees.child with none | ⟨events, final, begins, follows⟩
  · rw [none] at done
    contradiction
  rw [begins] at done
  have inside : event ∈ events := by
    apply (List.mem_cons.mp done).resolve_left
    obtain ⟨command, code, same⟩ := runs
    rw [same]
    intro equal
    cases equal
  obtain ⟨read, member, reads⟩ :=
    signalParent_requires config needsMaps _ _ follows event inside runs
  obtain ⟨first, rest, goal, message, parts, goes, sent, meant⟩ :=
    agrees.parent_sent inOrder reads member begins
  have sends : Sends .readySignal (.sent message) := ⟨message, rfl, meant⟩
  have before : ∀ other ∈ rest, (.parent, other) ∈ past := by
    intro other inRest
    apply mem_past_of_mem_own last
    show other ∈ own .parent system.history
    rw [parts]
    exact List.mem_cons_of_mem _ inRest
  have needs : ∀ {needed : Event setup → Prop},
      Requires needed (Sends .readySignal) (setUpParent config) → Happened .parent needed past := by
    intro needed requires
    obtain ⟨other, inRest, kind⟩ := answerChild_requires _ requires rest goal goes _ sent sends
    exact ⟨other, before other inRest, kind⟩
  constructor
  · exact needs (setUpParent_requires_fd config)
  · exact fun spec published => needs (setUpParent_requires_bind config published)
  · exact fun spec published => needs (setUpParent_requires_register config published)
  · exact ⟨_, before _ sent, sends⟩

/-- When the child has created a user namespace, all it does before the maps are written is to
signal the parent. -/
theorem Agrees.maps_written (agrees : Agrees config needsMaps system) (inOrder : InOrder system)
    {event : Event setup} (last : system.history = past ++ [(.child, event)])
    (created : (.child, .did .createNamespace true) ∈ past)
    (other : event ≠ .sent (unshareSignal true)) : Happened .parent (Does .writeIdMaps) past := by
  have history : own .child system.history = own .child past ++ [event] := by rw [last, own_concat]
  have earlier : .did .createNamespace true ∈ own .child past := mem_own.mpr created
  rcases agrees.child with none | ⟨events, final, begins, follows⟩
  · rw [none] at history
    simp at history
  rw [begins] at history
  -- The child has done something before, so the last event is one of `signalParent`.
  obtain ⟨head, tail, pastParts⟩ := List.exists_cons_of_ne_nil (List.ne_nil_of_mem earlier)
  rw [pastParts, List.cons_append] at history
  have parts := List.cons.inj history
  have maps : needsMaps = true := by
    rw [pastParts] at earlier
    rcases List.mem_cons.mp earlier with first | later
    · rw [← first] at parts
      cases parts.1
      rfl
    · have inside : .did .createNamespace true ∈ events := by
        rw [parts.2]
        exact List.mem_append_left _ later
      obtain ⟨_, -, never⟩ := signalParent_creates_none config needsMaps _ _ follows _ inside
        ⟨_, rfl⟩
      exact never.elim
  subst maps
  have inside : event ∈ events := by simp [parts.2]
  have acknowledged : ∃ read ∈ events, Reads .mapsDone read := by
    by_cases reads : Reads .mapsDone event
    · exact ⟨event, inside, reads⟩
    · exact signalParent_waits config _ _ follows event inside ⟨other, reads⟩
  obtain ⟨read, member, reads⟩ := acknowledged
  obtain ⟨first, rest, goal, message, parentParts, goes, sent, -⟩ :=
    agrees.parent_sent inOrder reads member begins
  obtain ⟨written, inRest, writes⟩ := answerChild_writes_maps config rest goal goes _ sent
    (by simp [Does])
  refine ⟨written, mem_past_of_mem_own last ?_, writes⟩
  show written ∈ own .parent system.history
  rw [parentParts]
  exact List.mem_cons_of_mem _ inRest

/-- A byte is read by the read it is meant for. -/
theorem Agrees.read (agrees : Agrees config needsMaps system) (inOrder : InOrder system)
    {side : Side} {purpose : Purpose} {message : Message}
    (last : system.history = past ++ [(side, .took purpose message)]) :
    message.purpose = purpose ∧ (side.other, .sent message) ∈ past := by
  have done : .took purpose message ∈ own side system.history := by simp [last, own_concat]
  constructor
  · exact read_as_meant inOrder (agrees.keeps side).talk (agrees.keeps side.other).talk
      (purpose, message) (mem_tookIn.mpr done)
  · exact mem_past_of_mem_own last (inOrder.sent_of_took done)

end Moment

/-- Every event of every run comes after what it needs. -/
theorem always_safe {system : System setup} (run : Reaches (start (programs config)) system) :
    Always (Safe config) system.history := by
  refine Reaches.always run ?_
  intro middle past side event run last
  obtain ⟨needsMaps, agrees⟩ := agrees_of_reaches run
  constructor
  · intro child runs
    have childLast : middle.history = past ++ [(.child, event)] := child ▸ last
    exact agrees.ready run.inOrder childLast runs
  · intro child created other
    have childLast : middle.history = past ++ [(.child, event)] := child ▸ last
    exact agrees.maps_written run.inOrder childLast created other
  · intro purpose message took
    have tookLast : middle.history = past ++ [(side, .took purpose message)] := took ▸ last
    exact agrees.read run.inOrder tookLast

/-- Without the ready signal in the history, the command was not run. -/
theorem not_ran_of_not_ready {system : System setup}
    (run : Reaches (start (programs config)) system)
    (unready : ¬ Happened .parent (Sends .readySignal) system.history) :
    ¬ Happened .child Runs system.history := by
  rintro ⟨event, member, runs⟩
  obtain ⟨past, future, parts⟩ := List.append_of_mem member
  have safe := always_safe run past (.child, event) future parts
  obtain ⟨sent, before, sends⟩ := (safe.ready rfl runs).signalled
  apply unready
  refine ⟨sent, ?_, sends⟩
  rw [parts]
  exact List.mem_append_left _ before

/-- The set-up is safe in every state of every run, wherever either process fails: every event
comes after what it needs; a parent that has failed before the ready signal never lets the
command run; a read whose other end is closed finds a byte meant for it or ends with an error;
and the two never both wait for each other. -/
theorem setup_protocol_safe (config : Config) (system : System setup)
    (run : Reaches (start (programs config)) system) :
    Always (Safe config) system.history ∧
    (∀ causes, system.program .parent = .ret (.error causes) →
      ¬ Happened .parent (Sends .readySignal) system.history →
      ∀ later, Reaches system later → ¬ Happened .child Runs later.history) ∧
    (∀ side purpose eof context next,
      system.program side = .receive purpose eof context next →
      system.isOpen side.other = false →
      ((∃ message rest, system.inbox side = message :: rest ∧ Step system
          ((system.advance side (next message) (.took purpose message)).setInbox side rest)) ∨
        (system.inbox side = [] ∧ Step system (system.stop side eof))) ∧
      ∀ after, Step system after → after.program side ≠ system.program side →
        (∃ message rest, system.inbox side = message :: rest ∧ message.purpose = purpose ∧
          after.program side = next message) ∨
        ∃ causes, after.program side = .ret (.error causes)) ∧
    ¬ (system.AwaitsMessage .child ∧ system.AwaitsMessage .parent) := by
  obtain ⟨needsMaps, agrees⟩ := agrees_of_reaches run
  refine ⟨always_safe run, ?_, ?_, not_both_await run.inOrder agrees.keeps⟩
  · intro causes failed unready later continues
    apply not_ran_of_not_ready (run.trans continues)
    rintro ⟨event, member, sends⟩
    have same := (continues.returned failed).1
    apply unready
    refine ⟨event, ?_, sends⟩
    rw [← mem_own, ← same]
    exact mem_own.mpr member
  · intro side purpose eof context next stands gone
    constructor
    · cases waiting : system.inbox side with
      | nil => exact .inr ⟨rfl, .eof stands waiting gone⟩
      | cons message rest => exact .inl ⟨message, rest, rfl, .receive stands waiting⟩
    · intro after step moved
      rcases step.of_receive stands moved with ⟨message, rest, waiting, goes⟩ | failed
      · have reads := (agrees.keeps side).next purpose ⟨_, _, _, stands⟩
        have meant := waiting_as_meant run.inOrder reads (agrees.keeps side.other).talk waiting
        exact .inl ⟨message, rest, waiting, meant, goes⟩
      · exact .inr failed

/-- One command with one published port. -/
def onePort : Config :=
  ⟨[], [⟨.unspecified, 8080, 80⟩], ["true"]⟩

/-- Every call succeeds, a user namespace is created, and the command exits with 0. -/
def succeeds : (op : Op) → op.Result
  | .createNamespace => true
  | .createTun => (7 : Nat)
  | .runCommandTree _ => (0 : Int)
  | .serve _ => (0 : Int)
  | .bringupLoopback | .setupMountNamespace _ | .closeTun _ | .writeIdMaps | .bind _
  | .setNonblocking _ | .buildRuntime | .register _ | .listen _ => ()

/-- The turns of a set-up that succeeds: the child up to its first read, the parent up to the
next, and so on until the command has run. -/
def oneSetup : System setup :=
  (List.replicate 2 Side.child ++ List.replicate 3 Side.parent ++ List.replicate 5 Side.child ++
    List.replicate 9 Side.parent ++ List.replicate 4 Side.child).foldl (turn succeeds)
      (start (programs onePort))

/-- With one published port the command runs, and the run is safe. -/
theorem setup_protocol_safe_one_port :
    Reaches (start (programs onePort)) oneSetup ∧ Happened .child Runs oneSetup.history ∧
      Always (Safe onePort) oneSetup.history := by
  have run : Reaches (start (programs onePort)) oneSetup := by
    unfold oneSetup
    exact reaches_turns _ _ _
  refine ⟨run, ?_, (setup_protocol_safe onePort oneSetup run).1⟩
  have last : oneSetup.history.getLast? =
      some (.child, .did (.runCommandTree onePort.command) (0 : Int)) := rfl
  exact ⟨_, List.mem_of_getLast? last, onePort.command, _, rfl⟩

end NsProxy.Setup
