import Mathlib.Logic.Function.Basic
import Mathlib.Logic.Relation
import NsProxy.Lib.Anyhow
import NsProxy.Lib.History

/-!
# Two processes over a socket pair

Two programs run side by side and talk over a connected pair of sockets: what one side sends
waits in the inbox of the other, in order. A read takes the oldest message, fails when nothing
waits and the other end is closed, and stays where it is otherwise. Any call may fail, and
either process may be killed at any moment; both close its end.

Every run keeps two facts that name no program: the messages taken and those still waiting are
the messages sent, in order, and what a process has done so far determines what it does next.
-/

namespace NsProxy.SocketPair

/-- The two ends of the pair. -/
inductive Side
  | child
  | parent
  deriving DecidableEq, Repr

/-- The end that a side talks to. -/
def Side.other : Side → Side
  | child => parent
  | parent => child

/-- The other side of the other side is the side itself. -/
@[simp] theorem Side.other_other (side : Side) : side.other.other = side := by
  cases side <;> rfl

/-- Of two sides, one is the other one of the other. -/
theorem Side.eq_or_eq_other (side probe : Side) : probe = side ∨ probe = side.other := by
  cases side <;> cases probe <;> simp [Side.other]

/-- The two sides are distinct. -/
theorem Side.other_ne (side : Side) : side.other ≠ side := by
  cases side <;> simp [Side.other]

/-- What the programs of a system are made of. -/
structure Signature where
  /-- The calls that concern one process only. -/
  Op : Type
  /-- What a call returns when it succeeds. -/
  Result : Op → Type
  /-- What travels over the pair. -/
  Message : Type
  /-- What a read is made for. -/
  Purpose : Type
  /-- What a message is meant for. -/
  meant : Message → Purpose

/-- A program, with the context that it adds to the error of each call. -/
inductive Program (sig : Signature) : Type
  /-- The program has returned. -/
  | ret (result : Except Error Int)
  /-- A call that concerns this process only; without a context its failure is ignored. -/
  | perform (op : sig.Op) (context : Option Error) (next : sig.Result op → Program sig)
  /-- A message is sent. -/
  | send (message : sig.Message) (context : Error) (next : Program sig)
  /-- A message is read, with the error at the end of the stream. -/
  | receive (purpose : sig.Purpose) (eof : Error) (context : Error)
    (next : sig.Message → Program sig)
  /-- The own end is closed. -/
  | close (next : Program sig)

/-- What a process does. -/
inductive Event (sig : Signature) : Type
  | did (op : sig.Op) (result : sig.Result op)
  | sent (message : sig.Message)
  | took (purpose : sig.Purpose) (message : sig.Message)
  | closed

variable {sig : Signature}

/-- The messages sent, of a list of events. -/
def sentIn (events : List (Event sig)) : List sig.Message :=
  events.filterMap fun event =>
    match event with
    | .sent message => some message
    | _ => none

/-- The reads made, of a list of events. -/
def tookIn (events : List (Event sig)) : List (sig.Purpose × sig.Message) :=
  events.filterMap fun event =>
    match event with
    | .took purpose message => some (purpose, message)
    | _ => none

/-- Both processes and what lies between them. -/
structure System (sig : Signature) where
  /-- What is left of each program. -/
  program : Side → Program sig
  /-- The messages that wait for each side, oldest first. -/
  inbox : Side → List sig.Message
  /-- The ends that are not closed. -/
  isOpen : Side → Bool
  /-- Everything that was done, oldest first. -/
  history : List (Side × Event sig)

namespace System

/-- The processes before their first step. -/
def start (program : Side → Program sig) : System sig := ⟨program, fun _ => [], fun _ => true, []⟩

/-- What one side has done. -/
def own (side : Side) (history : List (Side × Event sig)) : List (Event sig) :=
  (history.filter fun entry => entry.1 = side).map Prod.snd

/-- One side goes on after an event. -/
def advance (system : System sig) (side : Side) (next : Program sig) (event : Event sig) :
    System sig :=
  { system with
    program := Function.update system.program side next
    history := system.history ++ [(side, event)] }

/-- What waits for one side is replaced. -/
def setInbox (system : System sig) (side : Side) (messages : List sig.Message) : System sig :=
  { system with inbox := Function.update system.inbox side messages }

/-- One end is closed. -/
def shut (system : System sig) (side : Side) : System sig :=
  { system with isOpen := Function.update system.isOpen side false }

/-- The process of one side ends with an error, and its end is closed. -/
def stop (system : System sig) (side : Side) (causes : Error) : System sig :=
  { system.shut side with
    program := Function.update system.program side (.ret (.error causes)) }

/-- One step of one process. -/
inductive Step : System sig → System sig → Prop
  /-- A call succeeds. -/
  | perform {system : System sig} {side : Side} {op : sig.Op} {context : Option Error}
    {next : sig.Result op → Program sig} (stands : system.program side = .perform op context next)
    (result : sig.Result op) : Step system (system.advance side (next result) (.did op result))
  /-- A message is sent to an open end. -/
  | send {system : System sig} {side : Side} {message : sig.Message} {context : Error}
    {next : Program sig} (stands : system.program side = .send message context next)
    (mine : system.isOpen side = true) (theirs : system.isOpen side.other = true) :
    Step system ((system.advance side next (.sent message)).setInbox side.other
      (system.inbox side.other ++ [message]))
  /-- The oldest message is read. -/
  | receive {system : System sig} {side : Side} {purpose : sig.Purpose} {eof : Error}
    {context : Error} {next : sig.Message → Program sig} {message : sig.Message}
    {rest : List sig.Message} (stands : system.program side = .receive purpose eof context next)
    (waiting : system.inbox side = message :: rest) :
    Step system ((system.advance side (next message) (.took purpose message)).setInbox side rest)
  /-- Nothing waits and nothing will. -/
  | eof {system : System sig} {side : Side} {purpose : sig.Purpose} {eof : Error}
    {context : Error} {next : sig.Message → Program sig}
    (stands : system.program side = .receive purpose eof context next)
    (empty : system.inbox side = []) (gone : system.isOpen side.other = false) :
    Step system (system.stop side eof)
  /-- The own end is closed. -/
  | close {system : System sig} {side : Side} {next : Program sig}
    (stands : system.program side = .close next) :
    Step system ((system.advance side next .closed).shut side)
  /-- A call of one's own fails. -/
  | performFails {system : System sig} {side : Side} {op : sig.Op} {context : Error}
    {next : sig.Result op → Program sig}
    (stands : system.program side = .perform op (some context) next)
    (causes : Error) : Step system (system.stop side (context ++ causes))
  /-- A message cannot be sent. -/
  | sendFails {system : System sig} {side : Side} {message : sig.Message} {context : Error}
    {next : Program sig} (stands : system.program side = .send message context next)
    (causes : Error) : Step system (system.stop side (context ++ causes))
  /-- A read fails. -/
  | receiveFails {system : System sig} {side : Side} {purpose : sig.Purpose} {eof : Error}
    {context : Error} {next : sig.Message → Program sig}
    (stands : system.program side = .receive purpose eof context next) (causes : Error) :
    Step system (system.stop side (context ++ causes))
  /-- A process that has returned exits. -/
  | exit {system : System sig} {side : Side} {result : Except Error Int}
    (stands : system.program side = .ret result) : Step system (system.shut side)
  /-- A process is killed. -/
  | killed {system : System sig} (side : Side) : Step system (system.stop side [])

/-- Any number of steps. -/
abbrev Reaches (start finish : System sig) : Prop := Relation.ReflTransGen Step start finish

/-- One side is at a read for which nothing has arrived. -/
def AwaitsMessage (system : System sig) (side : Side) : Prop :=
  ∃ purpose eof context next,
    system.program side = .receive purpose eof context next ∧ system.inbox side = []

/-! ## Histories of one side -/

/-- No events send no messages. -/
@[simp] theorem sentIn_nil : sentIn ([] : List (Event sig)) = [] := rfl

/-- No events take no messages. -/
@[simp] theorem tookIn_nil : tookIn ([] : List (Event sig)) = [] := rfl

/-- The messages sent in two histories are those of the first and then those of the second. -/
theorem sentIn_append (left right : List (Event sig)) :
    sentIn (left ++ right) = sentIn left ++ sentIn right :=
  List.filterMap_append

/-- The messages taken in two histories are those of the first and then those of the second. -/
theorem tookIn_append (left right : List (Event sig)) :
    tookIn (left ++ right) = tookIn left ++ tookIn right :=
  List.filterMap_append

/-- A message was sent exactly where its event is in the history. -/
theorem mem_sentIn {message : sig.Message} {events : List (Event sig)} :
    message ∈ sentIn events ↔ .sent message ∈ events := by
  unfold sentIn
  rw [List.mem_filterMap]
  constructor
  · rintro ⟨event, member, kind⟩
    cases event with
    | sent other =>
      have same : other = message := by simpa using kind
      rwa [← same]
    | _ => simp at kind
  · intro member
    exact ⟨.sent message, member, rfl⟩

/-- A message was taken exactly where its event is in the history. -/
theorem mem_tookIn {purpose : sig.Purpose} {message : sig.Message} {events : List (Event sig)} :
    (purpose, message) ∈ tookIn events ↔ .took purpose message ∈ events := by
  unfold tookIn
  rw [List.mem_filterMap]
  constructor
  · rintro ⟨event, member, kind⟩
    cases event with
    | took other found =>
      have same : other = purpose ∧ found = message := by simpa using kind
      rwa [← same.1, ← same.2]
    | _ => simp at kind
  · intro member
    exact ⟨.took purpose message, member, rfl⟩

/-- Another event of a side comes last in what that side has done. -/
theorem own_concat (side : Side) (history : List (Side × Event sig)) (event : Event sig) :
    own side (history ++ [(side, event)]) = own side history ++ [event] := by
  simp [own]

/-- An event of the one side is none of the other. -/
theorem own_concat_other (side : Side) (history : List (Side × Event sig)) (event : Event sig) :
    own side.other (history ++ [(side, event)]) = own side.other history := by
  simp [own, (Side.other_ne side).symm]

/-- What a side has done stands in the history under that side. -/
theorem mem_own {side : Side} {event : Event sig} {history : List (Side × Event sig)} :
    event ∈ own side history ↔ (side, event) ∈ history := by
  simp [own]

end System

/-! ## What a program does -/

/-- A program, some events that it begins with, and what is left of it after them. -/
inductive Follows : Program sig → List (Event sig) → Program sig → Prop
  | here (program : Program sig) : Follows program [] program
  | perform {op : sig.Op} {context : Option Error} {next : sig.Result op → Program sig}
    {result : sig.Result op} {events : List (Event sig)} {last : Program sig}
    (rest : Follows (next result) events last) :
    Follows (.perform op context next) (.did op result :: events) last
  | send {message : sig.Message} {context : Error} {next : Program sig}
    {events : List (Event sig)} {last : Program sig} (rest : Follows next events last) :
    Follows (.send message context next) (.sent message :: events) last
  | receive {purpose : sig.Purpose} {eof context : Error} {next : sig.Message → Program sig}
    {message : sig.Message} {events : List (Event sig)} {last : Program sig}
    (rest : Follows (next message) events last) :
    Follows (.receive purpose eof context next) (.took purpose message :: events) last
  | close {next : Program sig} {events : List (Event sig)} {last : Program sig}
    (rest : Follows next events last) : Follows (.close next) (.closed :: events) last

namespace Follows

variable {program middle last : Program sig} {first second : List (Event sig)}

/-- What a program begins with is put together from its stretches. -/
theorem append (begins : Follows program first middle) (ends : Follows middle second last) :
    Follows program (first ++ second) last := by
  induction begins with
  | here => exact ends
  | perform _ hyp => exact .perform (hyp ends)
  | send _ hyp => exact .send (hyp ends)
  | receive _ hyp => exact .receive (hyp ends)
  | close _ hyp => exact .close (hyp ends)

/-- A returned program does nothing more. -/
theorem of_ret {result : Except Error Int} {events : List (Event sig)}
    (follows : Follows (.ret result) events last) : events = [] ∧ last = .ret result := by
  cases follows
  exact ⟨rfl, rfl⟩

end Follows

namespace System

variable {system next finish : System sig} {side : Side}

/-! ## What a step does -/

/-- A step adds one event of one side, that its program allows, or it adds none and at most ends
the program of one side. -/
theorem Step.cases (step : Step system next) :
    (∃ side event program, Follows (system.program side) [event] program ∧
      next.program = Function.update system.program side program ∧
      next.history = system.history ++ [(side, event)]) ∨
    (∃ side, next.history = system.history ∧
      (next.program = system.program ∨ ∃ causes,
        next.program = Function.update system.program side (.ret (.error causes)))) := by
  cases step with
  | @perform side op context rest stands result =>
    exact .inl ⟨side, .did op result, _, stands ▸ .perform (.here _), rfl, rfl⟩
  | @send side message context rest stands =>
    exact .inl ⟨side, .sent message, _, stands ▸ .send (.here _), rfl, rfl⟩
  | @receive side purpose eof context rest message others stands =>
    exact .inl ⟨side, .took purpose message, _, stands ▸ .receive (.here _), rfl, rfl⟩
  | @close side rest stands =>
    exact .inl ⟨side, .closed, _, stands ▸ .close (.here _), rfl, rfl⟩
  | @exit side => exact .inr ⟨side, rfl, .inl rfl⟩
  | @eof side => exact .inr ⟨side, rfl, .inr ⟨_, rfl⟩⟩
  | @performFails side => exact .inr ⟨side, rfl, .inr ⟨_, rfl⟩⟩
  | @sendFails side => exact .inr ⟨side, rfl, .inr ⟨_, rfl⟩⟩
  | @receiveFails side => exact .inr ⟨side, rfl, .inr ⟨_, rfl⟩⟩
  | killed side => exact .inr ⟨side, rfl, .inr ⟨_, rfl⟩⟩

/-- A read ends with the oldest message that waits or with an error. -/
theorem Step.of_receive (step : Step system next) {purpose : sig.Purpose} {eof context : Error}
    {rest : sig.Message → Program sig}
    (stands : system.program side = .receive purpose eof context rest)
    (moved : next.program side ≠ system.program side) :
    (∃ message others, system.inbox side = message :: others ∧
      next.program side = rest message) ∨ ∃ causes, next.program side = .ret (.error causes) := by
  have mover : ∀ {mover : Side} {program : Program sig},
      next.program = Function.update system.program mover program → mover = side := by
    intro mover program programs
    by_contra other
    rw [programs, Function.update_of_ne (Ne.symm other)] at moved
    exact moved rfl
  have stopped : ∀ {other : Side} {causes : Error},
      next.program = Function.update system.program other (.ret (.error causes)) →
        ∃ causes, next.program side = .ret (.error causes) := by
    intro other causes programs
    rw [programs, mover programs, Function.update_self]
    exact ⟨causes, rfl⟩
  cases step with
  | @receive other _ _ _ _ message others reads waiting =>
    have same : other = side := mover rfl
    rw [same] at reads waiting ⊢
    rw [stands] at reads
    cases reads
    exact .inl ⟨message, others, waiting, Function.update_self ..⟩
  | @perform other _ _ _ reads =>
    have same : other = side := mover rfl
    rw [same, stands] at reads
    contradiction
  | @send other _ _ _ reads =>
    have same : other = side := mover rfl
    rw [same, stands] at reads
    contradiction
  | @close other _ reads =>
    have same : other = side := mover rfl
    rw [same, stands] at reads
    contradiction
  | exit => exact absurd rfl moved
  | eof => exact .inr (stopped rfl)
  | performFails => exact .inr (stopped rfl)
  | sendFails => exact .inr (stopped rfl)
  | receiveFails => exact .inr (stopped rfl)
  | killed other => exact .inr (stopped rfl)

/-! ## Messages arrive in order -/

/-- What a side has read and what waits for it are what the other side has sent, in order. -/
def InOrder (system : System sig) : Prop :=
  ∀ side, (tookIn (own side system.history)).map Prod.snd ++ system.inbox side =
    sentIn (own side.other system.history)

/-- Nothing has been sent at the start. -/
theorem inOrder_start (program : Side → Program sig) : InOrder (start program) := fun _ => rfl

/-- An event that neither sends nor reads leaves the order. -/
theorem InOrder.advance (inOrder : InOrder system) {side : Side} {program : Program sig}
    {event : Event sig} (quiet : sentIn [event] = [] ∧ tookIn [event] = []) :
    InOrder (system.advance side program event) := by
  intro probe
  show (tookIn (own probe (system.history ++ [(side, event)]))).map Prod.snd ++
    system.inbox probe = sentIn (own probe.other (system.history ++ [(side, event)]))
  rcases Side.eq_or_eq_other side probe with same | other
  · rw [same, own_concat, own_concat_other, tookIn_append, quiet.2, List.append_nil]
    exact inOrder side
  · rw [other, Side.other_other, own_concat, own_concat_other, sentIn_append, quiet.1,
      List.append_nil]
    have before := inOrder side.other
    rwa [Side.other_other] at before

/-- A message sent comes last in what waits. -/
theorem InOrder.send (inOrder : InOrder system) (side : Side) (program : Program sig)
    (message : sig.Message) :
    InOrder ((system.advance side program (.sent message)).setInbox side.other
      (system.inbox side.other ++ [message])) := by
  intro probe
  show (tookIn (own probe (system.history ++ [(side, _)]))).map Prod.snd ++
    Function.update system.inbox side.other (system.inbox side.other ++ [message]) probe =
      sentIn (own probe.other (system.history ++ [(side, _)]))
  rcases Side.eq_or_eq_other side probe with same | other
  · rw [same, own_concat, own_concat_other, tookIn_append,
      Function.update_of_ne (Side.other_ne side).symm]
    simpa [tookIn] using inOrder side
  · rw [other, Side.other_other, own_concat, own_concat_other, sentIn_append,
      Function.update_self, ← List.append_assoc, inOrder side.other, Side.other_other]
    rfl

/-- The message read was the first of those that waited. -/
theorem InOrder.receive (inOrder : InOrder system) {side : Side} (program : Program sig)
    (purpose : sig.Purpose) {message : sig.Message} {rest : List sig.Message}
    (waiting : system.inbox side = message :: rest) :
    InOrder ((system.advance side program (.took purpose message)).setInbox side rest) := by
  intro probe
  show (tookIn (own probe (system.history ++ [(side, _)]))).map Prod.snd ++
    Function.update system.inbox side rest probe =
      sentIn (own probe.other (system.history ++ [(side, _)]))
  rcases Side.eq_or_eq_other side probe with same | other
  · have before := inOrder side
    rw [waiting] at before
    rw [same, own_concat, own_concat_other, tookIn_append, Function.update_self, ← before]
    simp [tookIn]
  · have before := inOrder side.other
    rw [Side.other_other] at before
    rw [other, Side.other_other, own_concat, own_concat_other, sentIn_append,
      Function.update_of_ne (Side.other_ne side)]
    simpa [sentIn] using before

/-- A message that was read was sent by the other side. -/
theorem InOrder.sent_of_took (inOrder : InOrder system) {side : Side} {purpose : sig.Purpose}
    {message : sig.Message} (took : .took purpose message ∈ own side system.history) :
    .sent message ∈ own side.other system.history := by
  apply mem_sentIn.mp
  rw [← inOrder side]
  apply List.mem_append_left
  exact List.mem_map.mpr ⟨(purpose, message), mem_tookIn.mpr took, rfl⟩

/-- A step of either side keeps the messages in their order. -/
theorem InOrder.step (inOrder : InOrder system) (step : Step system next) : InOrder next := by
  cases step with
  | perform stands result => exact inOrder.advance ⟨rfl, rfl⟩
  | send stands => exact inOrder.send _ _ _
  | receive stands waiting => exact inOrder.receive _ _ waiting
  | @close side rest stands =>
    have advanced : InOrder (system.advance side rest .closed) := inOrder.advance ⟨rfl, rfl⟩
    exact advanced
  | _ => exact inOrder

/-! ## What a side has done determines what it does next -/

/-- Each side has done what its program begins with, and goes on with the rest of it or has
stopped with an error. -/
def OnTrack (program : Side → Program sig) (system : System sig) : Prop :=
  ∀ side, ∃ rest, Follows (program side) (own side system.history) rest ∧
    (system.program side = rest ∨ ∃ causes, system.program side = .ret (.error causes))

/-- At the start each side has its whole program before it. -/
theorem onTrack_start (program : Side → Program sig) : OnTrack program (start program) :=
  fun side => ⟨program side, .here _, .inl rfl⟩

/-- A step of either side keeps both on their programs. -/
theorem OnTrack.step {program : Side → Program sig} (onTrack : OnTrack program system)
    (step : Step system next) : OnTrack program next := by
  intro probe
  obtain ⟨rest, before, standing⟩ := onTrack probe
  rcases step.cases with ⟨side, event, after, follows, programs, histories⟩ |
    ⟨side, histories, same | ⟨causes, stopped⟩⟩
  · rw [programs, histories]
    rcases Side.eq_or_eq_other side probe with mine | theirs
    · rw [mine] at before standing ⊢
      rw [own_concat, Function.update_self]
      rcases standing with going | ⟨causes, stopped⟩
      · rw [going] at follows
        exact ⟨after, before.append follows, .inl rfl⟩
      · rw [stopped] at follows
        have none := follows.of_ret.1
        contradiction
    · rw [theirs] at before standing ⊢
      rw [own_concat_other, Function.update_of_ne (Side.other_ne side)]
      exact ⟨rest, before, standing⟩
  · rw [same, histories]
    exact ⟨rest, before, standing⟩
  · rw [stopped, histories]
    rcases Side.eq_or_eq_other side probe with mine | theirs
    · rw [mine] at before ⊢
      rw [Function.update_self]
      exact ⟨rest, before, .inr ⟨causes, rfl⟩⟩
    · rw [theirs] at before standing ⊢
      rw [Function.update_of_ne (Side.other_ne side)]
      exact ⟨rest, before, standing⟩

/-! ## Runs -/

variable {program : Side → Program sig}

/-- The messages are in their order in every state that is reached. -/
theorem Reaches.inOrder (run : Reaches (start program) finish) : InOrder finish := by
  induction run with
  | refl => exact inOrder_start program
  | tail _ step hyp => exact hyp.step step

/-- Both sides are on their programs in every state that is reached. -/
theorem Reaches.onTrack (run : Reaches (start program) finish) : OnTrack program finish := by
  induction run with
  | refl => exact onTrack_start program
  | tail _ step hyp => exact hyp.step step

/-- To show a property of every event of a run, show it at the moment the event happens. -/
theorem Reaches.always {property : List (Side × Event sig) → Side × Event sig → Prop}
    (run : Reaches (start program) finish)
    (each : ∀ system past side event, Reaches (start program) system →
      system.history = past ++ [(side, event)] → property past (side, event)) :
    Always property finish.history := by
  induction run with
  | refl => exact always_nil property
  | @tail system next run step hyp =>
    rcases step.cases with ⟨side, event, after, -, -, histories⟩ | ⟨side, histories, -⟩
    · rw [histories, always_append_singleton]
      exact ⟨hyp, each next _ _ _ (run.tail step) histories⟩
    · rw [histories]
      exact hyp

/-- One side takes its next step, if it has one that does not fail. -/
def turn (results : ∀ op, sig.Result op) (system : System sig) (side : Side) : System sig :=
  match system.program side with
  | .ret _ => system
  | .perform op _ next => system.advance side (next (results op)) (.did op (results op))
  | .send message _ next =>
    if system.isOpen side ∧ system.isOpen side.other then
      (system.advance side next (.sent message)).setInbox side.other
        (system.inbox side.other ++ [message])
    else system
  | .receive purpose _ _ next =>
    match system.inbox side with
    | [] => system
    | message :: rest =>
      (system.advance side (next message) (.took purpose message)).setInbox side rest
  | .close next => (system.advance side next .closed).shut side

/-- A turn of one side is a step or none. -/
theorem reaches_turn (results : ∀ op, sig.Result op) (system : System sig) (side : Side) :
    Reaches system (turn results system side) := by
  unfold turn
  cases stands : system.program side with
  | ret result => exact .refl
  | perform op context next => exact .single (.perform stands (results op))
  | send message context next =>
    dsimp only
    split
    · rename_i both
      exact .single (.send stands both.1 both.2)
    · exact .refl
  | receive purpose eof context next =>
    cases waiting : system.inbox side with
    | nil => exact .refl
    | cons message rest => exact .single (.receive stands waiting)
  | close next => exact .single (.close stands)

/-- Turns taken in some order are a run. -/
theorem reaches_turns (results : ∀ op, sig.Result op) (sides : List Side) (system : System sig) :
    Reaches system (sides.foldl (turn results) system) := by
  induction sides generalizing system with
  | nil => exact .refl
  | cons side sides hyp => exact (reaches_turn results system side).trans (hyp _)

/-- A side that has returned does nothing more. -/
theorem Reaches.returned (run : Reaches system finish) {result : Except Error Int}
    (returned : system.program side = .ret result) :
    own side finish.history = own side system.history ∧
      ∃ last, finish.program side = .ret last := by
  induction run with
  | refl => exact ⟨rfl, result, returned⟩
  | @tail middle last run step hyp =>
    obtain ⟨histories, final, stands⟩ := hyp
    rw [← histories]
    rcases step.cases with ⟨mover, event, after, follows, programs, longer⟩ |
      ⟨mover, unchanged, same | ⟨causes, stopped⟩⟩
    · rcases Side.eq_or_eq_other mover side with mine | theirs
      · rw [← mine, stands] at follows
        have none := follows.of_ret.1
        contradiction
      · rw [theirs] at stands ⊢
        rw [longer, programs, own_concat_other, Function.update_of_ne (Side.other_ne mover)]
        exact ⟨rfl, final, stands⟩
    · rw [unchanged, same]
      exact ⟨rfl, final, stands⟩
    · rw [unchanged, stopped]
      rcases Side.eq_or_eq_other mover side with mine | theirs
      · rw [mine, Function.update_self]
        exact ⟨rfl, .error causes, rfl⟩
      · rw [theirs] at stands ⊢
        rw [Function.update_of_ne (Side.other_ne mover)]
        exact ⟨rfl, final, stands⟩

end System

end NsProxy.SocketPair
