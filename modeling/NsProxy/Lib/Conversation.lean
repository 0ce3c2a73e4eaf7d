import Mathlib.Data.List.Infix
import NsProxy.Lib.SocketPair

/-!
# Conversations over a socket pair

A conversation is the order in which messages are meant to be exchanged: who sends, and what
for. Two programs that both keep to one conversation read each message where it is meant to be
read and never wait for each other at the same time, whatever else they do in between and
wherever one of them stops.

The rules for one program follow its constructors, so a program is checked against its
conversation by reading it. `Requires` does the same for what must be done before what.
-/

namespace NsProxy.SocketPair

variable {sig : Signature}

/-- Who sends, and what for. -/
abbrev Conversation (sig : Signature) : Type := List (Side × sig.Purpose)

/-- The messages that one side has sent and read, in order. -/
def talkIn (side : Side) (events : List (Event sig)) : Conversation sig :=
  events.filterMap fun event =>
    match event with
    | .sent message => some (side, sig.meant message)
    | .took purpose _ => some (side.other, purpose)
    | _ => none

/-- What one side sends in a conversation. -/
def sendsOf (side : Side) (conversation : Conversation sig) : List sig.Purpose :=
  (conversation.filter fun entry => entry.1 = side).map Prod.snd

/-- A program that stands at a read. -/
def ReadsNext (program : Program sig) (purpose : sig.Purpose) : Prop :=
  ∃ eof context next, program = .receive purpose eof context next

/-- One side has kept to a conversation, and so will its next read. -/
structure KeepsTo (side : Side) (conversation : Conversation sig) (events : List (Event sig))
    (program : Program sig) : Prop where
  /-- The conversation began with what was sent and read. -/
  talk : talkIn side events <+: conversation
  /-- The next read is the next entry. -/
  next : ∀ purpose, ReadsNext program purpose →
    talkIn side events ++ [(side.other, purpose)] <+: conversation

/-- A program that keeps to a conversation wherever it stops. -/
def Converses (side : Side) (conversation : Conversation sig) (program : Program sig) : Prop :=
  ∀ events last, Follows program events last → KeepsTo side conversation events last

/-! ## Rules -/

namespace KeepsTo

variable {side : Side} {conversation : Conversation sig} {events : List (Event sig)}
  {program : Program sig}

/-- Before anything is sent or read, at no read. -/
theorem of_not_readsNext (other : ∀ purpose, ¬ ReadsNext program purpose) :
    KeepsTo side conversation [] program where
  talk := List.nil_prefix
  next purpose reads := absurd reads (other purpose)

/-- A side that has returned has kept to what it kept to before. -/
theorem stopped (keeps : KeepsTo side conversation events program) (result : Except Error Int) :
    KeepsTo side conversation events (.ret result) where
  talk := keeps.talk
  next purpose reads := by simp [ReadsNext] at reads

/-- An operation says nothing on the wire. -/
theorem did (keeps : KeepsTo side conversation events program) (op : sig.Op)
    (result : sig.Result op) : KeepsTo side conversation (.did op result :: events) program :=
  ⟨keeps.talk, keeps.next⟩

/-- Closing the socket says nothing on the wire. -/
theorem closed (keeps : KeepsTo side conversation events program) :
    KeepsTo side conversation (.closed :: events) program :=
  ⟨keeps.talk, keeps.next⟩

/-- A message that is sent is the next entry of the conversation. -/
theorem sent (keeps : KeepsTo side conversation events program) (message : sig.Message) :
    KeepsTo side ((side, sig.meant message) :: conversation) (.sent message :: events)
      program where
  talk := (List.prefix_cons_inj _).mpr keeps.talk
  next purpose reads := (List.prefix_cons_inj _).mpr (keeps.next purpose reads)

/-- A message that is taken is the next entry of the conversation. -/
theorem took (keeps : KeepsTo side conversation events program) (purpose : sig.Purpose)
    (message : sig.Message) :
    KeepsTo side ((side.other, purpose) :: conversation) (.took purpose message :: events)
      program where
  talk := (List.prefix_cons_inj _).mpr keeps.talk
  next purpose reads := (List.prefix_cons_inj _).mpr (keeps.next purpose reads)

end KeepsTo

namespace Converses

variable {side : Side} {conversation : Conversation sig}

/-- A program that has returned says no more. -/
theorem ret (result : Except Error Int) : Converses side conversation (.ret result) := by
  intro events last follows
  cases follows
  exact .of_not_readsNext (by simp [ReadsNext])

/-- An operation takes no part in the conversation. -/
theorem perform {op : sig.Op} {context : Option Error} {next : sig.Result op → Program sig}
    (rest : ∀ result, Converses side conversation (next result)) :
    Converses side conversation (.perform op context next) := by
  intro events last follows
  cases follows with
  | here => exact .of_not_readsNext (by simp [ReadsNext])
  | perform follows => exact (rest _ _ _ follows).did op _

/-- A send is the first entry of the conversation, and the rest is for what follows. -/
theorem send {message : sig.Message} {context : Error} {next : Program sig}
    (rest : Converses side conversation next) :
    Converses side ((side, sig.meant message) :: conversation) (.send message context next) := by
  intro events last follows
  cases follows with
  | here => exact .of_not_readsNext (by simp [ReadsNext])
  | send follows => exact (rest _ _ follows).sent message

/-- A program that stands at a read keeps to a conversation that begins with it. -/
theorem receive_here {purpose : sig.Purpose} {eof context : Error}
    {next : sig.Message → Program sig} :
    KeepsTo side ((side.other, purpose) :: conversation) []
      (.receive purpose eof context next) where
  talk := List.nil_prefix
  next other reads := by
    obtain ⟨_, _, _, same⟩ := reads
    cases same
    exact (List.prefix_cons_inj _).mpr List.nil_prefix

/-- A read is the first entry of the conversation, and the rest is for what follows. -/
theorem receive {purpose : sig.Purpose} {eof context : Error} {next : sig.Message → Program sig}
    (rest : ∀ message, Converses side conversation (next message)) :
    Converses side ((side.other, purpose) :: conversation)
      (.receive purpose eof context next) := by
  intro events last follows
  cases follows with
  | here => exact receive_here
  | receive follows => exact (rest _ _ _ follows).took purpose _

/-- Closing the socket takes no part in the conversation. -/
theorem close {next : Program sig} (rest : Converses side conversation next) :
    Converses side conversation (.close next) := by
  intro events last follows
  cases follows with
  | here => exact .of_not_readsNext (by simp [ReadsNext])
  | close follows => exact (rest _ _ follows).closed

end Converses

/-- A program that does an event of one kind only together with one of another. -/
def Requires (needed mark : Event sig → Prop) (program : Program sig) : Prop :=
  ∀ events last, Follows program events last → ∀ event ∈ events, mark event →
    ∃ other ∈ events, needed other

namespace Requires

variable {needed mark : Event sig → Prop}

/-- A program that has returned does no event. -/
theorem ret (result : Except Error Int) : Requires needed mark (.ret result) := by
  intro events last follows event member
  cases follows
  contradiction

/-- The one event is there, or the rest of the program sees to it. -/
theorem cons {first : Event sig} {events : List (Event sig)} (unmarked : ¬ mark first)
    (rest : needed first ∨ ∀ event ∈ events, mark event → ∃ other ∈ events, needed other) :
    ∀ event ∈ first :: events, mark event → ∃ other ∈ first :: events, needed other := by
  intro event member marked
  rcases rest with now | later
  · exact ⟨first, List.mem_cons_self, now⟩
  · rcases List.mem_cons.mp member with same | inside
    · rw [same] at marked
      exact absurd marked unmarked
    · obtain ⟨other, found, needs⟩ := later event inside marked
      exact ⟨other, List.mem_cons_of_mem _ found, needs⟩

/-- An operation passes the requirement on, unless it is what is needed. -/
theorem perform {op : sig.Op} {context : Option Error} {next : sig.Result op → Program sig}
    (unmarked : ∀ result, ¬ mark (.did op result))
    (rest : ∀ result, needed (.did op result) ∨ Requires needed mark (next result)) :
    Requires needed mark (.perform op context next) := by
  intro events last follows
  cases follows with
  | here => simp
  | @perform _ _ _ result events _ follows =>
    exact cons (unmarked result) ((rest result).imp_right fun rest => rest events last follows)

/-- A send passes the requirement on, unless it is what is needed. -/
theorem send {message : sig.Message} {context : Error} {next : Program sig}
    (unmarked : ¬ mark (.sent message))
    (rest : needed (.sent message) ∨ Requires needed mark next) :
    Requires needed mark (.send message context next) := by
  intro events last follows
  cases follows with
  | here => simp
  | @send _ _ _ events _ follows =>
    exact cons unmarked (rest.imp_right fun rest => rest events last follows)

/-- A read passes the requirement on, unless it is what is needed. -/
theorem receive {purpose : sig.Purpose} {eof context : Error} {next : sig.Message → Program sig}
    (unmarked : ∀ message, ¬ mark (.took purpose message))
    (rest : ∀ message, needed (.took purpose message) ∨ Requires needed mark (next message)) :
    Requires needed mark (.receive purpose eof context next) := by
  intro events last follows
  cases follows with
  | here => simp
  | @receive _ _ _ _ message events _ follows =>
    exact cons (unmarked message) ((rest message).imp_right fun rest => rest events last follows)

/-- Closing passes the requirement on, unless it is what is needed. -/
theorem close {next : Program sig} (unmarked : ¬ mark .closed)
    (rest : needed .closed ∨ Requires needed mark next) :
    Requires needed mark (.close next) := by
  intro events last follows
  cases follows with
  | here => simp
  | @close _ events _ follows =>
    exact cons unmarked (rest.imp_right fun rest => rest events last follows)

end Requires

/-! ## Two sides of one conversation -/

/-- What a side has sent, in terms of the conversation. -/
theorem sendsOf_talkIn (side : Side) (events : List (Event sig)) :
    sendsOf side (talkIn side events) = (sentIn events).map sig.meant := by
  induction events with
  | nil => rfl
  | cons event events hyp =>
    cases event <;> simp_all [sendsOf, talkIn, sentIn, Side.other_ne]

/-- What a side has read, in terms of the conversation. -/
theorem sendsOf_other_talkIn (side : Side) (events : List (Event sig)) :
    sendsOf side.other (talkIn side events) = (tookIn events).map Prod.fst := by
  induction events with
  | nil => rfl
  | cons event events hyp =>
    cases event <;> simp_all [sendsOf, talkIn, tookIn, (Side.other_ne side).symm]

/-- The sends of two conversations are those of the first and then those of the second. -/
theorem sendsOf_append (side : Side) (left right : Conversation sig) :
    sendsOf side (left ++ right) = sendsOf side left ++ sendsOf side right := by
  simp [sendsOf]

/-- What a side sends in a part of a conversation comes first in what it sends. -/
theorem sendsOf_begins (side : Side) {part whole : Conversation sig} (begins : part <+: whole) :
    sendsOf side part <+: sendsOf side whole := by
  obtain ⟨rest, whole⟩ := begins
  rw [← whole, sendsOf_append]
  exact List.prefix_append _ _

/-- What was read for and what was sent for agree when both begin one list. -/
theorem meant_eq_of_begins {α β : Type} {pairs : List (α × β)} {meant : β → α} {all : List α}
    {sent : List β} (first : pairs.map Prod.fst <+: all) (second : sent.map meant <+: all)
    (begins : pairs.map Prod.snd <+: sent) : ∀ pair ∈ pairs, meant pair.2 = pair.1 := by
  have third : (pairs.map Prod.snd).map meant <+: all := (begins.map meant).trans second
  have same : pairs.map Prod.fst = (pairs.map Prod.snd).map meant := by
    apply (List.prefix_of_prefix_length_le first third (by simp)).eq_of_length
    simp
  rw [List.map_map] at same
  intro pair member
  exact (List.map_inj_left.mp same pair member).symm

namespace System

variable {system : System sig} {conversation : Conversation sig}

/-- Every message was read where it was meant to be read. -/
theorem read_as_meant (inOrder : InOrder system) {side : Side}
    (mine : talkIn side (own side system.history) <+: conversation)
    (theirs : talkIn side.other (own side.other system.history) <+: conversation) :
    ∀ read ∈ tookIn (own side system.history), sig.meant read.2 = read.1 := by
  have first := sendsOf_begins side.other mine
  have second := sendsOf_begins side.other theirs
  rw [sendsOf_other_talkIn] at first
  rw [sendsOf_talkIn] at second
  apply meant_eq_of_begins first second
  rw [← inOrder side]
  exact List.prefix_append _ _

/-- The message that the next read finds is meant for it. -/
theorem waiting_as_meant (inOrder : InOrder system) {side : Side} {purpose : sig.Purpose}
    {message : sig.Message} {rest : List sig.Message}
    (mine : talkIn side (own side system.history) ++ [(side.other, purpose)] <+: conversation)
    (theirs : talkIn side.other (own side.other system.history) <+: conversation)
    (waiting : system.inbox side = message :: rest) : sig.meant message = purpose := by
  have first := sendsOf_begins side.other mine
  have second := sendsOf_begins side.other theirs
  have next : sendsOf side.other [(side.other, purpose)] = [purpose] := by simp [sendsOf]
  rw [sendsOf_append, sendsOf_other_talkIn, next] at first
  rw [sendsOf_talkIn] at second
  let pairs := tookIn (own side system.history) ++ [(purpose, message)]
  have fsts : pairs.map Prod.fst <+: sendsOf side.other conversation := by simpa [pairs] using first
  have snds : pairs.map Prod.snd <+: sentIn (own side.other system.history) := by
    rw [← inOrder side, waiting, List.map_append]
    exact ⟨rest, by simp⟩
  exact meant_eq_of_begins fsts second snds (purpose, message) (by simp [pairs])

/-- A side whose next read comes before the place of the other in the conversation finds a
message. -/
theorem inbox_ne_nil (inOrder : InOrder system) {side : Side} {purpose : sig.Purpose}
    (behind : talkIn side (own side system.history) ++ [(side.other, purpose)] <+:
      talkIn side.other (own side.other system.history)) : system.inbox side ≠ [] := by
  intro empty
  have sends := (sendsOf_begins side.other behind).length_le
  have next : sendsOf side.other [(side.other, purpose)] = [purpose] := by simp [sendsOf]
  rw [sendsOf_append, sendsOf_other_talkIn, sendsOf_talkIn, next, ← inOrder side, empty] at sends
  simp only [List.length_append, List.length_map, List.length_singleton, List.append_nil] at sends
  omega

/-- Two sides that keep to one conversation never both wait for a message. -/
theorem not_both_await (inOrder : InOrder system)
    (keeps : ∀ side, KeepsTo side conversation (own side system.history) (system.program side)) :
    ¬ (system.AwaitsMessage .child ∧ system.AwaitsMessage .parent) := by
  rintro ⟨⟨hers, _, _, _, childReads, childEmpty⟩, ⟨his, _, _, _, parentReads, parentEmpty⟩⟩
  have child := (keeps .child).next hers ⟨_, _, _, childReads⟩
  have parent := (keeps .parent).next his ⟨_, _, _, parentReads⟩
  -- Both stand at an entry of the conversation; the one further behind has a message.
  rcases Nat.lt_trichotomy (talkIn .child (own .child system.history)).length
    (talkIn .parent (own .parent system.history)).length with before | same | after
  · apply inbox_ne_nil inOrder _ childEmpty
    · exact hers
    · apply List.prefix_of_prefix_length_le child (keeps .parent).talk
      rw [List.length_append]
      exact before
  · have both := (List.prefix_of_prefix_length_le child parent (by simp [same])).eq_of_length
      (by simp [same])
    have last := (List.append_inj both same).2
    simp [Side.other] at last
  · apply inbox_ne_nil inOrder _ parentEmpty
    · exact his
    · apply List.prefix_of_prefix_length_le parent (keeps .child).talk
      rw [List.length_append]
      exact after

end System

end NsProxy.SocketPair
