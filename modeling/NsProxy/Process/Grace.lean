import NsProxy.Lib.History
import NsProxy.Process.Reaper

/-!
# The grace period

The first termination signal fixes a deadline. What the reaper sends to the descendants is
decided anew in each round from the variables it keeps: before the deadline the signal received
last, from then on `SIGKILL`. The property of one round speaks about the history before it, so
an invariant of one step gives it for whole runs.
-/

namespace NsProxy.Process

/-- The termination signals received, with the times of their receipt. -/
def receipts (history : List Act) : List (Signal × Nat) :=
  history.filterMap fun act =>
    match act with
    | .received signal now => some (signal, now)
    | _ => none

/-- What is due after a history: the signal received last, and the deadline set by the first. -/
def due (history : List Act) : Option (Signal × Nat) := do
  let first ← (receipts history).head?
  let latest ← (receipts history).getLast?
  return (latest.1, first.2 + terminationGrace)

/-- The receipt of a termination signal. -/
def Act.IsReceipt : Act → Prop
  | received _ _ => True
  | _ => False

/-- A round of signals. -/
def Act.IsRound : Act → Prop
  | round _ _ _ _ => True
  | _ => False

/-- What the history before an act must be: a round sends what is due, and a wait comes after a
round for every signal received. -/
def Disciplined (past : List Act) : Act → Prop
  | .round now signal _ _ => ∃ latest deadline, due past = some (latest, deadline) ∧
      signal = if now < deadline then latest else .sigkill
  | .wait _ => Followed Act.IsReceipt Act.IsRound past
  | _ => True

/-- The clock reading of an act. -/
def Act.time : Act → Option Nat
  | round now _ _ _ => some now
  | received _ now => some now
  | _ => none

/-- The clock reading that comes with an answer; after `SIGCHLD` the clock is not read. -/
def Answer.time : Answer → Option Nat
  | round now _ => some now
  | received signal _ now => if signal = .sigchld then none else some now
  | _ => none

/-- What happens to the reaper, as far as its rounds depend on it. -/
inductive Event
  /-- A termination signal is received. -/
  | receipt (signal : Signal) (now : Nat)
  /-- A round of signals is due to be made. -/
  | round (now : Nat)
  deriving DecidableEq

/-- The clock reading of an event. -/
def Event.time : Event → Nat
  | receipt _ now => now
  | round now => now

/-- The event behind an act. -/
def Act.event : Act → Option Event
  | round now _ _ _ => some (.round now)
  | received signal now => some (.receipt signal now)
  | _ => none

/-- The event that an answer is. -/
def Answer.event : Answer → Option Event
  | round now _ => some (.round now)
  | received signal _ now => if signal = .sigchld then none else some (.receipt signal now)
  | _ => none

/-! ## What is due -/

/-- The receipts of two histories are those of the first and then those of the second. -/
theorem receipts_append (left right : List Act) :
    receipts (left ++ right) = receipts left ++ receipts right :=
  List.filterMap_append

/-- An act that is no receipt leaves what is due. -/
theorem due_append_other {act : Act} (history : List Act) (other : ¬ act.IsReceipt) :
    due (history ++ [act]) = due history := by
  have none : receipts [act] = [] := by
    cases act with
    | received signal now => exact absurd trivial other
    | _ => rfl
  unfold due
  rw [receipts_append, none, List.append_nil]

/-- A receipt sets the signal, and the deadline if there is none. -/
theorem due_append_received (history : List Act) (signal : Signal) (now : Nat) :
    due (history ++ [.received signal now]) =
      some (signal, ((due history).getD (signal, now + terminationGrace)).2) := by
  have one : receipts [.received signal now] = [(signal, now)] := rfl
  unfold due
  rw [receipts_append, one]
  cases list : receipts history with
  | nil => rfl
  | cons first rest =>
    have oldLast : (first :: rest).getLast? = some ((first :: rest).getLast (by simp)) :=
      List.getLast?_eq_some_getLast _
    have newLast : (first :: rest ++ [(signal, now)]).getLast? = some (signal, now) :=
      List.getLast?_concat
    rw [oldLast, newLast]
    rfl

/-- What happens later does not move the deadline. -/
theorem due_append (history later : List Act) {latest : Signal} {deadline : Nat}
    (set : due history = some (latest, deadline)) :
    ∃ signal, due (history ++ later) = some (signal, deadline) := by
  unfold due at *
  rw [receipts_append]
  cases list : receipts history with
  | nil =>
    rw [list] at set
    contradiction
  | cons first rest =>
    rw [list] at set
    have fixed : first.2 + terminationGrace = deadline := by
      have last : (first :: rest).getLast? = some ((first :: rest).getLast (by simp)) :=
        List.getLast?_eq_some_getLast _
      simp only [List.head?_cons, last, Option.pure_def, Option.bind_eq_bind, Option.bind_some,
        Option.some.injEq, Prod.mk.injEq] at set
      exact set.2
    have last : (first :: rest ++ receipts later).getLast? =
        some ((first :: rest ++ receipts later).getLast (by simp)) :=
      List.getLast?_eq_some_getLast _
    rw [last]
    simp [fixed]

/-- The signal that is due was received. -/
theorem mem_receipts_of_due {history : List Act} {latest : Signal} {deadline : Nat}
    (set : due history = some (latest, deadline)) :
    ∃ receipt ∈ receipts history, receipt.1 = latest := by
  unfold due at set
  cases final : (receipts history).getLast? with
  | none => simp [final] at set
  | some receipt =>
    refine ⟨receipt, List.mem_of_getLast? final, ?_⟩
    cases start : (receipts history).head? with
    | none => simp [start] at set
    | some first =>
      simp only [final, start, Option.pure_def, Option.bind_eq_bind, Option.bind_some,
        Option.some.injEq, Prod.mk.injEq] at set
      exact set.1

namespace Reaper

variable {root commandPid : Pid} {reaper next last : Reaper}

/-! ## The invariant of the loop -/

/-- The reaper keeps what is due, and every act so far was disciplined. -/
structure Kept (reaper : Reaper) : Prop where
  /-- `termination` is what is due. -/
  termination : reaper.termination = due reaper.history
  /-- A round is made with what is due. -/
  forwarding : ∀ signal deadline, reaper.control = .forwarding signal deadline →
    reaper.termination = some (signal, deadline)
  /-- Every act so far was disciplined. -/
  disciplined : Always Disciplined reaper.history
  /-- `SIGKILL` is never received. -/
  catchable : ∀ receipt ∈ receipts reaper.history, receipt.1 ≠ .sigkill

/-- A reaper that starts has nothing due. -/
theorem kept_start : Kept start where
  termination := rfl
  forwarding signal deadline standing := by simp [start] at standing
  disciplined := always_nil _
  catchable receipt member := by simp [start, receipts] at member

/-- Standing at another call than a round, with the same variables. -/
theorem Kept.goto (kept : Kept reaper) {control : Control}
    (other : ∀ signal deadline, control ≠ .forwarding signal deadline) :
    Kept (reaper.goto control) where
  termination := kept.termination
  forwarding signal deadline standing := absurd standing (other signal deadline)
  disciplined := kept.disciplined
  catchable := kept.catchable

/-- An act that is no receipt is added to the history. -/
theorem Kept.log (kept : Kept reaper) (act : Act) (other : ¬ act.IsReceipt)
    (disciplined : Disciplined reaper.history act) : Kept (reaper.log act) where
  termination := by
    rw [log_termination, log_history, due_append_other _ other]
    exact kept.termination
  forwarding := kept.forwarding
  disciplined := always_append_singleton.mpr ⟨kept.disciplined, disciplined⟩
  catchable receipt member := by
    rw [log_history, receipts_append, List.mem_append] at member
    rcases member with old | new
    · exact kept.catchable receipt old
    · cases act with
      | received signal now => exact absurd trivial other
      | _ => simp [receipts] at new

/-- A wait, after a round for every signal received. -/
theorem Kept.wait (kept : Kept reaper) (timeout : Option Nat)
    (followed : Followed Act.IsReceipt Act.IsRound reaper.history) :
    Kept (reaper.wait timeout) :=
  (kept.log (.wait timeout) not_false followed).goto (by simp)

/-- Without anything due, no signal was received. -/
theorem receipts_of_due_none {history : List Act} (nothing : due history = none) :
    receipts history = [] := by
  cases list : receipts history with
  | nil => rfl
  | cons first rest =>
    have last : (first :: rest).getLast? = some ((first :: rest).getLast (by simp)) :=
      List.getLast?_eq_some_getLast _
    unfold due at nothing
    rw [list, last] at nothing
    contradiction

/-- A history without receipts needs no round. -/
theorem followed_of_receipts_nil {history : List Act} (nothing : receipts history = []) :
    Followed Act.IsReceipt Act.IsRound history := by
  intro past act future split kind
  cases act with
  | received signal now =>
    rw [split, receipts_append, List.append_eq_nil_iff] at nothing
    simp [receipts] at nothing
  | _ => exact absurd kind not_false

/-- The match on the result of `waitpid`; the inner loop is left for a wait when nothing is due. -/
theorem Kept.reap (kept : Kept reaper) (result : Except Errno WaitStatus) :
    Kept (reaper.reap commandPid result) := by
  rcases reap_cases commandPid reaper result with ⟨code, same⟩ | ⟨nothing, same⟩ |
    ⟨signal, deadline, set, same⟩ | ⟨errno, ended, -, -, -, same⟩
  · rw [same]
    exact ⟨kept.termination, kept.forwarding, kept.disciplined, kept.catchable⟩
  · have silent : due reaper.history = none := kept.termination.symm.trans nothing
    rw [same]
    exact kept.wait none (followed_of_receipts_nil (receipts_of_due_none silent))
  · rw [same]
    refine ⟨kept.termination, ?_, kept.disciplined, kept.catchable⟩
    intro other time standing
    have round : signal = other ∧ deadline = time := by simpa using standing
    rw [goto_termination, set, round.1, round.2]
  · rw [same]
    exact kept.goto (by simp)

/-- A termination signal. -/
theorem Kept.terminate (kept : Kept reaper) {signal : Signal} (caught : signal ≠ .sigkill)
    (now : Nat) : Kept ((reaper.terminate signal now).goto .reaping) where
  termination := by
    show some (signal, (reaper.termination.getD (signal, now + terminationGrace)).2) =
      due (reaper.history ++ [.received signal now])
    rw [due_append_received, kept.termination]
  forwarding other time standing := by simp at standing
  disciplined := always_append_singleton.mpr ⟨kept.disciplined, trivial⟩
  catchable receipt member := by
    have split : receipt ∈ receipts reaper.history ++ [(signal, now)] := by
      simpa [Reaper.terminate, receipts] using member
    rw [List.mem_append, List.mem_singleton] at split
    rcases split with old | same
    · exact kept.catchable receipt old
    · rw [same]
      exact caught

/-- Every step keeps the discipline. -/
theorem Kept.step (kept : Kept reaper) {answer : Answer}
    (taken : step root commandPid reaper answer = some next) : Kept next := by
  rcases step_cases taken with ⟨result, -, -, rfl⟩ |
    ⟨signal, deadline, now, proc, standing, -, rfl⟩ | ⟨timeout, errno, -, -, rfl⟩ |
    ⟨timeout, signal, managed, now, -, -, rfl⟩
  · exact (kept.log (.reaped result) not_false trivial).reap result
  · have set := kept.termination.symm.trans (kept.forwarding signal deadline standing)
    obtain ⟨sent, result, -, ends⟩ := forward_cases root reaper signal deadline now proc
    have round : Disciplined reaper.history
        (.round now (if now < deadline then signal else .sigkill) sent result) :=
      ⟨signal, deadline, set, rfl⟩
    rcases ends with ⟨causes, -, stopped⟩ | ⟨rest, -, waits⟩
    · rw [stopped]
      exact (kept.log (.round now _ sent result) not_false round).goto (by simp)
    · rw [waits]
      have logged := kept.log (.round now _ sent result) not_false round
      exact logged.wait _ (followed_append_singleton not_false trivial)
  · cases errno with
    | _ => exact kept.goto (by simp)
  · by_cases child : signal = .sigchld
    · rw [if_pos child]
      exact kept.goto (by simp)
    · have caught : signal ≠ .sigkill := by
        intro same
        rw [same] at managed
        exact absurd managed (by decide)
      rw [if_neg child]
      exact kept.terminate caught now

/-! ## The clock -/

/-- The inner loop makes no round and receives nothing. -/
theorem reap_events (reaper : Reaper) (result : Except Errno WaitStatus) :
    (reaper.reap commandPid result).history.filterMap Act.event =
      reaper.history.filterMap Act.event := by
  rcases reap_cases commandPid reaper result with ⟨code, same⟩ | ⟨-, same⟩ |
    ⟨signal, deadline, -, same⟩ | ⟨errno, ended, -, -, -, same⟩
  · rw [same]
  · rw [same, wait_history, List.filterMap_append]
    exact List.append_nil _
  · rw [same, goto_history]
  · rw [same, goto_history]

/-- The history has the events of the answers. -/
theorem step_events {answer : Answer}
    (taken : Reaper.step root commandPid reaper answer = some next) :
    next.history.filterMap Act.event =
      reaper.history.filterMap Act.event ++ [answer].filterMap Answer.event := by
  rcases step_cases taken with ⟨result, -, rfl, rfl⟩ | ⟨signal, deadline, now, proc, -, rfl, rfl⟩ |
    ⟨timeout, errno, -, rfl, rfl⟩ | ⟨timeout, signal, managed, now, -, rfl, rfl⟩
  · rw [reap_events, log_history, List.filterMap_append]
    rfl
  · obtain ⟨sent, result, -, ⟨causes, -, stopped⟩ | ⟨rest, -, waits⟩⟩ :=
      forward_cases root reaper signal deadline now proc
    · rw [stopped]
      simp [Act.event, Answer.event]
    · rw [waits]
      simp [Act.event, Answer.event]
  · cases errno <;> simp [Reaper.interrupt, Answer.event]
  · by_cases child : signal = .sigchld
    · simp [child, Answer.event]
    · simp [child, Answer.event, Act.event, Reaper.terminate]

/-- A run has the events of its answers. -/
theorem run_events (answers : List Answer) (reaper : Reaper)
    (ran : run root commandPid reaper answers = some last) :
    last.history.filterMap Act.event =
      reaper.history.filterMap Act.event ++ answers.filterMap Answer.event := by
  induction answers generalizing reaper with
  | nil =>
    have same : reaper = last := by simpa [run] using ran
    simp [same]
  | cons answer rest ih =>
    obtain ⟨next, taken, later⟩ := run_cons ran
    rw [ih next later, step_events taken, List.append_assoc, ← List.filterMap_append]
    rfl

/-- A run from the entry has the clock readings of its answers. -/
theorem run_times (answers : List Answer) (ran : run root commandPid .start answers = some last) :
    last.history.filterMap Act.time = answers.filterMap Answer.time := by
  have acts : Act.time = fun act => act.event.map Event.time := by
    funext act
    cases act <;> rfl
  have inputs : Answer.time = fun answer => answer.event.map Event.time := by
    funext answer
    cases answer with
    | received signal managed now =>
      simp only [Answer.time, Answer.event]
      split <;> rfl
    | _ => rfl
  have events := run_events answers .start ran
  rw [acts, inputs, ← List.map_filterMap, ← List.map_filterMap, events]
  rfl

/-- Two acts of a history with a non-decreasing clock are in the order of their times. -/
theorem times_ordered {past future : List Act} {first second : Act} {early late : Nat}
    (ordered : ((past ++ first :: future).filterMap Act.time).Pairwise (· ≤ ·))
    (firstTime : first.time = some early) (secondTime : second.time = some late)
    (member : second ∈ future) : early ≤ late := by
  rw [List.filterMap_append, List.filterMap_cons_some firstTime] at ordered
  have tail := (List.pairwise_append.mp ordered).2.1
  have below := (List.pairwise_cons.mp tail).1
  apply below
  rw [List.mem_filterMap]
  exact ⟨second, member, secondTime⟩

/-- A round sends `SIGKILL` from the deadline on only: no such signal is ever received. -/
theorem Kept.overdue (kept : Kept reaper) {past future : List Act} {now : Nat}
    {sent : List Pid} {result : Except Error Unit}
    (split : reaper.history = past ++ .round now .sigkill sent result :: future) :
    ∃ latest deadline, due past = some (latest, deadline) ∧ deadline ≤ now := by
  obtain ⟨latest, deadline, set, used⟩ := kept.disciplined past _ future split
  refine ⟨latest, deadline, set, ?_⟩
  obtain ⟨receipt, inside, same⟩ := mem_receipts_of_due set
  have caught : receipt.1 ≠ .sigkill := by
    apply kept.catchable
    rw [split, receipts_append]
    exact List.mem_append_left _ inside
  by_contra early
  rw [if_pos (Nat.lt_of_not_le early), ← same] at used
  exact caught used.symm

end Reaper

/-! ## The discipline over whole runs -/

/-- What a reaper has done so far keeps the grace period. -/
structure GraceDiscipline (reaper : Reaper) : Prop where
  /-- The reaper holds the signal received last and the deadline set by the first. -/
  termination : reaper.termination = due reaper.history
  /-- Once set, the deadline stays. -/
  fixed : ∀ earlier later latest deadline, reaper.history = earlier ++ later →
    due earlier = some (latest, deadline) → ∃ signal, reaper.termination = some (signal, deadline)
  /-- A round comes after a receipt, and sends the signal received last before the deadline and
  `SIGKILL` from then on. -/
  round : ∀ past now signal sent result future,
    reaper.history = past ++ .round now signal sent result :: future →
    ∃ latest deadline, due past = some (latest, deadline) ∧
      signal = if now < deadline then latest else .sigkill
  /-- After `SIGKILL` no other signal is sent. -/
  kill : ∀ past now sent result future,
    reaper.history = past ++ .round now .sigkill sent result :: future →
    ∀ later signal targets outcome, .round later signal targets outcome ∈ future →
      signal = .sigkill
  /-- Between a receipt and the next wait there is a round. -/
  answered : ∀ past timeout future, reaper.history = past ++ .wait timeout :: future →
    Followed Act.IsReceipt Act.IsRound past

/-- Every run under a non-decreasing clock keeps the grace period, at every point of it. -/
theorem grace_discipline (root commandPid : Pid) (answers : List Answer) (last : Reaper)
    (ran : Reaper.run root commandPid .start answers = some last)
    (clock : (answers.filterMap Answer.time).Pairwise (· ≤ ·)) : GraceDiscipline last := by
  have kept : Reaper.Kept last := Reaper.run_invariant Reaper.Kept
    (fun _ _ _ kept taken => kept.step taken) answers .start last Reaper.kept_start ran
  have ordered : (last.history.filterMap Act.time).Pairwise (· ≤ ·) := by
    rw [Reaper.run_times answers ran]
    exact clock
  refine ⟨kept.termination, ?_, ?_, ?_, ?_⟩
  · intro earlier later latest deadline split set
    rw [kept.termination, split]
    exact due_append earlier later set
  · intro past now signal sent result future split
    exact kept.disciplined past _ future split
  · intro past now sent result future split later signal targets outcome member
    -- the deadline of the earlier round is that of the later one, which comes after it
    obtain ⟨latest, deadline, set, passed⟩ := kept.overdue split
    obtain ⟨before, after, parts⟩ := List.append_of_mem member
    rw [parts, ← List.cons_append, ← List.append_assoc] at split
    obtain ⟨other, time, again, sends⟩ := kept.disciplined _ _ after split
    obtain ⟨_, still⟩ := due_append past (.round now .sigkill sent result :: before) set
    rw [still] at again
    have same : deadline = time := by
      simp only [Option.some.injEq, Prod.mk.injEq] at again
      exact again.2
    have order : now ≤ later := by
      rw [split, List.append_assoc, List.cons_append] at ordered
      have member : Act.round later signal targets outcome ∈
          before ++ .round later signal targets outcome :: after := by simp
      exact Reaper.times_ordered ordered rfl rfl member
    have late : ¬ later < time := by omega
    rw [if_neg late] at sends
    exact sends
  · intro past timeout future split
    exact kept.disciplined past _ future split

/-- A `SIGTERM`, a `SIGINT` within the grace period, and the deadline. -/
theorem grace_discipline_two_signals :
    let idle : ProcTable := ⟨[], fun _ _ => .ok ()⟩
    let answers : List Answer := [.waitpid (.ok .stillAlive), .received .sigterm (by decide) 5,
      .waitpid (.ok .stillAlive), .round 6 idle, .received .sigint (by decide) 7,
      .waitpid (.ok .stillAlive), .round 8 idle, .interrupted .eagain,
      .waitpid (.ok .stillAlive), .round 2000000005 idle]
    ∃ last, Reaper.run 1 100 .start answers = some last ∧ GraceDiscipline last ∧
      last.history = [.reaped (.ok .stillAlive), .wait none, .received .sigterm 5,
        .reaped (.ok .stillAlive), .round 6 .sigterm [] (.ok ()), .wait (some 1999999999),
        .received .sigint 7, .reaped (.ok .stillAlive), .round 8 .sigint [] (.ok ()),
        .wait (some 1999999997), .reaped (.ok .stillAlive), .round 2000000005 .sigkill [] (.ok ()),
        .wait (some 100000000)] := by
  intro idle answers
  have clock : (answers.filterMap Answer.time).Pairwise (· ≤ ·) := by decide
  exact ⟨_, rfl, grace_discipline 1 100 answers _ rfl clock, rfl⟩

end NsProxy.Process
