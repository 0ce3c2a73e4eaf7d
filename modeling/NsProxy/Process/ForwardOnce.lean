import NsProxy.Process.Coverage
import NsProxy.Process.Grace

/-!
# How often a signal is forwarded

Every turn of the loop makes a round while a termination signal is set, also a turn that was
started by the exit of a child or by an interrupted wait. A process that stays gets the signals
in the order of their receipt; it gets each of them once as long as every round before the
deadline has a receipt of its own.
-/

namespace NsProxy.Process

/-- The signals that a round before a deadline sends to a process. -/
def Act.signalsTo (pid : Pid) (deadline : Nat) : Act → List Signal
  | round now signal sent _ => if now < deadline then List.replicate (sent.count pid) signal else []
  | _ => []

/-- The signals sent to a process before a deadline, in order. -/
def signalsTo (pid : Pid) (deadline : Nat) (history : List Act) : List Signal :=
  history.flatMap (Act.signalsTo pid deadline)

/-- Between two rounds, the second of them before the deadline, a termination signal is
received. -/
def FreshRounds (deadline : Nat) (events : List Event) : Prop :=
  ∀ before first middle second after,
    events = before ++ .round first :: (middle ++ .round second :: after) → second < deadline →
    ∃ signal now, .receipt signal now ∈ middle

/-- The receipts since the last round. -/
def unanswered (history : List Act) : List (Signal × Nat) :=
  history.foldl (fun waiting act =>
    match act with
    | .received signal now => waiting ++ [(signal, now)]
    | .round _ _ _ _ => []
    | _ => waiting) []

/-- Neither a receipt nor a round. -/
def Act.Quiet (act : Act) : Prop := act.event = none

/-! ## One act more -/

section Acts

variable (history : List Act) {act : Act} (pid : Pid) (deadline : Nat)

/-- A receipt waits for the next round, and a round leaves none waiting. -/
theorem unanswered_append (act : Act) :
    unanswered (history ++ [act]) =
      match act with
      | .received signal now => unanswered history ++ [(signal, now)]
      | .round _ _ _ _ => []
      | _ => unanswered history := by
  unfold unanswered
  rw [List.foldl_append]
  cases act <;> rfl

/-- A process has been sent what the earlier acts sent it, and then what this one does. -/
theorem signalsTo_append (act : Act) :
    signalsTo pid deadline (history ++ [act]) =
      signalsTo pid deadline history ++ act.signalsTo pid deadline := by
  simp [signalsTo]

/-- A quiet act leaves what is unanswered alone. -/
theorem unanswered_quiet (quiet : act.Quiet) :
    unanswered (history ++ [act]) = unanswered history := by
  rw [unanswered_append]
  cases act with
  | round now signal sent result => simp [Act.Quiet, Act.event] at quiet
  | received signal now => simp [Act.Quiet, Act.event] at quiet
  | _ => rfl

/-- A quiet act sends no signal. -/
theorem signalsTo_quiet (quiet : act.Quiet) :
    signalsTo pid deadline (history ++ [act]) = signalsTo pid deadline history := by
  rw [signalsTo_append]
  cases act with
  | round now signal sent result => simp [Act.Quiet, Act.event] at quiet
  | _ => exact List.append_nil _

/-- A quiet act is no receipt. -/
theorem receipts_quiet (quiet : act.Quiet) : receipts (history ++ [act]) = receipts history := by
  rw [receipts_append]
  cases act with
  | received signal now => simp [Act.Quiet, Act.event] at quiet
  | _ => exact List.append_nil _

variable (now : Nat) (signal : Signal) (sent : List Pid) (result : Except Error Unit)

/-- A round answers every receipt. -/
theorem unanswered_round : unanswered (history ++ [.round now signal sent result]) = [] :=
  unanswered_append history _

/-- A round is no receipt. -/
theorem receipts_round :
    receipts (history ++ [.round now signal sent result]) = receipts history := by
  rw [receipts_append]
  exact List.append_nil _

/-- Only a round before the deadline sends anything that counts. -/
theorem signalsTo_round :
    signalsTo pid deadline
        (history ++ [.round now (if now < deadline then signal else .sigkill) sent result]) =
      signalsTo pid deadline history ++
        if now < deadline then List.replicate (sent.count pid) signal else [] := by
  rw [signalsTo_append, Act.signalsTo]
  split <;> rfl

end Acts

/-- With nothing unanswered, nothing was received, or not since some round. -/
theorem unanswered_eq_nil {history : List Act} (empty : unanswered history = []) :
    receipts history = [] ∨ ∃ past now signal sent result later,
      history = past ++ .round now signal sent result :: later ∧ receipts later = [] := by
  induction history using List.reverseRecOn with
  | nil => exact Or.inl rfl
  | append_singleton earlier act ih =>
    rw [unanswered_append] at empty
    have quietly : (act.Quiet → unanswered earlier = []) → act.Quiet →
        receipts (earlier ++ [act]) = [] ∨ ∃ past now signal sent result later,
          earlier ++ [act] = past ++ .round now signal sent result :: later ∧
            receipts later = [] := by
      intro still quiet
      rcases ih (still quiet) with none | ⟨past, now, signal, sent, result, later, split, silent⟩
      · exact Or.inl (by rw [receipts_quiet earlier quiet, none])
      · refine Or.inr ⟨past, now, signal, sent, result, later ++ [act], ?_, ?_⟩
        · rw [split, List.append_assoc, List.cons_append]
        · rw [receipts_quiet later quiet, silent]
    cases act with
    | received signal now => simp at empty
    | round now signal sent result =>
      exact Or.inr ⟨earlier, now, signal, sent, result, [], rfl, rfl⟩
    | reaped result => exact quietly (fun _ => empty) rfl
    | wait timeout => exact quietly (fun _ => empty) rfl

/-- The receipts since the last round are the last ones. -/
theorem receipts_split (history : List Act) :
    ∃ answered, receipts history = answered ++ unanswered history := by
  induction history using List.reverseRecOn with
  | nil => exact ⟨[], rfl⟩
  | append_singleton earlier act ih =>
    obtain ⟨answered, split⟩ := ih
    rw [unanswered_append, receipts_append, split]
    cases act with
    | received signal now => exact ⟨answered, by rw [List.append_assoc]; rfl⟩
    | round now signal sent result => exact ⟨answered ++ unanswered earlier, by simp [receipts]⟩
    | reaped result => exact ⟨answered, by simp [receipts]⟩
    | wait timeout => exact ⟨answered, by simp [receipts]⟩

/-- No round so far was made at the deadline or later. -/
def AllEarly (deadline : Nat) (history : List Act) : Prop :=
  ∀ now signal sent result, .round now signal sent result ∈ history → now < deadline

namespace Reaper

/-- What a process has been sent is the beginning of what was received. While the reaper runs and
no round was late, it is all of it but what has been received since the last round, which is one
signal at most, and nothing at a wait. -/
structure ForwardedOnce (pid : Pid) (deadline : Nat) (reaper : Reaper) : Prop where
  /-- At a wait every receipt has had its round. -/
  idle : ∀ timeout, reaper.control = .waiting timeout → unanswered reaper.history = []
  /-- There is at most one receipt since the last round. -/
  single : (unanswered reaper.history).length ≤ 1
  /-- All but that receipt has been sent. -/
  exact : (∀ result, reaper.control ≠ .returned result) → AllEarly deadline reaper.history →
    signalsTo pid deadline reaper.history ++ (unanswered reaper.history).map Prod.fst =
      (receipts reaper.history).map Prod.fst
  /-- What has been sent is the beginning of what was received. -/
  begins : signalsTo pid deadline reaper.history <+: (receipts reaper.history).map Prod.fst

variable {root commandPid pid : Pid} {deadline : Nat} {reaper next : Reaper}

/-- A reaper that starts has received nothing and sent nothing. -/
theorem forwardedOnce_start : ForwardedOnce pid deadline start where
  idle timeout standing := by simp [start] at standing
  single := Nat.zero_le 1
  exact _ _ := rfl
  begins := List.prefix_refl _

/-- A quiet act. -/
theorem ForwardedOnce.log (once : ForwardedOnce pid deadline reaper) {act : Act}
    (quiet : act.Quiet) : ForwardedOnce pid deadline (reaper.log act) := by
  have noRounds : AllEarly deadline (reaper.history ++ [act]) → AllEarly deadline reaper.history :=
    fun early now signal sent result member =>
      early now signal sent result (List.mem_append_left _ member)
  refine ⟨?_, ?_, ?_, ?_⟩
  · intro timeout standing
    rw [log_history, unanswered_quiet _ quiet]
    exact once.idle timeout standing
  · rw [log_history, unanswered_quiet _ quiet]
    exact once.single
  · intro running early
    rw [log_history, unanswered_quiet _ quiet, signalsTo_quiet _ _ _ quiet,
      receipts_quiet _ quiet]
    exact once.exact running (noRounds early)
  · rw [log_history, signalsTo_quiet _ _ _ quiet, receipts_quiet _ quiet]
    exact once.begins

/-- The reaper goes on to another call with the same history. -/
theorem ForwardedOnce.move (once : ForwardedOnce pid deadline reaper)
    (running : ∀ result, reaper.control ≠ .returned result)
    (same : next.history = reaper.history)
    (idle : ∀ timeout, next.control = .waiting timeout → unanswered reaper.history = []) :
    ForwardedOnce pid deadline next := by
  refine ⟨?_, ?_, ?_, ?_⟩
  · rw [same]
    exact idle
  · rw [same]
    exact once.single
  · intro _ early
    rw [same] at early ⊢
    exact once.exact running early
  · rw [same]
    exact once.begins

/-- The inner loop; without a termination signal nothing has been received. -/
theorem ForwardedOnce.reap (once : ForwardedOnce pid deadline reaper) (kept : Kept reaper)
    (standing : reaper.control = .reaping) (result : Except Errno WaitStatus) :
    ForwardedOnce pid deadline (reaper.reap commandPid result) := by
  have running : ∀ ended, reaper.control ≠ .returned ended := by
    intro ended
    rw [standing]
    simp
  have still : ∀ {other : Reaper}, other.history = reaper.history →
      (∀ timeout, other.control ≠ .waiting timeout) → ForwardedOnce pid deadline other :=
    fun same elsewhere =>
      once.move running same fun timeout waits => absurd waits (elsewhere timeout)
  rcases reap_cases commandPid reaper result with ⟨code, same⟩ | ⟨nothing, same⟩ |
    ⟨signal, time, -, same⟩ | ⟨errno, ended, -, -, -, same⟩
  · rw [same]
    exact still rfl (by simp [standing])
  · have silent := receipts_of_due_none (kept.termination.symm.trans nothing)
    have logged : ForwardedOnce pid deadline (reaper.log (.wait none)) := once.log rfl
    rw [same]
    refine logged.move running rfl ?_
    intro timeout _
    obtain ⟨answered, split⟩ := receipts_split reaper.history
    rw [silent] at split
    rw [log_history, unanswered_append]
    exact (List.append_eq_nil_iff.mp split.symm).2
  · rw [same]
    exact still rfl (by simp)
  · rw [same]
    exact still rfl (by simp)

/-- A termination signal ends a wait, at which nothing is unanswered. -/
theorem ForwardedOnce.terminate (once : ForwardedOnce pid deadline reaper) {timeout : Option Nat}
    (standing : reaper.control = .waiting timeout) (signal : Signal) (now : Nat) :
    ForwardedOnce pid deadline ((reaper.terminate signal now).goto .reaping) := by
  have history : ((reaper.terminate signal now).goto .reaping).history =
      reaper.history ++ [.received signal now] := rfl
  have nothing := once.idle timeout standing
  have waiting : unanswered (reaper.history ++ [.received signal now]) = [(signal, now)] := by
    rw [unanswered_append, nothing]
    rfl
  have sent : signalsTo pid deadline (reaper.history ++ [.received signal now]) =
      signalsTo pid deadline reaper.history := by
    rw [signalsTo_append]
    exact List.append_nil _
  have received : (receipts (reaper.history ++ [.received signal now])).map Prod.fst =
      (receipts reaper.history).map Prod.fst ++ [signal] := by
    rw [receipts_append, List.map_append]
    rfl
  refine ⟨?_, ?_, ?_, ?_⟩
  · intro other elsewhere
    simp at elsewhere
  · rw [history, waiting]
    exact Nat.le_refl 1
  · intro _ early
    have running : ∀ result, reaper.control ≠ .returned result := by
      intro result
      rw [standing]
      simp
    have before := once.exact running fun time other targets result member =>
      early time other targets result (List.mem_append_left _ member)
    rw [nothing, List.map_nil, List.append_nil] at before
    rw [history, waiting, sent, received, before]
    rfl
  · rw [history, sent, received]
    exact once.begins.trans (List.prefix_append _ _)

/-- The signal that is due is the last one received. -/
theorem due_latest {history : List Act} {latest : Signal} {time : Nat} {earlier : List Signal}
    {signal : Signal} (set : due history = some (latest, time))
    (last : (receipts history).map Prod.fst = earlier ++ [signal]) : latest = signal := by
  unfold due at set
  cases final : (receipts history).getLast? with
  | none =>
    rw [List.getLast?_eq_none_iff] at final
    rw [final] at last
    simp at last
  | some receipt =>
    have mapped : ((receipts history).map Prod.fst).getLast? = some receipt.1 := by
      rw [List.getLast?_map, final]
      rfl
    rw [last, List.getLast?_concat] at mapped
    cases start : (receipts history).head? with
    | none => simp [start] at set
    | some first =>
      simp only [final, start, Option.pure_def, Option.bind_eq_bind, Option.bind_some,
        Option.some.injEq, Prod.mk.injEq] at set
      rw [← set.1]
      exact (Option.some.inj mapped).symm

/-- Before the deadline a round sends to a process at most the signal that waits, and sends it when
the round succeeds and the process is there. -/
theorem ForwardedOnce.early (once : ForwardedOnce pid deadline reaper) (kept : Kept reaper)
    {signal : Signal} (standing : reaper.control = .forwarding signal deadline)
    (waits : unanswered reaper.history ≠ []) (onTime : AllEarly deadline reaper.history)
    {sent : List Pid} (distinct : sent.Nodup) :
    signalsTo pid deadline reaper.history ++ List.replicate (sent.count pid) signal <+:
        (receipts reaper.history).map Prod.fst ∧
      (pid ∈ sent → signalsTo pid deadline reaper.history ++
        List.replicate (sent.count pid) signal = (receipts reaper.history).map Prod.fst) := by
  have running : ∀ result, reaper.control ≠ .returned result := by
    intro result
    rw [standing]
    simp
  have all := once.exact running onTime
  obtain ⟨receipt, only⟩ : ∃ receipt, unanswered reaper.history = [receipt] := by
    apply List.length_eq_one_iff.mp
    have positive := List.length_pos_of_ne_nil waits
    have most := once.single
    omega
  rw [only] at all
  have set : due reaper.history = some (signal, deadline) := by
    rw [← kept.termination]
    exact kept.forwarding signal deadline standing
  have latest : signal = receipt.1 := due_latest set all.symm
  rw [← all, latest]
  constructor
  · rw [List.prefix_append_right_inj]
    have most : sent.count pid ≤ 1 := List.nodup_iff_count_le_one.mp distinct pid
    rcases Nat.le_one_iff_eq_zero_or_eq_one.mp most with none | once
    · rw [none]
      exact List.nil_prefix
    · rw [once]
      exact List.prefix_refl _
  · intro member
    rw [List.count_eq_one_of_mem distinct member]
    rfl

/-- A round sends to no process twice, and to every descendant when it succeeds. -/
theorem forward_sends (root : Pid) (reaper : Reaper) (signal : Signal) (deadline now : Nat)
    (proc : ProcTable) :
    ∃ sent result, sent.Nodup ∧
      (result = .ok () →
        ∀ pid, pid ∈ sent ↔ pid ≠ root ∧ Relation.TransGen (Child proc) root pid) ∧
      ((∃ causes, result = .error causes ∧
        reaper.forward root signal deadline now proc =
          (reaper.log (.round now (if now < deadline then signal else .sigkill) sent result)).goto
            (.returned (.error causes))) ∨
      (∃ timeout, result = .ok () ∧
        reaper.forward root signal deadline now proc =
          (reaper.log (.round now (if now < deadline then signal else .sigkill) sent result)).wait
            (some timeout))) := by
  obtain ⟨sent, result, outcome, ends⟩ := forward_cases root reaper signal deadline now proc
  obtain ⟨start, _, whole⟩ :=
    signalDescendants_spec proc root (if now < deadline then signal else .sigkill)
  rw [outcome] at start whole
  refine ⟨sent, result, ?_, ?_, ends⟩
  · exact start.sublist.nodup (List.nodup_reverse.mpr (nodup_foundFrom proc root))
  · intro succeeded pid
    rw [show sent = _ from whole succeeded, List.mem_reverse]
    exact mem_foundFrom proc root pid

/-- A round: before the deadline it answers the one receipt that is waiting, and sends its signal
once; from the deadline on it sends nothing that counts. -/
theorem ForwardedOnce.forward (once : ForwardedOnce pid deadline reaper) (kept : Kept reaper)
    {signal : Signal} (standing : reaper.control = .forwarding signal deadline) (now : Nat)
    (proc : ProcTable)
    (stays : now < deadline → pid ≠ root ∧ Relation.TransGen (Child proc) root pid)
    (fresh : now < deadline → unanswered reaper.history ≠ [])
    (ordered : now < deadline → AllEarly deadline reaper.history) :
    ForwardedOnce pid deadline (reaper.forward root signal deadline now proc) := by
  obtain ⟨sent, result, distinct, whole, ends⟩ :=
    forward_sends root reaper signal deadline now proc
  have begins : signalsTo pid deadline (reaper.history ++
        [.round now (if now < deadline then signal else .sigkill) sent result]) <+:
      (receipts reaper.history).map Prod.fst := by
    rw [signalsTo_round]
    by_cases early : now < deadline
    · rw [if_pos early]
      exact (once.early kept standing (fresh early) (ordered early) distinct).1
    · rw [if_neg early, List.append_nil]
      exact once.begins
  rcases ends with ⟨causes, _, stopped⟩ | ⟨timeout, succeeded, waits⟩
  · rw [stopped]
    refine ⟨?_, ?_, ?_, ?_⟩
    · intro timeout elsewhere
      simp at elsewhere
    · rw [goto_history, log_history, unanswered_round]
      exact Nat.zero_le 1
    · intro running
      exact absurd rfl (running (.error causes))
    · rw [goto_history, log_history, receipts_round]
      exact begins
  · rw [waits]
    have logged : ForwardedOnce pid deadline
        (reaper.log (.round now (if now < deadline then signal else .sigkill) sent result)) := by
      refine ⟨?_, ?_, ?_, ?_⟩
      · intro other elsewhere
        rw [log_control, standing] at elsewhere
        contradiction
      · rw [log_history, unanswered_round]
        exact Nat.zero_le 1
      · intro _ onTime
        have early : now < deadline :=
          onTime now (if now < deadline then signal else .sigkill) sent result (by simp)
        have present : pid ∈ sent := (whole succeeded pid).mpr (stays early)
        rw [log_history, unanswered_round, receipts_round, List.map_nil, List.append_nil,
          signalsTo_round, if_pos early]
        exact (once.early kept standing (fresh early) (ordered early) distinct).2 present
      · rw [log_history, receipts_round]
        exact begins
    have waiting := logged.log (show (Act.wait (some timeout)).Quiet from rfl)
    refine waiting.move ?_ rfl ?_
    · intro ended
      rw [log_control, log_control, standing]
      simp
    · intro _ _
      rw [log_history, unanswered_append, log_history]
      exact unanswered_round _ _ _ _ _

/-- A round is preceded by a receipt, and before the deadline by one since the last round. -/
theorem unanswered_of_fresh (kept : Kept reaper) {signal : Signal} {now : Nat} {events : List Event}
    (standing : reaper.control = .forwarding signal deadline)
    (happened : reaper.history.filterMap Act.event = events)
    (fresh : FreshRounds deadline (events ++ [.round now])) (early : now < deadline) :
    unanswered reaper.history ≠ [] := by
  intro empty
  rcases unanswered_eq_nil empty with none | ⟨past, time, other, sent, result, later, split, silent⟩
  · have set := kept.termination.symm.trans (kept.forwarding signal deadline standing)
    obtain ⟨receipt, member, _⟩ := mem_receipts_of_due set
    rw [none] at member
    contradiction
  · have parts : events ++ [.round now] = past.filterMap Act.event ++
        .round time :: (later.filterMap Act.event ++ .round now :: []) := by
      rw [← happened, split]
      simp [Act.event]
    obtain ⟨caught, at_, inside⟩ := fresh _ _ _ _ _ parts early
    obtain ⟨act, member, event⟩ := List.mem_filterMap.mp inside
    cases act with
    | received someSignal someTime =>
      have receipt : (someSignal, someTime) ∈ receipts later :=
        List.mem_filterMap.mpr ⟨_, member, rfl⟩
      rw [silent] at receipt
      contradiction
    | round someTime someSignal targets outcome => simp [Act.event] at event
    | reaped someResult => simp [Act.event] at event
    | wait timeout => simp [Act.event] at event

/-- A step adds to the history. -/
theorem step_history {answer : Answer} (taken : step root commandPid reaper answer = some next) :
    reaper.history <+: next.history := by
  have reaped : ∀ (other : Reaper) result,
      other.history <+: (other.reap commandPid result).history := by
    intro other result
    rcases reap_cases commandPid other result with ⟨code, same⟩ | ⟨-, same⟩ |
      ⟨signal, time, -, same⟩ | ⟨errno, ended, -, -, -, same⟩
    · rw [same]
    · rw [same, wait_history]
      exact List.prefix_append _ _
    · rw [same, goto_history]
    · rw [same, goto_history]
  rcases step_cases taken with ⟨result, -, -, rfl⟩ | ⟨signal, time, now, proc, -, -, rfl⟩ |
    ⟨timeout, errno, -, -, rfl⟩ | ⟨timeout, signal, managed, now, -, -, rfl⟩
  · exact (List.prefix_append _ _).trans (reaped (reaper.log (.reaped result)) result)
  · obtain ⟨sent, result, -, ⟨causes, -, stopped⟩ | ⟨rest, -, waits⟩⟩ :=
      forward_cases root reaper signal time now proc
    · rw [stopped]
      exact List.prefix_append _ _
    · rw [waits, wait_history, log_history, List.append_assoc]
      exact List.prefix_append _ _
  · cases errno <;> exact List.prefix_refl _
  · split
    · exact List.prefix_refl _
    · exact List.prefix_append _ _

/-- Before a round that is early all rounds were, for the clock does not go back. -/
theorem allEarly_of_clock {answers : List Answer} {now : Nat}
    (ran : run root commandPid .start answers = some reaper)
    (clock : ∀ time ∈ answers.filterMap Answer.time, time ≤ now) (early : now < deadline) :
    AllEarly deadline reaper.history := by
  intro time signal sent result member
  have reading : time ∈ answers.filterMap Answer.time := by
    rw [← run_times answers ran]
    exact List.mem_filterMap.mpr ⟨_, member, rfl⟩
  have order := clock time reading
  omega

/-- A deadline that was set before a step is the one that is set after it. -/
theorem deadline_before {answer : Answer}
    (taken : step root commandPid reaper answer = some next)
    (set : ∀ latest time, due next.history = some (latest, time) → time = deadline)
    {signal : Signal} {time : Nat} (earlier : due reaper.history = some (signal, time)) :
    time = deadline := by
  obtain ⟨later, whole⟩ := step_history taken
  obtain ⟨latest, still⟩ := due_append reaper.history later earlier
  rw [whole] at still
  exact set latest time still

/-- One step under the conditions of the run. -/
theorem ForwardedOnce.step (once : ForwardedOnce pid deadline reaper) (kept : Kept reaper)
    {answer : Answer} (taken : Reaper.step root commandPid reaper answer = some next)
    (set : ∀ latest time, due reaper.history = some (latest, time) → time = deadline)
    (stays : ∀ now proc, answer = .round now proc → now < deadline →
      pid ≠ root ∧ Relation.TransGen (Child proc) root pid)
    (fresh : FreshRounds deadline
      (reaper.history.filterMap Act.event ++ [answer].filterMap Answer.event))
    (ordered : ∀ now proc, answer = .round now proc → now < deadline →
      AllEarly deadline reaper.history) : ForwardedOnce pid deadline next := by
  rcases step_cases taken with ⟨result, standing, same, rfl⟩ |
    ⟨signal, time, now, proc, standing, same, rfl⟩ | ⟨timeout, errno, standing, same, rfl⟩ |
    ⟨timeout, signal, managed, now, standing, same, rfl⟩
  · have logged : ForwardedOnce pid deadline (reaper.log (.reaped result)) := once.log rfl
    exact logged.reap (kept.log (.reaped result) not_false trivial) standing result
  · have fixed : time = deadline :=
      set signal time (kept.termination.symm.trans (kept.forwarding signal time standing))
    rw [fixed] at standing ⊢
    rw [same] at fresh
    exact once.forward kept standing now proc (stays now proc same)
      (fun early => unanswered_of_fresh kept standing rfl fresh early) (ordered now proc same)
  · have running : ∀ result, reaper.control ≠ .returned result := by
      intro result
      rw [standing]
      simp
    cases errno with
    | _ => exact once.move running rfl (by simp [Reaper.interrupt])
  · have running : ∀ result, reaper.control ≠ .returned result := by
      intro result
      rw [standing]
      simp
    by_cases child : signal = .sigchld
    · rw [if_pos child]
      exact once.move running rfl (by simp)
    · rw [if_neg child]
      exact once.terminate standing signal now

/-- The invariant at the end of a run. -/
theorem forwardedOnce_run (answers : List Answer) (last : Reaper)
    (ran : run root commandPid .start answers = some last)
    (clock : (answers.filterMap Answer.time).Pairwise (· ≤ ·))
    (set : ∀ latest time, due last.history = some (latest, time) → time = deadline)
    (stays : ∀ now proc, .round now proc ∈ answers → now < deadline →
      pid ≠ root ∧ Relation.TransGen (Child proc) root pid)
    (fresh : FreshRounds deadline (answers.filterMap Answer.event)) :
    ForwardedOnce pid deadline last := by
  induction answers using List.reverseRecOn generalizing last with
  | nil =>
    have same : start = last := by simpa [run] using ran
    rw [← same]
    exact forwardedOnce_start
  | append_singleton earlier final ih =>
    obtain ⟨before, started, taken⟩ := run_append ran
    have kept : Kept before := run_invariant Kept
      (fun _ _ _ kept taken => kept.step taken) earlier .start before kept_start started
    have happened : before.history.filterMap Act.event = earlier.filterMap Answer.event :=
      run_events earlier .start started
    rw [List.filterMap_append] at clock fresh
    have fixed : ∀ latest time, due before.history = some (latest, time) → time = deadline :=
      fun _ _ => deadline_before taken set
    have once := ih before started (List.pairwise_append.mp clock).1 fixed
      (fun now proc member => stays now proc (List.mem_append_left _ member))
      (fun past first middle second after split =>
        fresh past first middle second (after ++ [final].filterMap Answer.event) (by
          rw [split]
          simp))
    refine once.step kept taken fixed ?_ ?_ ?_
    · intro now proc same
      exact stays now proc (by rw [same]; simp)
    · rw [happened]
      exact fresh
    · intro now proc same early
      refine allEarly_of_clock started (fun time reading => ?_) early
      exact (List.pairwise_append.mp clock).2.2 time reading now (by
        rw [same]
        simp [Answer.time])

/-- A round before the deadline with nothing unanswered sends the last signal once more. -/
theorem ForwardedOnce.again (once : ForwardedOnce pid deadline reaper) {signal : Signal}
    (standing : reaper.control = .forwarding signal deadline) {now : Nat} {proc : ProcTable}
    (stays : pid ≠ root ∧ Relation.TransGen (Child proc) root pid) (early : now < deadline)
    (answered : unanswered reaper.history = []) (onTime : AllEarly deadline reaper.history)
    (goesOn : ∀ result,
      (reaper.forward root signal deadline now proc).control ≠ .returned result) :
    signalsTo pid deadline (reaper.forward root signal deadline now proc).history =
        (receipts reaper.history).map Prod.fst ++ [signal] ∧
      receipts (reaper.forward root signal deadline now proc).history =
        receipts reaper.history := by
  have running : ∀ result, reaper.control ≠ .returned result := by
    intro result
    rw [standing]
    simp
  have all := once.exact running onTime
  rw [answered, List.map_nil, List.append_nil] at all
  obtain ⟨sent, result, distinct, whole, ends⟩ :=
    forward_sends root reaper signal deadline now proc
  rcases ends with ⟨causes, _, stopped⟩ | ⟨timeout, succeeded, waits⟩
  · rw [stopped] at goesOn
    exact absurd rfl (goesOn (.error causes))
  · have present : pid ∈ sent := (whole succeeded pid).mpr stays
    rw [waits, wait_history, log_history]
    constructor
    · rw [signalsTo_quiet _ _ _ (show (Act.wait (some timeout)).Quiet from rfl), signalsTo_round,
        if_pos early, List.count_eq_one_of_mem distinct present, all]
      rfl
    · rw [receipts_quiet _ (show (Act.wait (some timeout)).Quiet from rfl), receipts_round]

end Reaper

/-- After a round and no receipt since, nothing is unanswered. -/
theorem unanswered_of_silence {history : List Act} {past middle : List Event} {time : Nat}
    (happened : history.filterMap Act.event = past ++ .round time :: middle)
    (silent : ∀ signal now, .receipt signal now ∉ middle) : unanswered history = [] := by
  induction history using List.reverseRecOn generalizing middle with
  | nil => rfl
  | append_singleton earlier act ih =>
    rw [List.filterMap_append] at happened
    cases act with
    | reaped result =>
      rw [unanswered_quiet earlier (show (Act.reaped result).Quiet from rfl)]
      exact ih ((List.append_nil _).symm.trans happened) silent
    | wait timeout =>
      rw [unanswered_quiet earlier (show (Act.wait timeout).Quiet from rfl)]
      exact ih ((List.append_nil _).symm.trans happened) silent
    | round now signal sent result => exact unanswered_round _ _ _ _ _
    | received signal now =>
      -- The receipt would be the last event, and so stand in the silence.
      have last : (past ++ Event.round time :: middle).getLast? = some (.receipt signal now) := by
        rw [← happened]
        simp [Act.event]
      rcases List.eq_nil_or_concat middle with none | ⟨rest, final, split⟩
      · rw [none] at last
        simp at last
      · rw [split, List.concat_eq_append, ← List.cons_append, ← List.append_assoc,
          List.getLast?_concat] at last
        rw [split, Option.some.inj last] at silent
        exact absurd (by simp) (silent signal now)

/-- Where one more round is the first to be stale, it is early and no receipt stands between it and
the round before. -/
theorem silence_of_stale {deadline : Nat} {events : List Event} {now : Nat}
    (fresh : FreshRounds deadline events)
    (stale : ¬ FreshRounds deadline (events ++ [.round now])) :
    now < deadline ∧ ∃ past time middle, events = past ++ .round time :: middle ∧
      ∀ signal received, .receipt signal received ∉ middle := by
  unfold FreshRounds at stale
  push Not at stale
  obtain ⟨past, first, middle, second, after, split, early, silent⟩ := stale
  rcases List.eq_nil_or_concat after with none | ⟨rest, final, more⟩
  · rw [none, ← List.cons_append, ← List.append_assoc] at split
    obtain ⟨whole, last⟩ := List.append_inj' split rfl
    obtain rfl : now = second := by simpa using last
    exact ⟨early, past, first, middle, whole, silent⟩
  · rw [more, List.concat_eq_append, ← List.cons_append, ← List.append_assoc, ← List.cons_append,
      ← List.append_assoc] at split
    obtain ⟨whole, -⟩ := List.append_inj' split rfl
    rw [List.append_assoc, List.cons_append] at whole
    obtain ⟨signal, received, inside⟩ := fresh past first middle second rest whole early
    exact absurd inside (silent signal received)

/-- In every run under a non-decreasing clock, for every process that can be reached in all rounds
before the deadline: if between two rounds, the second of them before the deadline, a termination
signal is received, then the signals sent to the process before the deadline are the beginning of
the sequence of the signals received. -/
theorem signals_forwarded_once (root commandPid : Pid) (answers : List Answer) (last : Reaper)
    (ran : Reaper.run root commandPid .start answers = some last)
    (clock : (answers.filterMap Answer.time).Pairwise (· ≤ ·)) (pid : Pid) (latest : Signal)
    (deadline : Nat) (set : due last.history = some (latest, deadline))
    (stays : ∀ now proc, .round now proc ∈ answers → now < deadline →
      pid ≠ root ∧ Relation.TransGen (Child proc) root pid)
    (fresh : FreshRounds deadline (answers.filterMap Answer.event)) :
    signalsTo pid deadline last.history <+: (receipts last.history).map Prod.fst := by
  refine (Reaper.forwardedOnce_run answers last ran clock ?_ stays fresh).begins
  intro other time again
  rw [set] at again
  simp only [Option.some.injEq, Prod.mk.injEq] at again
  exact again.2.symm

/-- Outside the condition: the first round before the deadline without a receipt since the round
before it sends a process that stays the last signal once more than it was received, unless the
round fails. -/
theorem stale_round_forwards_again (root commandPid : Pid) (answers : List Answer) (now : Nat)
    (proc : ProcTable) (last : Reaper)
    (ran : Reaper.run root commandPid .start (answers ++ [.round now proc]) = some last)
    (clock : ((answers ++ [Answer.round now proc]).filterMap Answer.time).Pairwise (· ≤ ·))
    (pid : Pid) (latest : Signal) (deadline : Nat)
    (set : due last.history = some (latest, deadline))
    (stays : ∀ time table, Answer.round time table ∈ answers ++ [.round now proc] →
      time < deadline → pid ≠ root ∧ Relation.TransGen (Child table) root pid)
    (fresh : FreshRounds deadline (answers.filterMap Answer.event))
    (stale : ¬ FreshRounds deadline
      ((answers ++ [Answer.round now proc]).filterMap Answer.event))
    (goesOn : ∀ result, last.control ≠ .returned result) :
    signalsTo pid deadline last.history = (receipts last.history).map Prod.fst ++ [latest] := by
  obtain ⟨before, started, taken⟩ := Reaper.run_append ran
  have kept : Reaper.Kept before := Reaper.run_invariant Reaper.Kept
    (fun _ _ _ kept taken => kept.step taken) answers .start before Reaper.kept_start started
  have fixed : ∀ signal time, due before.history = some (signal, time) → time = deadline :=
    fun _ _ => Reaper.deadline_before taken fun _ _ again =>
      (Prod.mk.inj (Option.some.inj (set.symm.trans again))).2.symm
  rw [List.filterMap_append] at clock stale
  have once := Reaper.forwardedOnce_run answers before started (List.pairwise_append.mp clock).1
    fixed (fun time table member => stays time table (List.mem_append_left _ member)) fresh
  obtain ⟨early, past, first, middle, split, silent⟩ := silence_of_stale fresh stale
  have answered : unanswered before.history = [] :=
    unanswered_of_silence ((Reaper.run_events answers .start started).trans split) silent
  have onTime := Reaper.allEarly_of_clock started (fun time reading =>
    (List.pairwise_append.mp clock).2.2 time reading now (by simp [Answer.time])) early
  rcases Reaper.step_cases taken with ⟨result, -, same, -⟩ | ⟨signal, time, at_, table, standing,
    same, rfl⟩ | ⟨timeout, errno, -, same, -⟩ | ⟨timeout, signal, managed, at_, -, same, -⟩
  · contradiction
  · obtain ⟨rfl, rfl⟩ := Answer.round.inj same
    have waits := kept.termination.symm.trans (kept.forwarding signal time standing)
    obtain rfl := fixed signal time waits
    obtain ⟨sent, received⟩ := once.again standing (stays now proc (by simp) early) early answered
      onTime goesOn
    have same : due (before.forward root signal time now proc).history = due before.history := by
      unfold due
      rw [received]
    rw [same, waits] at set
    rw [sent, received, (Prod.mk.inj (Option.some.inj set)).1]
  · contradiction
  · contradiction

/-- A table of children of the process 1. -/
def oneFamily (children : String) : ProcTable :=
  ⟨[(1, .ok [.ok (.ok children)])], fun _ _ => .ok ()⟩

/-- Two signals, each with one round. -/
theorem signals_forwarded_once_two_signals :
    let answers : List Answer := [.waitpid (.ok .stillAlive), .received .sigterm (by decide) 5,
      .waitpid (.ok .stillAlive), .round 6 (oneFamily "10"), .received .sigint (by decide) 7,
      .waitpid (.ok .stillAlive), .round 8 (oneFamily "10")]
    ∃ last, Reaper.run 1 10 .start answers = some last ∧
      signalsTo 10 2000000005 last.history <+: (receipts last.history).map Prod.fst ∧
      signalsTo 10 2000000005 last.history = [.sigterm, .sigint] := by
  intro answers
  have events : answers.filterMap Answer.event =
      [.receipt .sigterm 5, .round 6, .receipt .sigint 7, .round 8] := by decide
  have fresh : FreshRounds 2000000005 (answers.filterMap Answer.event) := by
    rw [events]
    intro before first middle second after split _
    -- The two rounds are the second and the fourth event.
    match before, middle with
    | [], _ => simp at split
    | [_], [] => simp at split
    | [_], _ :: _ =>
      simp only [List.cons_append, List.nil_append, List.cons.injEq] at split
      rw [← split.2.2.1]
      exact ⟨.sigint, 7, List.mem_cons_self⟩
    | [_, _], _ => simp at split
    | [_, _, _], _ => simp at split
    | _ :: _ :: _ :: _ :: _, _ => simp at split
  refine ⟨_, rfl, signals_forwarded_once 1 10 answers _ rfl (by decide) 10 .sigint 2000000005 rfl ?_
    fresh, rfl⟩
  intro now proc member _
  have same : proc = oneFamily "10" := by
    simp only [answers, List.mem_cons, reduceCtorEq, Answer.round.injEq, List.not_mem_nil, or_false,
      false_or] at member
    rcases member with first | second
    · exact first.2
    · exact second.2
  rw [same]
  exact ⟨by decide, .single ⟨[10], rfl, by decide⟩⟩

/-- The exit of another child makes the reaper send the same signal again. -/
theorem signal_forwarded_again :
    let answers : List Answer := [.waitpid (.ok .stillAlive), .received .sigterm (by decide) 5,
      .waitpid (.ok .stillAlive), .round 6 (oneFamily "10 11"), .received .sigchld (by decide) 7,
      .waitpid (.ok (.exited 11 0)), .waitpid (.ok .stillAlive), .round 8 (oneFamily "10")]
    (answers.filterMap Answer.time).Pairwise (· ≤ ·) ∧
    (∀ now proc, .round now proc ∈ answers → Relation.TransGen (Child proc) 1 10) ∧
    ∃ last, Reaper.run 1 10 .start answers = some last ∧
      due last.history = some (.sigterm, 2000000005) ∧
      (receipts last.history).map Prod.fst = [.sigterm] ∧
      signalsTo 10 2000000005 last.history = [.sigterm, .sigterm] ∧
      ¬ signalsTo 10 2000000005 last.history <+: (receipts last.history).map Prod.fst := by
  intro answers
  refine ⟨by decide, ?_, _, rfl, rfl, rfl, rfl, ?_⟩
  · intro now proc member
    have same : proc = oneFamily "10 11" ∨ proc = oneFamily "10" := by
      simp only [answers, List.mem_cons, reduceCtorEq, Answer.round.injEq, List.not_mem_nil,
        or_false, false_or] at member
      exact member.imp And.right And.right
    rcases same with first | second
    · rw [first]
      exact .single ⟨[10, 11], rfl, by decide⟩
    · rw [second]
      exact .single ⟨[10], rfl, by decide⟩
  · intro longer
    have short := longer.length_le
    contradiction

end NsProxy.Process
