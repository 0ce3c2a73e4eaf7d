import NsProxy.Process.Coverage
import NsProxy.Process.Reaper

/-!
# The reaper and its descendants

A descendant may exit at any moment of a round, and each access to its files then reports that in
its own way. `signal_descendants` passes over a listing or a `children` file that is not found; it
returns an error for an entry of a listing that cannot be read, and wherever the answer is that
there is no such process. A round that fails ends the reaper, whatever is still running.
-/

namespace NsProxy.Process

/-- The error of `ESRCH` for an access to `/proc`. -/
def ProcError.noSuchProcess : ProcError := .other "No such process (os error 3)"

/-- An error that a process which exits meanwhile causes. -/
def ProcError.IsRace (error : ProcError) : Prop := error = .notFound ∨ error = .noSuchProcess

/-- A table whose only errors come from processes that exit meanwhile. -/
structure RaceOnly (proc : ProcTable) : Prop where
  /-- Listings. -/
  listing : ∀ pid error, proc.tasks pid = .error error → error.IsRace
  /-- Entries of listings. -/
  entry : ∀ pid tasks error, proc.tasks pid = .ok tasks → .error error ∈ tasks → error.IsRace
  /-- The `children` files. -/
  file : ∀ pid tasks error, proc.tasks pid = .ok tasks → .ok (.error error) ∈ tasks → error.IsRace
  /-- The files hold process ids. -/
  words : ∀ pid tasks text, proc.tasks pid = .ok tasks → .ok (.ok text) ∈ tasks →
    ∀ word ∈ splitWhitespace text, ∃ number, parseI32 word = .ok number
  /-- `kill`. -/
  kill : ∀ pid signal error, proc.kill pid signal = .error error → error = .esrch

/-- Answers of a system on which only descendants that exit get in the way. -/
def Answer.Expected : Answer → Prop
  | .waitpid (.ok _) => True
  | .waitpid (.error errno) => errno = .eintr ∨ errno = .echild
  | .round _ proc => RaceOnly proc
  | .interrupted errno => errno = .eintr ∨ errno = .eagain
  | .received _ _ _ => True

/-- The listing of a process and its `children` files fail only by not being found, and the
entries of the listing not at all. -/
def MissingOnly (proc : ProcTable) (pid : Pid) : Prop :=
  (∀ error, proc.tasks pid = .error error → error = .notFound) ∧
    ∀ tasks, proc.tasks pid = .ok tasks → ∀ task ∈ tasks,
      ∃ file, task = .ok file ∧ ∀ error, file = .error error → error = .notFound

/-! ## What can be read -/

/-- An entry can be read when it is there and its file is there or not found. -/
theorem taskChildren_ok_iff {task : TaskEntry}
    (words : ∀ text, task = .ok (.ok text) →
      ∀ word ∈ splitWhitespace text, ∃ number, parseI32 word = .ok number) :
    (∃ children, taskChildren task = .ok children) ↔
      ∃ file, task = .ok file ∧ ∀ error, file = .error error → error = .notFound := by
  cases task with
  | error error => simp [taskChildren]
  | ok file =>
    cases file with
    | error error =>
      cases error with
      | notFound => simp [taskChildren]
      | other text => simp [taskChildren, Error.context]
    | ok text =>
      have numbers := (Error.mapM_ok_iff (splitWhitespace text)).mpr (words text rfl)
      simpa [taskChildren] using numbers

/-- A process can be read when nothing of it fails otherwise than by not being found. -/
theorem readable_iff_missingOnly {proc : ProcTable} (races : RaceOnly proc) (pid : Pid) :
    Readable proc pid ↔ MissingOnly proc pid := by
  unfold Readable MissingOnly childrenOf
  cases listed : proc.tasks pid with
  | error error =>
    cases error with
    | notFound => simp
    | other text => simp [Error.context]
  | ok tasks =>
    have entries : (∃ values, tasks.mapM taskChildren = .ok values) ↔
        ∀ task ∈ tasks, ∃ file, task = .ok file ∧ ∀ error, file = .error error →
          error = .notFound := by
      rw [Error.mapM_ok_iff]
      apply forall₂_congr
      intro task member
      apply taskChildren_ok_iff
      intro text same
      rw [same] at member
      exact races.words pid tasks text listed member
    have flattened : (∃ children, (tasks.mapM taskChildren).map List.flatten = .ok children) ↔
        ∃ values, tasks.mapM taskChildren = .ok values := by
      cases tasks.mapM taskChildren with
      | error causes => simp [Except.map]
      | ok values => simp [Except.map]
    dsimp only
    rw [flattened, entries]
    simp

/-- A round of such a system succeeds exactly when no process in reach fails otherwise. -/
theorem round_ok_iff {proc : ProcTable} (races : RaceOnly proc) (root : Pid) (signal : Signal) :
    (signalDescendants proc root signal).2 = .ok () ↔
      ∀ pid, Relation.ReflTransGen (Child proc) root pid → MissingOnly proc pid := by
  have tolerated : ∀ pid, Tolerated proc signal pid := by
    intro pid
    unfold Tolerated
    cases killed : proc.kill pid signal with
    | ok done => exact Or.inl rfl
    | error error => exact Or.inr (by rw [races.kill pid signal error killed])
  rw [(signalDescendants_spec proc root signal).2.1]
  constructor
  · rintro ⟨readable, _⟩ pid path
    exact (readable_iff_missingOnly races pid).mp (readable pid path)
  · intro missing
    refine ⟨?_, fun pid _ => tolerated pid⟩
    intro pid path
    exact (readable_iff_missingOnly races pid).mpr (missing pid path)

/-! ## When the reaper returns -/

namespace Reaper

/-- If the reaper has returned, `waitpid` has just reported that there are no children left. -/
def Outlives (reaper : Reaper) : Prop :=
  ∀ result, reaper.control = .returned result →
    reaper.history.getLast? = some (.reaped (.error .echild))

/-- Standing at another call. -/
theorem outlives_of_running {reaper : Reaper}
    (running : ∀ result, reaper.control ≠ .returned result) : reaper.Outlives :=
  fun result returned => absurd returned (running result)

/-- The match on an expected result of `waitpid` returns only for `ECHILD`. -/
theorem outlives_reap {reaper : Reaper} {commandPid : Pid} (result : Except Errno WaitStatus)
    (standing : reaper.control = .reaping) (expected : (Answer.waitpid result).Expected) :
    ((reaper.log (.reaped result)).reap commandPid result).Outlives := by
  rcases reap_cases commandPid (reaper.log (.reaped result)) result with ⟨code, same⟩ |
    ⟨-, same⟩ | ⟨signal, deadline, -, same⟩ | ⟨errno, ended, failed, gone, -, same⟩
  · rw [same]
    exact outlives_of_running (by simp [standing])
  · rw [same]
    exact outlives_of_running (by simp)
  · rw [same]
    exact outlives_of_running (by simp)
  · rw [failed] at expected
    have finished : errno = .echild := expected.resolve_left gone
    rw [same, failed, finished]
    intro _ _
    exact List.getLast?_concat

/-- A round ends the reaper exactly when a process in reach fails otherwise. -/
theorem outlives_forward {reaper : Reaper} {root : Pid} {signal : Signal} {deadline now : Nat}
    {proc : ProcTable} (races : RaceOnly proc) :
    (reaper.forward root signal deadline now proc).Outlives ↔
      ∀ pid, Relation.ReflTransGen (Child proc) root pid → MissingOnly proc pid := by
  obtain ⟨sent, result, outcome, ends⟩ := forward_cases root reaper signal deadline now proc
  rw [← round_ok_iff races root (if now < deadline then signal else .sigkill), outcome]
  rcases ends with ⟨causes, failed, stopped⟩ | ⟨timeout, succeeded, waits⟩
  · rw [stopped, failed]
    constructor
    · intro outlives
      have last := outlives (.error causes) rfl
      rw [goto_history, log_history, List.getLast?_concat] at last
      simp at last
    · intro impossible
      contradiction
  · rw [waits, succeeded]
    exact ⟨fun _ => rfl, fun _ => outlives_of_running (by simp)⟩

/-- A step that can be taken starts before the reaper has returned. -/
theorem running_of_step {root commandPid : Pid} {reaper next : Reaper} {answer : Answer}
    (taken : step root commandPid reaper answer = some next) (result : Except Error Int) :
    reaper.control ≠ .returned result := by
  intro returned
  rcases step_cases taken with ⟨_, standing, _⟩ | ⟨_, _, _, _, standing, _⟩ |
    ⟨_, _, standing, _⟩ | ⟨_, _, _, _, standing, _⟩
  all_goals
    rw [returned] at standing
    contradiction

/-- An expected answer ends the reaper too early exactly when it is a round in which a process in
reach fails otherwise. -/
theorem outlives_step {root commandPid : Pid} {reaper next : Reaper} {answer : Answer}
    (taken : step root commandPid reaper answer = some next) (expected : answer.Expected) :
    next.Outlives ↔ ∀ now proc, answer = .round now proc →
      ∀ pid, Relation.ReflTransGen (Child proc) root pid → MissingOnly proc pid := by
  rcases step_cases taken with ⟨result, standing, same, rfl⟩ |
    ⟨signal, deadline, now, proc, _, same, rfl⟩ | ⟨timeout, errno, _, same, rfl⟩ |
    ⟨timeout, signal, managed, now, _, same, rfl⟩
  · rw [same] at expected ⊢
    refine ⟨fun _ now proc impossible => by contradiction, fun _ => ?_⟩
    exact outlives_reap result standing expected
  · rw [same] at expected ⊢
    rw [outlives_forward expected]
    constructor
    · intro missing time table rounded
      cases rounded
      exact missing
    · intro only
      exact only now proc rfl
  · rw [same] at expected ⊢
    refine ⟨fun _ now proc impossible => by contradiction, fun _ => ?_⟩
    apply outlives_of_running
    rcases expected with rfl | rfl
    · simp [Reaper.interrupt]
    · simp [Reaper.interrupt]
  · rw [same]
    refine ⟨fun _ now proc impossible => by contradiction, fun _ => ?_⟩
    exact outlives_of_running (by simp)

end Reaper

/-- On every system on which only descendants that exit get in the way, the reaper returns only
after `waitpid` has reported that no children are left, exactly if in no round a process in reach
fails otherwise than by a listing or a `children` file that is not found. -/
theorem reaper_outlives_descendants_iff (root commandPid : Pid) (answers : List Answer)
    (last : Reaper) (ran : Reaper.run root commandPid .start answers = some last)
    (expected : ∀ answer ∈ answers, answer.Expected) :
    last.Outlives ↔ ∀ now proc, .round now proc ∈ answers →
      ∀ pid, Relation.ReflTransGen (Child proc) root pid → MissingOnly proc pid := by
  induction answers using List.reverseRecOn generalizing last with
  | nil =>
    have same : Reaper.start = last := by simpa [Reaper.run] using ran
    rw [← same]
    constructor
    · intro _ now proc member
      contradiction
    · intro _
      exact Reaper.outlives_of_running (by simp [Reaper.start])
  | append_singleton earlier final ih =>
    obtain ⟨before, started, taken⟩ := Reaper.run_append ran
    have before_expected : ∀ answer ∈ earlier, answer.Expected :=
      fun answer member => expected answer (List.mem_append_left _ member)
    -- The reaper was still running, so no earlier round has failed.
    have calm := (ih before started before_expected).mp
      (Reaper.outlives_of_running (Reaper.running_of_step taken))
    have rounds : (∀ now proc, .round now proc ∈ earlier ++ [final] →
        ∀ pid, Relation.ReflTransGen (Child proc) root pid → MissingOnly proc pid) ↔
        ∀ now proc, final = .round now proc →
          ∀ pid, Relation.ReflTransGen (Child proc) root pid → MissingOnly proc pid := by
      constructor
      · intro all now proc same
        exact all now proc (by rw [same]; simp)
      · intro only now proc member
        rcases List.mem_append.mp member with old | new
        · exact calm now proc old
        · exact only now proc (List.mem_singleton.mp new).symm
    rw [rounds]
    exact Reaper.outlives_step taken (expected final (by simp))

/-- A table of one child, which is gone by the time its own listing is opened. -/
def vanishedChild : ProcTable := ⟨[(1, .ok [.ok (.ok "10")])], fun _ _ => .ok ()⟩

/-- Two children, of which one exits while its listing is opened; the other lives on. -/
def vanishingChild : ProcTable :=
  ⟨[(1, .ok [.ok (.ok "10 11")]), (10, .error .noSuchProcess), (11, .ok [.ok (.ok "")])],
    fun _ _ => .ok ()⟩

/-- A table of readable files and of listings that a child which exits makes fail. -/
theorem raceOnly_vanishing (proc : ProcTable) (kills : ∀ pid signal, proc.kill pid signal = .ok ())
    (listings : ∀ pid, (∃ text, proc.tasks pid = .ok [.ok (.ok text)] ∧
        ∀ word ∈ splitWhitespace text, ∃ number, parseI32 word = .ok number) ∨
      ∃ error, proc.tasks pid = .error error ∧ error.IsRace) :
    RaceOnly proc where
  listing pid error failed := by
    rcases listings pid with ⟨text, same, _⟩ | ⟨cause, same, race⟩
    all_goals
      rw [same] at failed
      cases failed
    exact race
  entry pid tasks error found member := by
    rcases listings pid with ⟨text, same, _⟩ | ⟨cause, same, _⟩
    all_goals
      rw [same] at found
      cases found
    simp at member
  file pid tasks error found member := by
    rcases listings pid with ⟨text, same, _⟩ | ⟨cause, same, _⟩
    all_goals
      rw [same] at found
      cases found
    simp at member
  words pid tasks text found member := by
    rcases listings pid with ⟨written, same, numbers⟩ | ⟨cause, same, _⟩
    all_goals
      rw [same] at found
      cases found
    have only : text = written := by simpa using member
    rw [only]
    exact numbers
  kill pid signal error killed := by
    rw [kills] at killed
    contradiction

/-- The words of a file with one child are numbers. -/
theorem words_one_child (word : String) (member : word ∈ splitWhitespace "10") :
    ∃ number, parseI32 word = .ok number := by
  have single : splitWhitespace "10" = ["10"] := by decide
  rw [single, List.mem_singleton] at member
  exact ⟨10, by rw [member]; rfl⟩

/-- The words of a file with two children are numbers. -/
theorem words_two_children (word : String) (member : word ∈ splitWhitespace "10 11") :
    ∃ number, parseI32 word = .ok number := by
  have pair : splitWhitespace "10 11" = ["10", "11"] := by decide
  rw [pair, List.mem_cons, List.mem_singleton] at member
  rcases member with same | same
  · exact ⟨10, by rw [same]; rfl⟩
  · exact ⟨11, by rw [same]; rfl⟩

/-- A termination signal, a round in which the child is gone, and the end of the children. -/
theorem reaper_outlives_vanished_child :
    let answers : List Answer := [.waitpid (.ok .stillAlive), .received .sigterm (by decide) 5,
      .waitpid (.ok .stillAlive), .round 6 vanishedChild, .received .sigchld (by decide) 7,
      .waitpid (.ok (.exited 10 0)), .waitpid (.error .echild)]
    ∃ last, Reaper.run 1 10 .start answers = some last ∧ last.Outlives ∧
      last.control = .returned (.ok 0) := by
  intro answers
  have tasks : ∀ pid, vanishedChild.tasks pid = .ok [.ok (.ok "10")] ∨
      vanishedChild.tasks pid = .error .notFound := by
    intro pid
    rcases tasks_listed vanishedChild pid with gone | listed
    · exact Or.inr gone
    · have same : pid = 1 ∧ vanishedChild.tasks pid = .ok [.ok (.ok "10")] := by
        simpa [vanishedChild] using listed
      exact Or.inl same.2
  have races : RaceOnly vanishedChild :=
    raceOnly_vanishing vanishedChild (fun _ _ => rfl) fun pid => by
      rcases tasks pid with listed | gone
      · exact Or.inl ⟨"10", listed, words_one_child⟩
      · exact Or.inr ⟨.notFound, gone, Or.inl rfl⟩
  have expected : ∀ answer ∈ answers, answer.Expected := by
    simp only [answers, List.forall_mem_cons, Answer.Expected, true_and]
    exact ⟨races, by simp⟩
  have missing : ∀ pid, MissingOnly vanishedChild pid := by
    intro pid
    rcases tasks pid with listed | gone
    · simp [MissingOnly, listed]
    · simp [MissingOnly, gone]
  refine ⟨_, rfl, (reaper_outlives_descendants_iff 1 10 answers _ rfl expected).mpr ?_, rfl⟩
  intro now proc member pid _
  have same : proc = vanishedChild := by
    simp only [answers, List.mem_cons, reduceCtorEq, Answer.round.injEq, List.not_mem_nil, or_false,
      false_or] at member
    exact member.2
  rw [same]
  exact missing pid

/-- The reaper returns an error when a child exits while its listing is opened, although another
child lives on. -/
theorem reaper_gives_up_on_vanishing_child :
    let answers : List Answer := [.waitpid (.ok .stillAlive), .received .sigterm (by decide) 5,
      .waitpid (.ok .stillAlive), .round 6 vanishingChild]
    ∃ last, Reaper.run 1 10 .start answers = some last ∧ (∀ answer ∈ answers, answer.Expected) ∧
      last.control = .returned
        (.error ["list managed process threads", "No such process (os error 3)"]) ∧
      .reaped (.error .echild) ∉ last.history ∧ ¬ last.Outlives := by
  intro answers
  have races : RaceOnly vanishingChild := by
    apply raceOnly_vanishing vanishingChild (fun _ _ => rfl)
    intro pid
    rcases tasks_listed vanishingChild pid with gone | listed
    · exact Or.inr ⟨.notFound, gone, Or.inl rfl⟩
    · have same : pid = 1 ∧ vanishingChild.tasks pid = .ok [.ok (.ok "10 11")] ∨
          pid = 10 ∧ vanishingChild.tasks pid = .error .noSuchProcess ∨
          pid = 11 ∧ vanishingChild.tasks pid = .ok [.ok (.ok "")] := by
        simpa [vanishingChild] using listed
      rcases same with root | child | other
      · exact Or.inl ⟨"10 11", root.2, words_two_children⟩
      · exact Or.inr ⟨.noSuchProcess, child.2, Or.inr rfl⟩
      · exact Or.inl ⟨"", other.2, by simp [show splitWhitespace "" = [] by decide]⟩
  have expected : ∀ answer ∈ answers, answer.Expected := by
    simp only [answers, List.forall_mem_cons, Answer.Expected, true_and]
    exact ⟨races, by simp⟩
  have history : (.reaped (.error .echild) : Act) ∉ [Act.reaped (.ok .stillAlive), .wait none,
      .received .sigterm 5, .reaped (.ok .stillAlive),
      .round 6 .sigterm [] (.error
        ["list managed process threads", "No such process (os error 3)"])] := by
    simp
  refine ⟨_, rfl, expected, rfl, history, ?_⟩
  intro outlives
  have last := outlives _ rfl
  exact history (List.mem_of_getLast? last)

end NsProxy.Process
