import Mathlib.Algebra.Order.BigOperators.Group.List
import Mathlib.Algebra.Order.Group.Nat
import NsProxy.Lib.Worklist
import NsProxy.Process.Descendants

/-!
# Who is signalled

`signal_descendants` explores the graph of processes that the `children` files spell out. The
files of one process are read into the list of its children; with it the walk is an exploration
from a worklist, and its fuel, one step for each word of the files, is never used up. Everything
that can be reached is signalled once, last found first.
-/

namespace NsProxy.Process

/-! ## What the files say -/

/-- The children that one entry of a `task` directory lists. -/
def taskChildren : TaskEntry → Except Error (List Pid)
  | .error error => .error [error.text]
  | .ok (.error .notFound) => .ok []
  | .ok (.error error) => Error.context "list managed child processes" (.error [error.text])
  | .ok (.ok children) => (splitWhitespace children).mapM parseI32

/-- The children that the files of a process list; a process that is gone has none. -/
def childrenOf (proc : ProcTable) (pid : Pid) : Except Error (List Pid) :=
  match proc.tasks pid with
  | .error .notFound => .ok []
  | .error error => Error.context "list managed process threads" (.error [error.text])
  | .ok tasks => (tasks.mapM taskChildren).map List.flatten

/-- One process is listed as a child of another. -/
def Child (proc : ProcTable) (parent child : Pid) : Prop :=
  ∃ children, childrenOf proc parent = .ok children ∧ child ∈ children

/-- The files of a process can be read. -/
def Readable (proc : ProcTable) (pid : Pid) : Prop := ∃ children, childrenOf proc pid = .ok children

/-- `kill` succeeds, or reports that the process is gone. -/
def Tolerated (proc : ProcTable) (signal : Signal) (pid : Pid) : Prop :=
  proc.kill pid signal = .ok () ∨ proc.kill pid signal = .error .esrch

/-! ## One process of the walk -/

/-- A task is visited by pushing its children, where they can be read. -/
theorem visitTask_eq (walk : Walk) (task : TaskEntry) :
    visitTask walk task = (taskChildren task).map (List.foldl Walk.push walk) := by
  have words : ∀ state word, visitChild state word = (parseI32 word).map (Walk.push state) := by
    intro state word
    unfold visitChild
    cases parseI32 word <;> rfl
  cases task with
  | error error => rfl
  | ok file =>
    cases file with
    | error error => cases error <;> rfl
    | ok text => exact Error.foldlM_eq_mapM words (splitWhitespace text) walk

/-- A process is visited by adding the children that its files list. -/
theorem visit_eq (proc : ProcTable) (walk : Walk) (pid : Pid) :
    visit proc walk pid = (childrenOf proc pid).map (List.foldl Walk.push walk) := by
  unfold visit childrenOf
  cases proc.tasks pid with
  | error error => cases error <;> rfl
  | ok tasks =>
    dsimp only
    rw [Error.foldlM_eq_mapM visitTask_eq]
    cases tasks.mapM taskChildren with
    | error causes => rfl
    | ok lists =>
      simp only [Except.map]
      rw [List.foldl_flatten]

/-! ## The walk as an exploration -/

/-- The variables of the walk as a worklist. -/
def Walk.toWorklist (walk : Walk) : Worklist Pid := ⟨walk.pending, walk.descendants, walk.seen⟩

/-- The children that could be read. -/
def known (proc : ProcTable) (pid : Pid) : List Pid :=
  match childrenOf proc pid with
  | .ok children => children
  | .error _ => []

/-- The edges of the exploration are the children in the process table. -/
theorem edge_iff_child (proc : ProcTable) (parent child : Pid) :
    Worklist.Edge (known proc) parent child ↔ Child proc parent child := by
  unfold Worklist.Edge known Child
  cases childrenOf proc parent with
  | ok children => simp
  | error causes => simp

/-- The edge relation of the exploration is that of the process table. -/
theorem edge_known (proc : ProcTable) : Worklist.Edge (known proc) = Child proc := by
  funext parent child
  exact propext (edge_iff_child proc parent child)

/-- A push onto the walk is a push onto its worklist. -/
theorem toWorklist_push (walk : Walk) (child : Pid) :
    (walk.push child).toWorklist = walk.toWorklist.push child := by
  unfold Walk.push Worklist.push
  split
  · rename_i known
    rw [if_pos (show child ∈ walk.toWorklist.seen from known)]
  · rename_i fresh
    rw [if_neg (show child ∉ walk.toWorklist.seen from fresh)]
    rfl

/-- Pushes onto the walk are pushes onto its worklist. -/
theorem toWorklist_foldl (children : List Pid) (walk : Walk) :
    (children.foldl Walk.push walk).toWorklist =
      children.foldl Worklist.push walk.toWorklist := by
  induction children generalizing walk with
  | nil => rfl
  | cons child children ih => rw [List.foldl_cons, ih, toWorklist_push, List.foldl_cons]

/-- The processes taken from the worklist could be read. -/
def ReadDone (proc : ProcTable) (walk : Walk) : Prop :=
  ∀ pid ∈ walk.seen, pid ∉ walk.pending → Readable proc pid

/-- A step of the walk. -/
theorem walkDown_succ (proc : ProcTable) (steps : Nat) {walk : Walk} {pid : Pid} {rest : List Pid}
    (next : walk.pending = pid :: rest) :
    walkDown proc (steps + 1) walk =
      match childrenOf proc pid with
      | .ok children =>
        walkDown proc steps (children.foldl Walk.push { walk with pending := rest })
      | .error causes => .error causes := by
  rw [walkDown]
  simp only [next]
  rw [visit_eq]
  cases childrenOf proc pid with
  | ok children => rfl
  | error causes => rfl

/-- A walk that succeeds has explored, and could read all that it took from the worklist. -/
theorem walkDown_ok {proc : ProcTable} {steps : Nat} {walk last : Walk}
    (ran : walkDown proc steps walk = .ok last) :
    last.toWorklist = Worklist.explore (known proc) steps walk.toWorklist ∧
      (ReadDone proc walk → ReadDone proc last) := by
  induction steps generalizing walk with
  | zero =>
    have same : walk = last := Except.ok.inj ran
    rw [same]
    exact ⟨rfl, id⟩
  | succ steps ih =>
    cases pending : walk.pending with
    | nil =>
      rw [walkDown] at ran
      simp only [pending] at ran
      have same : walk = last := Except.ok.inj ran
      have empty : last.toWorklist.pending = [] := by rw [← same]; exact pending
      refine ⟨?_, by rw [same]; exact id⟩
      rw [same, Worklist.explore]
      simp only [empty]
    | cons pid rest =>
      rw [walkDown_succ proc steps pending] at ran
      cases listed : childrenOf proc pid with
      | error causes =>
        rw [listed] at ran
        contradiction
      | ok children =>
        rw [listed] at ran
        obtain ⟨explored, done⟩ := ih ran
        have named : known proc pid = children := by
          unfold known
          rw [listed]
        have taken : walk.toWorklist.pending = pid :: rest := pending
        refine ⟨?_, ?_⟩
        · rw [explored, toWorklist_foldl, Worklist.explore]
          simp only [taken, named]
          rfl
        · intro before
          apply done
          intro other seen idle
          have same := toWorklist_foldl children { walk with pending := rest }
          have member : other ∈ (children.foldl Worklist.push
              (Walk.toWorklist { walk with pending := rest })).seen := by
            rw [← same]
            exact seen
          have absent : other ∉ (children.foldl Worklist.push
              (Walk.toWorklist { walk with pending := rest })).pending := by
            rw [← same]
            exact idle
          obtain ⟨old, waiting⟩ := Worklist.done_foldl member absent
          by_cases here : other = pid
          · rw [here]
            exact ⟨children, listed⟩
          · apply before other old
            rw [pending]
            exact List.not_mem_cons_of_ne_of_not_mem here waiting

/-- A walk succeeds when everything that can be reached can be read. -/
theorem walkDown_of_readable {proc : ProcTable} {root : Pid}
    (readable : ∀ pid, Relation.ReflTransGen (Child proc) root pid → Readable proc pid)
    (steps : Nat) {walk : Walk} (sound : Worklist.Sound (known proc) root walk.toWorklist) :
    ∃ last, walkDown proc steps walk = .ok last := by
  induction steps generalizing walk with
  | zero => exact ⟨walk, rfl⟩
  | succ steps ih =>
    cases pending : walk.pending with
    | nil =>
      refine ⟨walk, ?_⟩
      rw [walkDown]
      simp only [pending]
    | cons pid rest =>
      have taken : walk.toWorklist.pending = pid :: rest := pending
      have reached : Relation.ReflTransGen (Child proc) root pid := by
        have member := sound.pending pid (by rw [taken]; exact List.mem_cons_self)
        rcases List.mem_cons.mp member with same | found
        · rw [same]
        · obtain ⟨before, after, split⟩ := List.append_of_mem found
          have path := sound.reachable split
          rw [edge_known] at path
          exact path.to_reflTransGen
      obtain ⟨children, listed⟩ := readable pid reached
      have named : known proc pid = children := by
        unfold known
        rw [listed]
      rw [walkDown_succ proc steps pending, listed]
      apply ih
      rw [toWorklist_foldl, ← named]
      exact sound.expand taken

/-! ## The fuel -/

/-- The children that one entry lists, as far as its words are numbers. -/
def taskNumbers : TaskEntry → List Pid
  | .ok (.ok children) => (splitWhitespace children).filterMap fun word => (parseI32 word).toOption
  | _ => []

/-- All children that the files list. -/
def listedPids (proc : ProcTable) : List Pid :=
  proc.listings.flatMap fun listing =>
    match listing.2 with
    | .error _ => []
    | .ok tasks => tasks.flatMap taskNumbers

/-- There are no more of them than words. -/
theorem length_listedPids_le (proc : ProcTable) : (listedPids proc).length ≤ proc.words := by
  have task : ∀ entry : TaskEntry, (taskNumbers entry).length ≤
      match entry with
      | .ok (.ok children) => (splitWhitespace children).length
      | _ => 0 := by
    intro entry
    cases entry with
    | error error => exact Nat.le_refl 0
    | ok file =>
      cases file with
      | error error => exact Nat.le_refl 0
      | ok text => exact List.length_filterMap_le _ _
  unfold listedPids ProcTable.words
  rw [List.length_flatMap]
  apply List.sum_le_sum
  intro listing _
  cases listing.2 with
  | error error => exact Nat.le_refl 0
  | ok tasks =>
    dsimp only
    rw [List.length_flatMap]
    exact List.sum_le_sum fun entry _ => task entry

/-- A process is gone, or its listing is in the table. -/
theorem tasks_listed (proc : ProcTable) (pid : Pid) :
    proc.tasks pid = .error .notFound ∨ (pid, proc.tasks pid) ∈ proc.listings := by
  unfold ProcTable.tasks
  cases looked : proc.listings.lookup pid with
  | none => exact Or.inl rfl
  | some listing =>
    right
    obtain ⟨before, after, split, _⟩ := List.lookup_eq_some_iff.mp looked
    rw [split]
    simp

/-- Every child of a process is listed. -/
theorem child_mem_listedPids {proc : ProcTable} {parent child : Pid}
    (edge : Child proc parent child) :
    child ∈ listedPids proc := by
  obtain ⟨children, listed, member⟩ := edge
  unfold childrenOf at listed
  cases found : proc.tasks parent with
  | error error =>
    rw [found] at listed
    cases error with
    | notFound =>
      rw [← Except.ok.inj listed] at member
      contradiction
    | other text => contradiction
  | ok tasks =>
    rw [found] at listed
    dsimp only at listed
    cases read : tasks.mapM taskChildren with
    | error causes =>
      rw [read] at listed
      contradiction
    | ok lists =>
      rw [read] at listed
      rw [← Except.ok.inj listed, List.mem_flatten] at member
      obtain ⟨list, inside, here⟩ := member
      obtain ⟨task, entry, spelled⟩ := Error.mem_of_mapM_eq_ok read inside
      have present := (tasks_listed proc parent).resolve_left (by rw [found]; simp)
      rw [found] at present
      have number : child ∈ taskNumbers task := by
        cases task with
        | error error => contradiction
        | ok file =>
          cases file with
          | error error =>
            cases error with
            | notFound =>
              rw [← Except.ok.inj spelled] at here
              contradiction
            | other text => contradiction
          | ok text =>
            obtain ⟨word, spoken, value⟩ := Error.mem_of_mapM_eq_ok spelled here
            exact List.mem_filterMap.mpr ⟨word, spoken, by rw [value]; rfl⟩
      exact List.mem_flatMap.mpr ⟨_, present, List.mem_flatMap.mpr ⟨task, entry, number⟩⟩

/-- The processes found from a root, in the order of their discovery. -/
def foundFrom (proc : ProcTable) (root : Pid) : List Pid :=
  (Worklist.explore (known proc) (proc.words + 1) (.start root)).found

/-- The fuel of the walk is not used up. -/
theorem walk_finishes (proc : ProcTable) (root : Pid) :
    (Worklist.explore (known proc) (proc.words + 1) (.start root)).pending = [] := by
  apply Worklist.pending_explore (listedPids proc) _ _ Worklist.sound_start
  · have bound := length_listedPids_le proc
    simp only [Worklist.start, List.length_cons, List.length_nil]
    omega
  · intro source target edge
    exact child_mem_listedPids ((edge_iff_child proc source target).mp edge)

/-- What is found is what can be reached, apart from the root. -/
theorem mem_foundFrom (proc : ProcTable) (root pid : Pid) :
    pid ∈ foundFrom proc root ↔ pid ≠ root ∧ Relation.TransGen (Child proc) root pid := by
  rw [foundFrom, Worklist.mem_found_explore (walk_finishes proc root), edge_known]

/-- The walk succeeds exactly when everything that can be reached can be read, and then has found
it all. -/
theorem walkDown_root (proc : ProcTable) (root : Pid) :
    ((∃ last, walkDown proc (proc.words + 1) ⟨[root], [], {root}⟩ = .ok last) ↔
      ∀ pid, Relation.ReflTransGen (Child proc) root pid → Readable proc pid) ∧
    ∀ last, walkDown proc (proc.words + 1) ⟨[root], [], {root}⟩ = .ok last →
      last.pending = [] ∧ last.descendants = foundFrom proc root := by
  have explored : ∀ last, walkDown proc (proc.words + 1) ⟨[root], [], {root}⟩ = .ok last →
      last.toWorklist = Worklist.explore (known proc) (proc.words + 1) (.start root) ∧
        ReadDone proc last := by
    intro last ran
    obtain ⟨same, done⟩ := walkDown_ok ran
    refine ⟨same, done ?_⟩
    intro pid seen idle
    rw [Finset.mem_singleton] at seen
    rw [List.mem_singleton] at idle
    exact absurd seen idle
  have finished := walk_finishes proc root
  refine ⟨⟨?_, ?_⟩, ?_⟩
  · rintro ⟨last, ran⟩ pid path
    obtain ⟨same, done⟩ := explored last ran
    have sound : Worklist.Sound (known proc) root last.toWorklist := by
      rw [same]
      exact Worklist.sound_explore _
    apply done pid
    · apply (sound.seen pid).mpr
      rcases Relation.reflTransGen_iff_eq_or_transGen.mp path with self | steps
      · rw [self]
        exact List.mem_cons_self
      · by_cases self : pid = root
        · rw [self]
          exact List.mem_cons_self
        · apply List.mem_cons_of_mem
          rw [same]
          exact (mem_foundFrom proc root pid).mpr ⟨self, steps⟩
    · have empty : last.toWorklist.pending = [] := by rw [same]; exact finished
      show pid ∉ last.toWorklist.pending
      rw [empty]
      exact List.not_mem_nil
  · intro readable
    exact walkDown_of_readable readable _ Worklist.sound_start
  · intro last ran
    obtain ⟨same, _⟩ := explored last ran
    constructor
    · show last.toWorklist.pending = []
      rw [same]
      exact finished
    · show last.toWorklist.found = _
      rw [same]
      rfl

/-! ## The signals -/

/-- Forwarding succeeds exactly where `kill` does, or where the process is gone. -/
theorem forwardSignal_ok_iff (proc : ProcTable) (pid : Pid) (signal : Signal) :
    forwardSignal proc pid signal = .ok () ↔ Tolerated proc signal pid := by
  unfold forwardSignal Tolerated
  cases proc.kill pid signal with
  | ok done => simp
  | error error => cases error <;> simp

/-- The loop calls `kill` in order, for all of the processes exactly when each call is
tolerated. -/
theorem forwardAll_spec (proc : ProcTable) (signal : Signal) (pids : List Pid) :
    (forwardAll proc signal pids).1 <+: pids ∧
      ((forwardAll proc signal pids).2 = .ok () ↔ ∀ pid ∈ pids, Tolerated proc signal pid) ∧
      ((forwardAll proc signal pids).2 = .ok () → (forwardAll proc signal pids).1 = pids) := by
  induction pids with
  | nil => exact ⟨List.prefix_refl _, by simp [forwardAll], fun _ => rfl⟩
  | cons pid pids ih =>
    obtain ⟨start, tolerated, whole⟩ := ih
    have here := forwardSignal_ok_iff proc pid signal
    cases forwarded : forwardSignal proc pid signal with
    | error causes =>
      have stopped : ¬ Tolerated proc signal pid := by
        rw [← here, forwarded]
        simp
      simp only [forwardAll, forwarded]
      refine ⟨?_, ?_, ?_⟩
      · exact List.cons_prefix_cons.mpr ⟨rfl, List.nil_prefix⟩
      · simp [stopped]
      · intro impossible
        contradiction
    | ok done =>
      have passed : Tolerated proc signal pid := here.mp forwarded
      simp only [forwardAll, forwarded]
      refine ⟨List.cons_prefix_cons.mpr ⟨rfl, start⟩, ?_, ?_⟩
      · rw [tolerated]
        simp [passed]
      · intro succeeded
        rw [whole succeeded]

/-- What one call does: it calls `kill` for processes found, last found first; it succeeds exactly
when all that can be reached can be read and signalled, and then has called `kill` for all. -/
theorem signalDescendants_spec (proc : ProcTable) (root : Pid) (signal : Signal) :
    (signalDescendants proc root signal).1 <+: (foundFrom proc root).reverse ∧
    ((signalDescendants proc root signal).2 = .ok () ↔
      (∀ pid, Relation.ReflTransGen (Child proc) root pid → Readable proc pid) ∧
        ∀ pid ∈ foundFrom proc root, Tolerated proc signal pid) ∧
    ((signalDescendants proc root signal).2 = .ok () →
      (signalDescendants proc root signal).1 = (foundFrom proc root).reverse) := by
  obtain ⟨readable, complete⟩ := walkDown_root proc root
  unfold signalDescendants
  cases ran : walkDown proc (proc.words + 1) ⟨[root], [], {root}⟩ with
  | error causes =>
    have unread : ¬ ∀ pid, Relation.ReflTransGen (Child proc) root pid → Readable proc pid := by
      rw [← readable, ran]
      simp
    refine ⟨List.nil_prefix, ?_, ?_⟩
    · simp only [reduceCtorEq, false_iff, not_and]
      intro all
      exact absurd all unread
    · intro impossible
      contradiction
  | ok last =>
    obtain ⟨_, same⟩ := complete last ran
    have read := readable.mp ⟨last, ran⟩
    dsimp only
    rw [same]
    obtain ⟨start, tolerated, whole⟩ := forwardAll_spec proc signal (foundFrom proc root).reverse
    refine ⟨start, ?_, whole⟩
    rw [tolerated]
    simp only [List.mem_reverse]
    exact ⟨fun signalled => ⟨read, signalled⟩, fun both => both.2⟩

/-! ## The tree -/

/-- The processes are a forest: each has at most one parent, and none descends from itself. -/
def Forest (proc : ProcTable) : Prop :=
  (∀ first second child, Child proc first child → Child proc second child → first = second) ∧
    ∀ pid, ¬ Relation.TransGen (Child proc) pid pid

/-- The exploration of the process table is sound. -/
theorem sound_foundFrom (proc : ProcTable) (root : Pid) :
    Worklist.Sound (known proc) root
      (Worklist.explore (known proc) (proc.words + 1) (.start root)) :=
  Worklist.sound_explore _

/-- No process is found twice. -/
theorem nodup_foundFrom (proc : ProcTable) (root : Pid) : (foundFrom proc root).Nodup :=
  (List.nodup_cons.mp (sound_foundFrom proc root).nodup).2

/-- In a forest a process is found behind its parent. -/
theorem parent_found_first {proc : ProcTable} {root parent child : Pid} (forest : Forest proc)
    (edge : Child proc parent child) (found : parent ∈ foundFrom proc root) :
    ∃ before middle after,
      foundFrom proc root = before ++ parent :: (middle ++ child :: after) := by
  obtain ⟨other, path⟩ := (mem_foundFrom proc root parent).mp found
  have below : Relation.TransGen (Child proc) root child := path.tail edge
  have member : child ∈ foundFrom proc root := by
    rw [mem_foundFrom]
    refine ⟨?_, below⟩
    intro same
    rw [same] at below
    exact forest.2 root below
  obtain ⟨before, after, split⟩ := List.append_of_mem member
  obtain ⟨source, inside, discovers⟩ :=
    (sound_foundFrom proc root).discovered before child after split
  have same : source = parent :=
    forest.1 source parent child ((edge_iff_child proc source child).mp discovers) edge
  rw [same] at inside
  obtain ⟨first, second, parts⟩ := List.append_of_mem (List.mem_of_ne_of_mem other inside)
  refine ⟨first, second, after, ?_⟩
  rw [split, parts, List.append_assoc, List.cons_append]

/-- An element of a start of a list without repetitions is preceded there by what precedes it in
the list. -/
theorem prefix_of_nodup {α : Type} {start before after : List α} {item : α}
    (begins : start <+: before ++ item :: after) (distinct : (before ++ item :: after).Nodup)
    (member : item ∈ start) : ∃ rest, start = before ++ item :: rest := by
  obtain ⟨left, right, split⟩ := List.append_of_mem member
  obtain ⟨tail, whole⟩ := begins
  rw [split, List.append_assoc, List.cons_append] at whole
  rw [← whole] at distinct
  have parts := List.nodup_append.mp distinct
  have early : item ∉ left := fun inside => parts.2.2 item inside item List.mem_cons_self rfl
  have late : item ∉ right ++ tail := (List.nodup_cons.mp parts.2.1).1
  have same := (List.append_cons_inj_of_notMem early late).mp whole
  exact ⟨right, by rw [split, same.1]⟩

/-- For every process table whose files can be read, in whatever way the children are spread over
threads, repeated or listed in cycles: the walk comes to its end, `kill` is called at most once
for a process, only for processes that can be reached and never for the root; it is called for all
of them unless a call fails for another reason than that the process is gone; and in a forest it
is called for a process before it is called for its parent. -/
theorem signals_cover_tree (proc : ProcTable) (root : Pid) (signal : Signal)
    (listed : ∀ pid, Relation.ReflTransGen (Child proc) root pid → Readable proc pid) :
    let outcome := signalDescendants proc root signal
    (∃ walk, walkDown proc (proc.words + 1) ⟨[root], [], {root}⟩ = .ok walk ∧ walk.pending = []) ∧
    outcome.1.Nodup ∧
    (∀ pid ∈ outcome.1, pid ≠ root ∧ Relation.TransGen (Child proc) root pid) ∧
    ((∀ pid, Relation.TransGen (Child proc) root pid → Tolerated proc signal pid) →
      outcome.2 = .ok () ∧
        ∀ pid, pid ≠ root → Relation.TransGen (Child proc) root pid → pid ∈ outcome.1) ∧
    (Forest proc → ∀ parent child, Child proc parent child → parent ∈ outcome.1 →
      ∃ before middle after, outcome.1 = before ++ child :: (middle ++ parent :: after)) := by
  intro outcome
  obtain ⟨start, succeeds, whole⟩ := signalDescendants_spec proc root signal
  have distinct : (foundFrom proc root).reverse.Nodup :=
    List.nodup_reverse.mpr (nodup_foundFrom proc root)
  have inside : ∀ pid ∈ outcome.1, pid ∈ foundFrom proc root := by
    intro pid member
    exact List.mem_reverse.mp (start.subset member)
  refine ⟨?_, ?_, ?_, ?_, ?_⟩
  · obtain ⟨readable, complete⟩ := walkDown_root proc root
    obtain ⟨walk, ran⟩ := readable.mpr listed
    exact ⟨walk, ran, (complete walk ran).1⟩
  · exact start.sublist.nodup distinct
  · intro pid member
    exact (mem_foundFrom proc root pid).mp (inside pid member)
  · intro tolerated
    have done : outcome.2 = .ok () := by
      apply succeeds.mpr
      refine ⟨listed, ?_⟩
      intro pid member
      exact tolerated pid ((mem_foundFrom proc root pid).mp member).2
    refine ⟨done, ?_⟩
    intro pid other path
    rw [show outcome.1 = _ from whole done, List.mem_reverse]
    exact (mem_foundFrom proc root pid).mpr ⟨other, path⟩
  · intro forest parent child edge member
    obtain ⟨before, middle, after, split⟩ := parent_found_first forest edge (inside parent member)
    have backward : (foundFrom proc root).reverse =
        (after.reverse ++ child :: middle.reverse) ++ parent :: before.reverse := by
      rw [split]
      simp
    rw [backward] at start distinct
    obtain ⟨rest, same⟩ := prefix_of_nodup start distinct member
    refine ⟨after.reverse, middle.reverse, rest, ?_⟩
    rw [show outcome.1 = _ from same, List.append_assoc, List.cons_append]

/-- Two threads that list the same child, and a cycle below it. -/
theorem signals_cover_tree_cycle :
    let proc : ProcTable := ⟨[(1, .ok [.ok (.ok "10 11 "), .ok (.ok "10")]),
      (10, .ok [.ok (.ok "12")]), (12, .ok [.ok (.ok "10 1"), .ok (.error .notFound)])],
      fun _ _ => .ok ()⟩
    (signalDescendants proc 1 .sigterm).1 = [12, 11, 10] ∧
      (signalDescendants proc 1 .sigterm).1.Nodup ∧
      12 ∈ (signalDescendants proc 1 .sigterm).1 := by
  intro proc
  have root : childrenOf proc 1 = .ok [10, 11, 10] := by rfl
  have middle : childrenOf proc 10 = .ok [12] := by rfl
  have listed : ∀ pid, Relation.ReflTransGen (Child proc) 1 pid → Readable proc pid := by
    intro pid _
    by_cases first : pid = 1
    · exact ⟨_, by rw [first]; exact root⟩
    by_cases second : pid = 10
    · exact ⟨_, by rw [second]; exact middle⟩
    by_cases third : pid = 12
    · exact ⟨[10, 1], by rw [third]; rfl⟩
    · have gone : proc.tasks pid = .error .notFound := by
        simp [proc, ProcTable.tasks, List.lookup_cons, beq_eq_false_iff_ne.mpr first,
          beq_eq_false_iff_ne.mpr second, beq_eq_false_iff_ne.mpr third]
      exact ⟨[], by rw [childrenOf, gone]⟩
  have path : Relation.TransGen (Child proc) 1 12 :=
    (Relation.TransGen.single ⟨_, root, by decide⟩).tail ⟨_, middle, by decide⟩
  obtain ⟨_, distinct, _, complete, _⟩ := signals_cover_tree proc 1 .sigterm listed
  obtain ⟨_, all⟩ := complete fun _ _ => Or.inl rfl
  exact ⟨by rfl, distinct, all 12 (by decide) path⟩

end NsProxy.Process
