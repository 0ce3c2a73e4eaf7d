import Mathlib.Algebra.GroupWithZero.Nat
import Mathlib.Data.Finset.Basic
import NsProxy.Net.Parse

/-!
# Signals to the managed process tree

The second half of `process.rs`: `signal_descendants` walks `/proc` from the reaper down and
sends one signal to everything it found, last found first. What the file system and `kill`
answer during one call is an argument; every process is listed at most once in a call, so the
answers are a table.
-/

namespace NsProxy.Process

/-- `nix::unistd::Pid`. -/
abbrev Pid : Type := Int

/-- `nix::sys::signal::Signal`. -/
inductive Signal
  | sighup
  | sigint
  | sigquit
  | sigill
  | sigtrap
  | sigabrt
  | sigbus
  | sigfpe
  | sigkill
  | sigusr1
  | sigsegv
  | sigusr2
  | sigpipe
  | sigalrm
  | sigterm
  | sigstkflt
  | sigchld
  | sigcont
  | sigstop
  | sigtstp
  | sigttin
  | sigttou
  | sigurg
  | sigxcpu
  | sigxfsz
  | sigvtalrm
  | sigprof
  | sigwinch
  | sigio
  | sigpwr
  | sigsys
  deriving DecidableEq, Repr

namespace Signal

/-- The signals in the order of their numbers, with their names. -/
def table : List (Signal × String) :=
  [(sighup, "SIGHUP"), (sigint, "SIGINT"), (sigquit, "SIGQUIT"), (sigill, "SIGILL"),
    (sigtrap, "SIGTRAP"), (sigabrt, "SIGABRT"), (sigbus, "SIGBUS"), (sigfpe, "SIGFPE"),
    (sigkill, "SIGKILL"), (sigusr1, "SIGUSR1"), (sigsegv, "SIGSEGV"), (sigusr2, "SIGUSR2"),
    (sigpipe, "SIGPIPE"), (sigalrm, "SIGALRM"), (sigterm, "SIGTERM"), (sigstkflt, "SIGSTKFLT"),
    (sigchld, "SIGCHLD"), (sigcont, "SIGCONT"), (sigstop, "SIGSTOP"), (sigtstp, "SIGTSTP"),
    (sigttin, "SIGTTIN"), (sigttou, "SIGTTOU"), (sigurg, "SIGURG"), (sigxcpu, "SIGXCPU"),
    (sigxfsz, "SIGXFSZ"), (sigvtalrm, "SIGVTALRM"), (sigprof, "SIGPROF"),
    (sigwinch, "SIGWINCH"), (sigio, "SIGIO"), (sigpwr, "SIGPWR"), (sigsys, "SIGSYS")]

/-- `signal as i32`. -/
def number (signal : Signal) : Int := table.findIdx (fun entry => entry.1 = signal) + 1

/-- `Display` of a signal. -/
def name (signal : Signal) : String := (table.lookup signal).getD ""

/-- `Signal::try_from`. -/
def tryFrom (number : Int) : Except Error Signal :=
  match table.find? fun entry => entry.1.number = number with
  | some entry => .ok entry.1
  | none => .error ["EINVAL: Invalid argument"]

/-- Every signal is read back from its number. -/
theorem tryFrom_number (signal : Signal) : tryFrom signal.number = .ok signal := by
  cases signal <;> rfl

end Signal

/-- `nix::errno::Errno`, as far as the program tells errors apart. -/
inductive Errno
  | eintr
  | echild
  | eagain
  | esrch
  | other (text : String)
  deriving DecidableEq, Repr

/-- `Display` of an `Errno`. -/
def Errno.text : Errno → String
  | eintr => "EINTR: Interrupted system call"
  | echild => "ECHILD: No child processes"
  | eagain => "EAGAIN: Try again"
  | esrch => "ESRCH: No such process"
  | other text => text

/-- `std::io::Error` of an access to `/proc`. -/
inductive ProcError
  | notFound
  | other (text : String)
  deriving DecidableEq, Repr

/-- `Display` of a `ProcError`. -/
def ProcError.text : ProcError → String
  | notFound => "No such file or directory (os error 2)"
  | other text => text

/-- An entry of `/proc/<pid>/task`, with what reading its `children` file gives. -/
abbrev TaskEntry : Type := Except ProcError (Except ProcError String)

/-- What the system answers during one call of `signal_descendants`. -/
structure ProcTable where
  /-- The listings of `/proc/<pid>/task`; a process without one does not exist. -/
  listings : List (Pid × Except ProcError (List TaskEntry))
  /-- The answers of `kill`. -/
  kill : Pid → Signal → Except Errno Unit

/-- `read_dir("/proc/<pid>/task")`. -/
def ProcTable.tasks (proc : ProcTable) (pid : Pid) : Except ProcError (List TaskEntry) :=
  (proc.listings.lookup pid).getD (.error .notFound)

/-- `str::split_whitespace`. -/
def splitWhitespace (text : String) : List String :=
  ((text.toList.splitOnP Text.isWhitespace).filter (· ≠ [])).map String.ofList

/-- The digit loop of a negative number. -/
def parseNegative (chars : List Char) : Except Error Int :=
  match parseDigits (2 ^ 31 + 1) 0 chars with
  | .ok number => .ok (-number)
  | .error causes =>
    if causes = ["number too large to fit in target type"] then
      .error ["number too small to fit in target type"]
    else .error causes

/-- `str::parse::<i32>`. -/
def parseI32 (text : String) : Except Error Int :=
  match text.toList with
  | [] => .error ["cannot parse integer from empty string"]
  | ['+'] | ['-'] => .error ["invalid digit found in string"]
  | '-' :: chars => parseNegative chars
  | '+' :: chars | chars => (parseDigits (2 ^ 31) 0 chars).map Int.ofNat

/-- The variables of the walk. -/
structure Walk where
  /-- `pending`, its top first. -/
  pending : List Pid
  /-- `descendants`. -/
  descendants : List Pid
  /-- `seen`. -/
  seen : Finset Pid
  deriving DecidableEq

/-- One child found. -/
def Walk.push (walk : Walk) (child : Pid) : Walk :=
  if child ∈ walk.seen then walk
  else ⟨child :: walk.pending, walk.descendants ++ [child], insert child walk.seen⟩

/-- One word of a `children` file. -/
def visitChild (walk : Walk) (word : String) : Except Error Walk := do
  let child ← parseI32 word
  return walk.push child

/-- One entry of a `task` directory. -/
def visitTask (walk : Walk) : TaskEntry → Except Error Walk
  | .error error => .error [error.text]
  | .ok (.error .notFound) => .ok walk
  | .ok (.error error) => Error.context "list managed child processes" (.error [error.text])
  | .ok (.ok children) => (splitWhitespace children).foldlM visitChild walk

/-- One process of the walk. -/
def visit (proc : ProcTable) (walk : Walk) (pid : Pid) : Except Error Walk :=
  match proc.tasks pid with
  | .error .notFound => .ok walk
  | .error error => Error.context "list managed process threads" (.error [error.text])
  | .ok tasks => tasks.foldlM visitTask walk

/-- The loop over `pending`, for at most a number of processes. -/
def walkDown (proc : ProcTable) : Nat → Walk → Except Error Walk
  | 0, walk => .ok walk
  | steps + 1, walk =>
    match walk.pending with
    | [] => .ok walk
    | pid :: rest => do
      let next ← visit proc { walk with pending := rest } pid
      walkDown proc steps next

/-- The words of all `children` files: no walk finds more children than these. -/
def ProcTable.words (proc : ProcTable) : Nat :=
  (proc.listings.map fun listing =>
    match listing.2 with
    | .error _ => 0
    | .ok tasks => (tasks.map fun task =>
      match task with
      | .ok (.ok children) => (splitWhitespace children).length
      | _ => 0).sum).sum

/-- `forward_signal`. -/
def forwardSignal (proc : ProcTable) (pid : Pid) (signal : Signal) : Except Error Unit :=
  match proc.kill pid signal with
  | .ok () | .error .esrch => .ok ()
  | .error error =>
    .error ["send " ++ signal.name ++ " to managed process " ++ toString pid, error.text]

/-- The loop that signals the descendants found: the processes it called `kill` for, and its
result. -/
def forwardAll (proc : ProcTable) (signal : Signal) : List Pid → List Pid × Except Error Unit
  | [] => ([], .ok ())
  | pid :: rest =>
    match forwardSignal proc pid signal with
    | .error causes => ([pid], .error causes)
    | .ok () =>
      let (sent, result) := forwardAll proc signal rest
      (pid :: sent, result)

/-- `signal_descendants`: the processes it called `kill` for, in order, and its result. -/
def signalDescendants (proc : ProcTable) (root : Pid) (signal : Signal) :
    List Pid × Except Error Unit :=
  match walkDown proc (proc.words + 1) ⟨[root], [], {root}⟩ with
  | .error causes => ([], .error causes)
  | .ok walk => forwardAll proc signal walk.descendants.reverse

end NsProxy.Process
