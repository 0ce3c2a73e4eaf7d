import NsProxy.Lib.Calls
import NsProxy.Net.Written
import NsProxy.Setup.BindMounts

/-!
# The id maps of the child

`write_id_maps` of `namespace.rs` by its system calls, against the rules of the kernel for the
files of a user namespace: each map is written once, in lines of three numbers; without
privileges it has one line that maps the own id of the writer, and the groups are mapped only
after `setgroups` has been denied.
-/

namespace NsProxy.IdMaps

open Calls
open Setup (Errno)

/-- The files of a process that are written. -/
inductive ProcFile
  | setgroups
  | uidMap
  | gidMap
  deriving DecidableEq

/-- The path of a file. -/
def ProcFile.path (childPid : Nat) : ProcFile → String
  | setgroups => s!"/proc/{childPid}/setgroups"
  | uidMap => s!"/proc/{childPid}/uid_map"
  | gidMap => s!"/proc/{childPid}/gid_map"

/-- The calls. -/
inductive IdCall
  /-- `OpenOptions::open` for writing. -/
  | open_ (path : String)
  /-- `write_all`. -/
  | writeAll (fd : Nat) (data : String)
  /-- `close`, when a file is dropped. -/
  | close (fd : Nat)

/-- What the calls return. -/
def IdCall.Result : IdCall → Type
  | open_ _ => Except Errno Nat
  | writeAll _ _ => Except Errno Unit
  | close _ => Unit

/-- The programs that make these calls. -/
abbrev idCalls : Signature := ⟨IdCall, IdCall.Result⟩

/-- A function that makes calls and may fail. -/
abbrev Effect (α : Type) : Type := Program.Fallible idCalls Error α

/-- A single call. -/
def call (made : IdCall) : Effect made.Result := ExceptT.lift (@Program.make idCalls made)

/-- `proc_write`. -/
def procWrite (path data : String) : Effect Unit := do
  match ← call (.open_ path) with
  | .error errno => throw ["open " ++ path, errno.ioText]
  | .ok fd =>
    let written ← call (.writeAll fd data)
    call (.close fd)
    match written with
    | .error errno => throw ["write " ++ path, errno.ioText]
    | .ok _ => return ()

/-- The line that maps an id to itself. -/
def identityLine (id : UInt32) : String := s!"{id.toNat} {id.toNat} 1\n"

/-- `write_id_maps`. -/
def writeIdMaps (childPid : Nat) (uid gid : UInt32) : Effect Unit := do
  procWrite (ProcFile.setgroups.path childPid) "deny"
  procWrite (ProcFile.uidMap.path childPid) (identityLine uid)
  procWrite (ProcFile.gidMap.path childPid) (identityLine gid)

/-! ## The kernel -/

/-- A line of a map. -/
structure Extent where
  /-- The first id inside the namespace. -/
  inside : Nat
  /-- The first id outside. -/
  outside : Nat
  /-- The number of ids. -/
  count : Nat
  deriving DecidableEq

/-- A number of a map. -/
def readNumber (text : String) : Option Nat :=
  if text.toList ≠ [] ∧ text.toList.all Char.isDigit then some (Nat.ofDigitChars 10 text.toList 0)
  else none

/-- A line of a map: three numbers with blanks between them. -/
def readExtent (line : String) : Option Extent :=
  match Text.split line ' ' with
  | [inside, outside, count] => do
    return ⟨← readNumber inside, ← readNumber outside, ← readNumber count⟩
  | _ => none

/-- A map: lines that are ended by newlines. -/
def readMap (data : String) : Option (List Extent) :=
  match (Text.split data '\n').reverse with
  | "" :: lines => lines.reverse.mapM readExtent
  | _ => none

/-- The id inside the namespace of an id outside, which an id without a line does not have. -/
def seenAs (map : List Extent) (id : Nat) : Option Nat :=
  (map.find? fun extent => extent.outside ≤ id ∧ id < extent.outside + extent.count).map
    fun extent => extent.inside + (id - extent.outside)

/-- The user namespace of the child. -/
structure UserNamespace where
  /-- `setgroups` has been denied. -/
  denied : Bool
  /-- The user ids, once they are mapped. -/
  uidMap : Option (List Extent)
  /-- The group ids, once they are mapped. -/
  gidMap : Option (List Extent)
  deriving DecidableEq

/-- A namespace right after `unshare`. -/
def UserNamespace.fresh : UserNamespace := ⟨false, none, none⟩

/-- A map of one line for one id that is the own id of the writer. -/
def OwnId (id : UInt32) (data : String) : Prop :=
  ∃ inside, readMap data = some [⟨inside, id.toNat, 1⟩]

/-- What an unprivileged writer may write into each file. -/
def UserNamespace.Permits (ns : UserNamespace) (uid gid : UInt32) (data : String) :
    ProcFile → Prop
  | .setgroups => data = "deny" ∧ ns.gidMap = none
  | .uidMap => ns.uidMap = none ∧ OwnId uid data
  | .gidMap => ns.gidMap = none ∧ ns.denied = true ∧ OwnId gid data

/-- The namespace after a write. -/
def UserNamespace.written (ns : UserNamespace) (data : String) : ProcFile → UserNamespace
  | .setgroups => { ns with denied := true }
  | .uidMap => { ns with uidMap := readMap data }
  | .gidMap => { ns with gidMap := readMap data }

/-- The state of the kernel. -/
structure World where
  /-- The namespace. -/
  ns : UserNamespace
  /-- The files that are open. -/
  opened : Nat → Option ProcFile

variable (childPid : Nat) (uid gid : UInt32)

/-- When a call may be made. -/
def Legal (world : World) : IdCall → Prop
  | .open_ path => ∃ file : ProcFile, path = file.path childPid
  | .writeAll fd data => ∃ file, world.opened fd = some file ∧ world.ns.Permits uid gid data file
  | .close fd => world.opened fd ≠ none

/-- What a call can return: a new descriptor is free. -/
def Answers (world : World) : (made : IdCall) → made.Result → Prop
  | .open_ _, .ok fd => world.opened fd = none
  | _, _ => True

/-- The file under a path. -/
def fileAt (path : String) : Option ProcFile :=
  [ProcFile.setgroups, .uidMap, .gidMap].find? fun file => file.path childPid = path

/-- The kernel after a call. -/
def after (world : World) : (made : IdCall) → made.Result → World
  | .open_ path, .ok fd =>
    { world with opened := Function.update world.opened fd (fileAt childPid path) }
  | .writeAll fd data, .ok _ =>
    { world with ns := ((world.opened fd).map fun file =>
      world.ns.written data file).getD world.ns }
  | .close fd, _ => { world with opened := Function.update world.opened fd none }
  | _, _ => world

/-- The kernel as a system. -/
def kernel : Calls.System idCalls :=
  ⟨World, Legal childPid uid gid, Answers, after childPid⟩

/-! ## The texts that are written -/

/-- A number that is written is read back. -/
theorem readNumber_toString (number : Nat) : readNumber (toString number) = some number := by
  have written : (toString number).toList = Nat.toDigits 10 number := Nat.toList_repr
  have digits : (Nat.toDigits 10 number).all Char.isDigit = true := by
    rw [List.all_eq_true]
    exact fun char member => Nat.isDigit_of_mem_toDigits (by decide) (by decide) member
  rw [readNumber, written, if_pos ⟨Nat.toDigits_ne_nil, digits⟩, Nat.ofDigitChars_ten_toDigits]

/-- The text of a number has digits only. -/
theorem not_mem_toString {char : Char} (other : char.isDigit = false) (number : Nat) :
    char ∉ (toString number).toList := by
  have written : (toString number).toList = Nat.toDigits 10 number := Nat.toList_repr
  rw [written]
  intro member
  have digit := Nat.isDigit_of_mem_toDigits (by decide) (by decide) member
  rw [other] at digit
  contradiction

/-- The kernel reads the line as the map of one id to itself. -/
theorem readMap_identityLine (id : UInt32) :
    readMap (identityLine id) = some [⟨id.toNat, id.toNat, 1⟩] := by
  let number := toString id.toNat
  let line := (String.singleton ' ').intercalate [number, number, "1"]
  have parts : Text.split line ' ' = [number, number, "1"] := by
    apply Text.split_intercalate (List.cons_ne_nil _ _)
    intro part member
    simp only [List.mem_cons, List.not_mem_nil, or_false] at member
    rcases member with same | same | same
    · rw [same]
      exact not_mem_toString (by decide) _
    · rw [same]
      exact not_mem_toString (by decide) _
    · rw [same]
      decide
  have whole : identityLine id = (String.singleton '\n').intercalate [line, ""] := by
    apply String.toList_injective
    simp [identityLine, line, number, toString]
  have lines : Text.split (identityLine id) '\n' = [line, ""] := by
    rw [whole]
    apply Text.split_intercalate (List.cons_ne_nil _ _)
    intro part member
    simp only [List.mem_cons, List.not_mem_nil, or_false] at member
    have absent : '\n' ∉ number.toList := not_mem_toString (by decide) _
    rcases member with same | same
    · rw [same]
      simp [line, absent]
    · rw [same]
      decide
  have read : readExtent line = some ⟨id.toNat, id.toNat, 1⟩ := by
    have one : readNumber "1" = some 1 := readNumber_toString 1
    simp only [readExtent, parts, number, readNumber_toString, one]
    rfl
  simp [readMap, lines, read]

/-- The files of a process have different paths. -/
theorem path_injective {file other : ProcFile} (same : file.path childPid = other.path childPid) :
    file = other := by
  have texts := congrArg String.toList same
  cases file <;> cases other <;> simp [ProcFile.path, toString] at texts ⊢

/-- A path leads to the file it was made for. -/
theorem fileAt_path (file : ProcFile) : fileAt childPid (file.path childPid) = some file := by
  have listed : file ∈ [ProcFile.setgroups, .uidMap, .gidMap] := by
    cases file <;> simp
  unfold fileAt
  cases found : [ProcFile.setgroups, .uidMap, .gidMap].find? fun other =>
      other.path childPid = file.path childPid with
  | none =>
    have absent := List.find?_eq_none.mp found file listed
    simp at absent
  | some other =>
    have equal := List.find?_some found
    rw [decide_eq_true_eq] at equal
    rw [path_injective childPid equal]

/-! ## Writing -/

variable {childPid uid gid}

/-- What one write leaves: no file open, and the namespace written or as it was. -/
def Wrote (childPid : Nat) (world : World) (file : ProcFile) (data : String) :
    Except Error Unit → World → Prop
  | .ok _, last => last = { world with ns := world.ns.written data file }
  | .error error, last => last = world ∧ ∃ verb ∈ ["open ", "write "], ∃ errno : Errno,
    error = [verb ++ file.path childPid, errno.ioText]

/-- A write that the kernel permits is made, or fails and leaves the world as it was. -/
theorem procWrite_ends (world : World) {file : ProcFile} {data : String}
    (permits : world.ns.Permits uid gid data file) :
    Ensures (kernel childPid uid gid) (Wrote childPid world file data)
      (procWrite (file.path childPid) data).run world := by
  refine ⟨⟨file, rfl⟩, ?_⟩
  intro opened free
  cases opened with
  | error errno => exact ⟨rfl, _, by simp, errno, rfl⟩
  | ok fd =>
    let opening := after childPid world (.open_ (file.path childPid)) (.ok fd)
    have found : opening.opened fd = some file := by
      simp [opening, after, fileAt_path]
    have closed : Function.update opening.opened fd none = world.opened := by
      simp only [opening, after, Function.update_idem]
      exact Function.update_eq_self_iff.mpr free.symm
    have held : opening.opened fd ≠ none := by
      rw [found]
      exact Option.some_ne_none file
    refine ⟨⟨file, found, permits⟩, ?_⟩
    intro written _
    cases written with
    | error errno =>
      refine ⟨held, fun _ _ => ?_⟩
      have restored : (⟨world.ns, Function.update opening.opened fd none⟩ : World) = world := by
        rw [closed]
      exact ⟨restored, _, by simp, errno, rfl⟩
    | ok _ =>
      refine ⟨held, fun _ _ => ?_⟩
      let ns := ((opening.opened fd).map fun file => world.ns.written data file).getD world.ns
      have wrote : ns = world.ns.written data file := by
        simp only [ns, found, Option.map_some, Option.getD_some]
      have restored : (⟨ns, Function.update opening.opened fd none⟩ : World) =
          { world with ns := world.ns.written data file } := by
        rw [closed, wrote]
      exact restored

/-- The namespace in which a file is written. -/
def stage (uid : UInt32) : ProcFile → UserNamespace
  | .setgroups => .fresh
  | .uidMap => ⟨true, none, none⟩
  | .gidMap => ⟨true, some [⟨uid.toNat, uid.toNat, 1⟩], none⟩

/-- The namespace once every file is written. -/
def mapped (uid gid : UInt32) : UserNamespace :=
  ⟨true, some [⟨uid.toNat, uid.toNat, 1⟩], some [⟨gid.toNat, gid.toNat, 1⟩]⟩

/-- How the function ends: with both maps, or with an error that names the file which was not
written. -/
def Ended (childPid : Nat) (uid gid : UInt32) (opened : Nat → Option ProcFile) :
    Except Error Unit → World → Prop
  | .ok _, last => last = ⟨mapped uid gid, opened⟩
  | .error error, last => ∃ file, last = ⟨stage uid file, opened⟩ ∧
    ∃ verb ∈ ["open ", "write "], ∃ errno : Errno,
      error = [verb ++ file.path childPid, errno.ioText]

/-- The function ends with both maps, or with an error that names the file it could not write. -/
theorem writeIdMaps_ends (opened : Nat → Option ProcFile) :
    Ensures (kernel childPid uid gid) (Ended childPid uid gid opened)
      (writeIdMaps childPid uid gid).run ⟨.fresh, opened⟩ := by
  have denying : (stage uid .setgroups).Permits uid gid "deny" .setgroups := ⟨rfl, rfl⟩
  have users : (stage uid .uidMap).Permits uid gid (identityLine uid) .uidMap :=
    ⟨rfl, _, readMap_identityLine uid⟩
  have groups : (stage uid .gidMap).Permits uid gid (identityLine gid) .gidMap :=
    ⟨rfl, rfl, _, readMap_identityLine gid⟩
  apply Ensures.tryThen (procWrite_ends ⟨stage uid .setgroups, opened⟩ denying)
  · rintro error last ⟨same, named⟩
    exact ⟨.setgroups, same, named⟩
  intro _ denied same
  rw [same]
  apply Ensures.tryThen (procWrite_ends ⟨stage uid .uidMap, opened⟩ users)
  · rintro error last ⟨same, named⟩
    exact ⟨.uidMap, same, named⟩
  intro _ half same
  rw [same, UserNamespace.written, readMap_identityLine]
  apply (procWrite_ends ⟨stage uid .gidMap, opened⟩ groups).mono
  intro result last wrote
  cases result with
  | error error => exact ⟨.gidMap, wrote⟩
  | ok _ =>
    have written : (stage uid .gidMap).written (identityLine gid) .gidMap = mapped uid gid := by
      rw [UserNamespace.written, readMap_identityLine]
      rfl
    have whole : last = ⟨(stage uid .gidMap).written (identityLine gid) .gidMap, opened⟩ := wrote
    rw [written] at whole
    exact whole

/-- An id that is mapped to itself alone is seen as itself, and no other id is seen. -/
theorem seenAs_identity (own id : Nat) :
    seenAs [⟨own, own, 1⟩] id = if id = own then some id else none := by
  by_cases same : id = own
  · rw [if_pos same]
    simp [seenAs, same]
  · rw [if_neg same]
    have outside : ¬ (own ≤ id ∧ id < own + 1) := by omega
    have missed : decide (own ≤ id ∧ id < own + 1) = false := decide_eq_false outside
    simp only [seenAs, List.find?_cons, missed, List.find?_nil, Option.map_none]

/-- Along every run of `write_id_maps`, whatever fails, each write is one that the kernel permits
to an unprivileged process, on a file that is open. It ends with both maps, in which the own
ids keep their numbers and no other id is seen, or with an error that names the file at which
it stopped, with what was written before that file. No file is left open. -/
theorem id_maps_written (childPid : Nat) (uid gid : UInt32) (opened : Nat → Option ProcFile)
    (rest : Program idCalls (Except Error Unit)) (last : World)
    (ran : Relation.ReflTransGen (Step (kernel childPid uid gid))
      ((writeIdMaps childPid uid gid).run, ⟨.fresh, opened⟩) (rest, last)) :
    (rest = .ret (.ok ()) ∧ last.opened = opened ∧ last.ns.denied = true ∧
        ∃ users groups, last.ns.uidMap = some users ∧ last.ns.gidMap = some groups ∧
          (∀ id, seenAs users id = if id = uid.toNat then some id else none) ∧
          ∀ id, seenAs groups id = if id = gid.toNat then some id else none) ∨
      (∃ file error, rest = .ret (.error error) ∧ last = ⟨stage uid file, opened⟩ ∧
        ∃ verb ∈ ["open ", "write "], ∃ errno : Errno,
          error = [verb ++ file.path childPid, errno.ioText]) ∨
      ∃ made next, rest = .call made next ∧ Legal childPid uid gid last made := by
  rcases (writeIdMaps_ends opened).run ran with ⟨result, ended, met⟩ | legal
  · cases result with
    | error error =>
      obtain ⟨file, reached, named⟩ := met
      exact Or.inr (Or.inl ⟨file, error, ended, reached, named⟩)
    | ok _ =>
      have reached : last = ⟨mapped uid gid, opened⟩ := met
      rw [reached]
      exact Or.inl ⟨ended, rfl, rfl, _, _, rfl, rfl, seenAs_identity _, seenAs_identity _⟩
  · exact Or.inr (Or.inr legal)

/-- The run in which nothing fails, for user 1000 in group 100. -/
theorem id_maps_written_unprivileged :
    ∃ last, Relation.ReflTransGen (Step (kernel 42 1000 100))
        ((writeIdMaps 42 1000 100).run, ⟨.fresh, fun _ => none⟩) (.ret (.ok ()), last) ∧
      ∃ users, last.ns.uidMap = some users ∧ seenAs users 1000 = some 1000 ∧
        seenAs users 0 = none := by
  let system := kernel 42 1000 100
  let first : World := ⟨.fresh, fun _ => none⟩
  -- What each file does to the kernel: it is opened as 3, written and closed.
  let through := fun (world : World) (file : ProcFile) (data : String) =>
    system.after (system.after (system.after world (.open_ (file.path 42)) (.ok 3))
      (.writeAll 3 data) (.ok ())) (.close 3) ()
  have closed : ∀ world file data, (through world file data).opened 3 = none := by
    intro world file data
    simp [through, system, kernel, after]
  let second := through first .setgroups "deny"
  let third := through second .uidMap (identityLine 1000)
  let last := through third .gidMap (identityLine 100)
  have freeFirst : system.Answers first (.open_ (ProcFile.setgroups.path 42)) (.ok 3) := rfl
  have freeSecond : system.Answers second (.open_ (ProcFile.uidMap.path 42)) (.ok 3) :=
    closed _ _ _
  have freeThird : system.Answers third (.open_ (ProcFile.gidMap.path 42)) (.ok 3) :=
    closed _ _ _
  have writes : ∀ world data, system.Answers world (.writeAll 3 data) (.ok ()) :=
    fun _ _ => trivial
  have closes : ∀ world, system.Answers world (.close 3) () := fun _ => trivial
  have ran : Relation.ReflTransGen (Step system) ((writeIdMaps 42 1000 100).run, first)
      (.ret (.ok ()), last) :=
    .tail (.tail (.tail (.tail (.tail (.tail (.tail (.tail (.tail .refl
      (.call freeFirst)) (.call (writes _ _))) (.call (closes _)))
      (.call freeSecond)) (.call (writes _ _))) (.call (closes _)))
      (.call freeThird)) (.call (writes _ _))) (.call (closes _))
  refine ⟨last, ran, ?_⟩
  rcases id_maps_written 42 1000 100 (fun _ => none) _ last ran with
    ⟨_, _, _, users, _, mapped, _, seen, _⟩ | ⟨_, _, ended, _⟩ | ⟨_, _, ended, _⟩
  · exact ⟨users, mapped, seen 1000, seen 0⟩
  · cases ended
  · cases ended

end NsProxy.IdMaps
