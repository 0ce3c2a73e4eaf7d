import NsProxy.Lib.Pathname
import NsProxy.Proxy.Http
import NsProxy.Setup.Programs

/-!
# Bind mounts

`parse_bind_mounts`, `setup_mount_namespace` and what they call, of `namespace.rs`. The file
system is the tree of its entries, each with its device and inode number, so that hard links
are two entries with one identity. A mount covers one place of the tree, or of an earlier
mount, with an object; the mounts of the namespace are listed in the order they were made.
-/

namespace NsProxy.Setup

open Pathname (Component Failure Kind Path View)

/-- The name of a directory entry. -/
abbrev Name : Type := List UInt8

/-- What a directory entry is. -/
inductive NodeKind
  | file
  | directory
  | symlink (text : List UInt8)
  | special
  deriving DecidableEq, Repr

/-- The pair of `dev()` and `ino()`. -/
abbrev Identity : Type := UInt64 × UInt64

/-- The parts of `std::fs::Metadata` that are read. -/
structure Node where
  /-- `file_type()`. -/
  kind : NodeKind
  /-- `dev()` and `ino()`. -/
  identity : Identity
  deriving DecidableEq, Repr

/-- A file system: its entries by the names that lead to them from the root. -/
structure FileSystem where
  /-- The entry, if there is one. -/
  node : List Name → Option Node
  /-- The root is a directory. -/
  root : (node []).map Node.kind = some .directory

/-- What can be mounted. -/
inductive Object
  /-- An entry of the file system. -/
  | entry (path : List Name)
  /-- The unlinked temporary file with this content. -/
  | temporary (content : String)
  /-- The root of an empty `tmpfs`. -/
  | tmpfs
  deriving DecidableEq, Repr

/-- An object as it is seen through one mount; the file system itself is mount zero. -/
structure Place where
  /-- The mount. -/
  mount : Nat
  /-- The object. -/
  object : Object
  deriving DecidableEq, Repr

/-- A mount: the place it covers and its root. -/
structure Mount where
  /-- The place it is attached to. -/
  point : Place
  /-- Its root. -/
  root : Place
  deriving DecidableEq, Repr

/-- The mounts that the setup made, in order. -/
abbrev Table : Type := List Mount

/-- An error number of a system call. -/
structure Errno where
  /-- Its value. -/
  code : Nat
  /-- Its name. -/
  name : String
  /-- What `strerror` says. -/
  text : String
  deriving DecidableEq, Repr

namespace Errno

/-- `ENOENT`. -/
def enoent : Errno := ⟨2, "ENOENT", "No such file or directory"⟩

/-- `ENOTDIR`. -/
def enotdir : Errno := ⟨20, "ENOTDIR", "Not a directory"⟩

/-- `EINVAL`. -/
def einval : Errno := ⟨22, "EINVAL", "Invalid argument"⟩

/-- `ENOSYS`. -/
def enosys : Errno := ⟨38, "ENOSYS", "Function not implemented"⟩

/-- `ELOOP`. -/
def eloop : Errno := ⟨40, "ELOOP", "Too many levels of symbolic links"⟩

/-- The error of a failed lookup. -/
def ofFailure : Failure → Errno
  | .notFound => enoent
  | .notDirectory => enotdir
  | .loop => eloop

/-- `Display` of the `std::io::Error`. -/
def ioText (errno : Errno) : String :=
  errno.text ++ " (os error " ++ toString errno.code ++ ")"

/-- `Display` of the `nix::Error`. -/
def nixText (errno : Errno) : String := errno.name ++ ": " ++ errno.text

/-- `with_context` on the result of a call. -/
def context {α : Type} (text : Errno → String) (message : String) :
    Except Errno α → Except Error α
  | .ok value => .ok value
  | .error errno => .error [message, text errno]

/-- A context changes no success of a call. -/
@[simp] theorem context_eq_ok {α : Type} {text : Errno → String} {message : String}
    {result : Except Errno α} {value : α} :
    context text message result = .ok value ↔ result = .ok value := by
  cases result <;> simp [context]

end Errno

/-- The calls that can fail for a reason other than the path they are given. -/
inductive Call
  | currentDir
  | symlinkMetadata (path : String)
  | unshare
  | makePrivate
  | mkstemp (content : String)
  | write (path : String)
  | setPermissions (path : String)
  | bind (source target : String)
  | openTree (source : String)
  | moveMount (target : String)
  | tmpfs
  deriving DecidableEq, Repr

/-- What the two functions find around them. -/
structure Host where
  /-- The file system. -/
  files : FileSystem
  /-- The current directory of the process. -/
  currentDir : String
  /-- The name `mkstemp` picks for the file with this content. -/
  temporaryPath : String → String
  /-- The calls that fail whatever the paths are: rights, limits, a missing system call. -/
  refuse : Call → Option Errno

/-- A path text cut at its slashes. -/
def pathOf (text : List UInt8) : Path Name where
  absolute := text.head? = some 47
  components := ((text.splitOn 47).filter (· ≠ [])).map fun part =>
    if part = [46] then .current else if part = [46, 46] then .parent else .name part
  slash := text.getLast? = some 47

namespace Host

variable (host : Host)

/-- What a lookup finds at a place. -/
def kindAt (place : Place) : Kind Name :=
  match place.object with
  | .temporary _ => .file
  | .tmpfs => .directory
  | .entry path =>
    match (host.files.node path).map Node.kind with
    | some .directory => .directory
    | some (.symlink text) => .link (pathOf text)
    | _ => .file

/-- The entry that a name of a directory stands for, before any mount on it. -/
def entryAt (place : Place) (name : Name) : Option Place :=
  match place.object with
  | .entry path =>
    if (host.files.node (path ++ [name])).isSome then
      some ⟨place.mount, .entry (path ++ [name])⟩
    else none
  | _ => none

/-- The file system without mounts. -/
def bare : View Place Name := ⟨⟨0, .entry []⟩, host.kindAt, host.entryAt⟩

/-- What lookups see with these mounts: a later mount on a place hides an earlier one. -/
def view (table : Table) : View Place Name :=
  table.foldl (fun view mount => view.cover mount.point mount.root) host.bare

/-- The place that an absolute path names. -/
def resolve (table : Table) (follow : Bool) (path : String) : Except Errno Place :=
  match ((host.view table).lookup follow (pathOf (Text.asBytes path))).result with
  | .ok place => .ok place
  | .error failure => .error (.ofFailure failure)

/-- A call that has no other effect than to succeed or to fail. -/
def attempt (call : Call) : Except Errno Unit :=
  match host.refuse call with
  | some errno => .error errno
  | none => .ok ()

end Host

/-- `PathBuf::push` of a relative path. -/
def push (path part : String) : String :=
  if path = "" || path.toList.getLast? = some '/' then path ++ part else path ++ "/" ++ part

/-- `std::path::absolute`: `.` goes, `..` stays, and so do a slash at the end and just two in
front. -/
def absolute (host : Host) (path : String) : Except Error String := do
  if path = "" then Error.bail "cannot make an empty path absolute"
  let parts := (Text.split path '/').filter fun part => part ≠ "" ∧ part ≠ "."
  let start ← match path.toList with
    | '/' :: '/' :: '/' :: _ => .ok "/"
    | '/' :: '/' :: _ => .ok "//"
    | '/' :: _ => .ok "/"
    | _ =>
      match host.attempt .currentDir with
      | .ok () => .ok host.currentDir
      | .error errno => Error.bail errno.ioText
  let normalized := parts.foldl push start
  return if path.toList.getLast? = some '/' then push normalized "" else normalized

/-- `lstat`, before any mount. -/
def lstat (host : Host) (path : String) : Except Errno Node := do
  host.attempt (.symlinkMetadata path)
  let place ← host.resolve [] false path
  match place.object with
  | .entry names =>
    match host.files.node names with
    | some node => .ok node
    | none => .error .enoent
  | _ => .error .enoent

/-- `std::fs::symlink_metadata`. -/
def symlinkMetadata (host : Host) (path : String) : Except Error Node :=
  if '\x00' ∈ path.toList then Error.bail "file name contained an unexpected NUL byte"
  else
    match lstat host path with
    | .ok node => .ok node
    | .error errno => Error.bail errno.ioText

/-- `inspect_bind_path`. -/
def inspectBindPath (host : Host) (path cwd side spec : String) :
    Except Error (String × Identity) := do
  let path := if path.toList.head? = some '/' then path else push cwd path
  let path ← Error.context
    ("make bind mount " ++ side ++ " " ++ Http.debugText path ++ " absolute") (absolute host path)
  let metadata ← Error.context
    ("inspect bind mount " ++ side ++ " " ++ Http.debugText path ++ " in " ++ Http.debugText spec)
    (symlinkMetadata host path)
  match metadata.kind with
  | .file => .ok (path, metadata.identity)
  | .symlink _ => .ok (path, metadata.identity)
  | _ =>
    Error.bail ("bind mount " ++ side ++ " " ++ Http.debugText path ++ " in " ++
      Http.debugText spec ++ " is not a regular file or symlink")

/-- `INTERNAL_BIND_TARGETS`. -/
def internalBindTargets : List String := ["/etc/resolv.conf", "/etc/nsswitch.conf"]

/-- One round of the loop of `parse_bind_mounts`, with the identity of the target. -/
def parseBindMount (host : Host) (cwd : String) (internalTargets targets : List Identity)
    (spec : String) : Except Error (BindMount × Identity) := do
  let fields := Text.split spec ':'
  let source := fields.headD ""
  let target := fields.tail.headD ""
  if source = "" || target = "" || fields.length > 2 then
    Error.bail ("invalid bind mount " ++ Http.debugText spec ++ ": expected exactly SRC:DST")
  else
    let (source, _) ← inspectBindPath host source cwd "source" spec
    let (target, targetId) ← inspectBindPath host target cwd "target" spec
    if targetId ∈ internalTargets then
      Error.bail ("bind mount target " ++ Http.debugText target ++
        " conflicts with an internal DNS mount")
    else if targetId ∈ targets then
      Error.bail ("duplicate bind mount target " ++ Http.debugText target)
    else return (⟨source, target⟩, targetId)

/-- The loop of `parse_bind_mounts`. -/
def parseEach (host : Host) (cwd : String) (internalTargets : List Identity) :
    List Identity → List String → Except Error (List BindMount)
  | _, [] => .ok []
  | targets, spec :: specs => do
    let (mount, targetId) ← parseBindMount host cwd internalTargets targets spec
    let mounts ← parseEach host cwd internalTargets (targetId :: targets) specs
    return mount :: mounts

/-- `parse_bind_mounts`. -/
def parseBindMounts (host : Host) (specs : List String) (cwd : String) :
    Except Error (List BindMount) :=
  if specs = [] then .ok []
  else do
    let internalTargets ← Error.context "inspect internal bind-mount targets"
      (internalBindTargets.mapM (symlinkMetadata host))
    parseEach host cwd (internalTargets.map Node.identity) [] specs

/-- A mount of an object, numbered by its position. -/
def attach (table : Table) (point : Place) (object : Object) : Table :=
  table ++ [⟨point, ⟨table.length + 1, object⟩⟩]

/-- The place is a file that was unlinked, on which the kernel mounts nothing. -/
def Place.unlinked (place : Place) : Bool :=
  match place.object with
  | .temporary _ => true
  | _ => false

/-- `mount` with `MS_BIND`: the object is put where the target leads, links followed. -/
def mountBind (host : Host) (table : Table) (path : String) (object : Object) (target : String) :
    Except Errno Table := do
  host.attempt (.bind path target)
  let point ← host.resolve table true target
  if point.unlinked then .error .enoent
  else
    match host.kindAt point with
    | .file => .ok (attach table point object)
    | _ => .error .enotdir

/-- A bind mount that succeeds covers the file that its target leads to, which has a name. -/
theorem mountBind_eq_ok {host : Host} {table next : Table} {path target : String} {object : Object}
    (done : mountBind host table path object target = .ok next) :
    ∃ point, host.resolve table true target = .ok point ∧ point.unlinked = false ∧
      host.kindAt point = .file ∧ next = attach table point object := by
  unfold mountBind at done
  obtain ⟨_, _, done⟩ := Error.bind_eq_ok.mp done
  obtain ⟨point, found, done⟩ := Error.bind_eq_ok.mp done
  split at done
  · cases done
  · next linked =>
    split at done
    · next file =>
      injection done with same
      exact ⟨point, found, by simpa using linked, file, same.symm⟩
    · cases done

/-- `bind_mount_tmpfile`. -/
def bindMountTmpfile (host : Host) (table : Table) (content target : String) :
    Except Error Table := do
  Errno.context Errno.nixText "mkstemp" (host.attempt (.mkstemp content))
  let path := host.temporaryPath content
  Errno.context Errno.ioText ("write " ++ Http.debugText path) (host.attempt (.write path))
  Errno.context Errno.ioText "make internal DNS configuration readable by all users"
    (host.attempt (.setPermissions path))
  Errno.context Errno.nixText ("bind-mount " ++ Http.debugText path ++ " → " ++ target)
    (mountBind host table path (.temporary content) target)

/-- An internal file is mounted over the file that its target leads to. -/
theorem bindMountTmpfile_eq_ok {host : Host} {table next : Table} {content target : String}
    (done : bindMountTmpfile host table content target = .ok next) :
    ∃ point, host.resolve table true target = .ok point ∧ point.unlinked = false ∧
      host.kindAt point = .file ∧ next = attach table point (.temporary content) := by
  unfold bindMountTmpfile at done
  obtain ⟨_, _, done⟩ := Error.bind_eq_ok.mp done
  obtain ⟨_, _, done⟩ := Error.bind_eq_ok.mp done
  obtain ⟨_, _, done⟩ := Error.bind_eq_ok.mp done
  exact mountBind_eq_ok (Errno.context_eq_ok.mp done)

/-- `CString::new`. -/
def cString (text : String) : Except Error Unit :=
  match (Text.asBytes text).idxOf? 0 with
  | none => .ok ()
  | some position =>
    Error.bail ("nul byte found in provided data at position: " ++ toString position)

/-- A text without a NUL byte is accepted. -/
theorem cString_eq_ok {text : String} (fine : cString text = .ok ()) : 0 ∉ Text.asBytes text := by
  unfold cString at fine
  split at fine
  · next absent =>
    intro member
    exact absurd (List.idxOf?_eq_none_iff.mp absent) (not_not.mpr member)
  · cases fine

/-- A text is refused for a NUL byte. -/
theorem cString_eq_error {text : String} {causes : Error} (failed : cString text = .error causes) :
    0 ∈ Text.asBytes text := by
  by_contra absent
  have fine : (Text.asBytes text).idxOf? 0 = none := List.idxOf?_eq_none_iff.mpr absent
  unfold cString at failed
  rw [fine] at failed
  cases failed

/-- `open_tree` with `OPEN_TREE_CLONE` and `AT_SYMLINK_NOFOLLOW`. -/
def openTree (host : Host) (table : Table) (source : String) : Except Errno Object := do
  host.attempt (.openTree source)
  let place ← host.resolve table false source
  return place.object

/-- `move_mount` of a detached mount, without `MOVE_MOUNT_T_SYMLINKS`. -/
def moveMount (host : Host) (table : Table) (object : Object) (target : String) :
    Except Errno Table := do
  host.attempt (.moveMount target)
  let point ← host.resolve table false target
  if point.unlinked then .error .enoent
  else if host.bare.isDirectory ⟨0, object⟩ = host.bare.isDirectory point then
    return attach table point object
  else .error .einval

/-- `bind_mount_nofollow`. -/
def bindMountNofollow (host : Host) (table : Table) (bind : BindMount) : Except Error Table := do
  Error.context ("bind mount source " ++ Http.debugText bind.source ++ " contains a NUL byte")
    (cString bind.source)
  Error.context ("bind mount target " ++ Http.debugText bind.target ++ " contains a NUL byte")
    (cString bind.target)
  let unavailable (call : String) (errno : Errno) : Except Error Table :=
    Error.bail ("file bind mounts require Linux 5.2 or newer: " ++ call ++
      " is unavailable (" ++ errno.ioText ++ ")")
  match openTree host table bind.source with
  | .error errno =>
    if errno.code = Errno.enosys.code then unavailable "open_tree" errno
    else
      .error ["open bind-mount source object " ++ Http.debugText bind.source, errno.ioText]
  | .ok object =>
    match moveMount host table object bind.target with
    | .ok table => .ok table
    | .error errno =>
      if errno.code = Errno.enosys.code then unavailable "move_mount" errno
      else
        .error ["attach bind-mount source " ++ Http.debugText bind.source ++ " over target " ++
          Http.debugText bind.target, errno.ioText]

/-- A user's mount that succeeds covers what its target names with what its source names. -/
theorem bindMountNofollow_eq_ok {host : Host} {table next : Table} {bind : BindMount}
    (done : bindMountNofollow host table bind = .ok next) :
    ∃ source point, host.resolve table false bind.source = .ok source ∧
      host.resolve table false bind.target = .ok point ∧
      host.bare.isDirectory source = host.bare.isDirectory point ∧
      next = attach table point source.object := by
  unfold bindMountNofollow at done
  obtain ⟨_, _, done⟩ := Error.bind_eq_ok.mp done
  obtain ⟨_, _, done⟩ := Error.bind_eq_ok.mp done
  split at done
  · split at done <;> cases done
  · next object opened =>
    split at done
    · next moved attached =>
      unfold openTree at opened
      obtain ⟨_, _, opened⟩ := Error.bind_eq_ok.mp opened
      obtain ⟨source, named, opened⟩ := Error.bind_eq_ok.mp opened
      unfold moveMount at attached
      obtain ⟨_, _, attached⟩ := Error.bind_eq_ok.mp attached
      obtain ⟨point, found, attached⟩ := Error.bind_eq_ok.mp attached
      injection opened with same
      injection done with last
      split at attached
      · cases attached
      · split at attached
        · next alike =>
          injection attached with result
          rw [← same] at alike result
          exact ⟨source, point, named, found, alike, last.symm.trans result.symm⟩
        · cases attached
    · split at done <;> cases done

/-- Where the `tmpfs` over `ssh_config.d` is put, if its `mount` succeeds. -/
def tmpfsPoint (host : Host) (table : Table) : Except Errno Place := do
  host.attempt .tmpfs
  let point ← host.resolve table true "/etc/ssh/ssh_config.d"
  match host.kindAt point with
  | .directory => .ok point
  | _ => .error .enotdir

/-- The `tmpfs` can only be put over a directory. -/
theorem tmpfsPoint_eq_ok {host : Host} {table : Table} {point : Place}
    (found : tmpfsPoint host table = .ok point) : host.kindAt point = .directory := by
  unfold tmpfsPoint at found
  obtain ⟨_, _, found⟩ := Error.bind_eq_ok.mp found
  obtain ⟨place, _, found⟩ := Error.bind_eq_ok.mp found
  split at found
  · next directory =>
    injection found with same
    rw [← same, directory]
  · cases found

/-- The `mount` of the `tmpfs`, whose failure is ignored. -/
def mountTmpfs (host : Host) (table : Table) : Table :=
  match tmpfsPoint host table with
  | .ok point => attach table point .tmpfs
  | .error _ => table

/-- What is written over `/etc/resolv.conf`; `DNS_ADDR` is `TUN_GW`. -/
def resolvConf : String := "nameserver " ++ tunGw.toText ++ "\n"

/-- What is written over `/etc/nsswitch.conf`. -/
def nsswitchConf : String := "hosts: files dns\n"

/-- `setup_mount_namespace`: the mounts it leaves. -/
def setupMountNamespace (host : Host) (bindMounts : List BindMount) : Except Error Table := do
  Errno.context Errno.nixText "unshare(CLONE_NEWNS)" (host.attempt .unshare)
  Errno.context Errno.nixText "make root mount private" (host.attempt .makePrivate)
  let table ← Error.context "bind-mount resolv.conf"
    (bindMountTmpfile host [] resolvConf "/etc/resolv.conf")
  let table ← Error.context "bind-mount nsswitch.conf"
    (bindMountTmpfile host table nsswitchConf "/etc/nsswitch.conf")
  let table ← bindMounts.foldlM (bindMountNofollow host) table
  return mountTmpfs host table

end NsProxy.Setup
