import NsProxy.Setup.Descriptors

/-!
# The mounts of the child by their calls

`setup_mount_namespace` leaves the descriptors as they were, on every way out. A temporary file
is unlinked on every way out too, so one is left behind only if its `unlink` failed. The mounts
that are made are those of the plan, in its order, up to the first failure.
-/

namespace NsProxy.Namespace

open Calls Setup

variable {endian : Endian} {allowed : World → Op → Prop} {α : Type} {world : World}

/-- What a function that mounts leaves: the mounts it added, and the temporary files it found,
but for those that could not be unlinked. -/
structure Mounts (world : World) (added : List Mounted) (last : World) : Prop where
  /-- What was called before stays recorded. -/
  frame : Frame world last
  /-- Of the temporary files, only those are left that could not be unlinked. -/
  unlinked : ∀ path, last.machine.files path = world.machine.files path ∨
    ∃ errno, (SystemCall.unlink path, errno) ∈ last.failed
  /-- Nothing else is changed. -/
  machine : last.machine = { world.machine with
    files := last.machine.files, mounts := world.machine.mounts ++ added }

namespace Mounts

/-- Nothing is mounted by doing nothing. -/
theorem refl (world : World) : Mounts world [] world where
  frame := Frame.refl world
  unlinked path := Or.inl rfl
  machine := by rw [List.append_nil]

/-- The mounts of two functions are those of the first and then those of the second. -/
theorem trans {first second third : World} {one two : List Mounted}
    (before : Mounts first one second) (later : Mounts second two third) :
    Mounts first (one ++ two) third where
  frame := before.frame.trans later.frame
  unlinked path := by
    rcases later.unlinked path with same | failed
    · rcases before.unlinked path with found | ⟨errno, failed⟩
      · exact Or.inl (same.trans found)
      · exact Or.inr ⟨errno, later.frame.failed.subset failed⟩
    · exact Or.inr failed
  machine := by
    rw [later.machine, before.machine]
    simp only [List.append_assoc]

/-- A call that changes nothing but the mounts. -/
theorem of_machine {last : World} {added : List Mounted} (frame : Frame world last)
    (machine : last.machine =
      { world.machine with mounts := world.machine.mounts ++ added }) :
    Mounts world added last where
  frame := frame
  unlinked path := Or.inl (by rw [machine])
  machine := by rw [machine]

end Mounts

/-- The mounts that a result stands for. -/
def mountsOf (planned : List Mounted) : Except Error Unit → List Mounted
  | .ok _ => planned
  | .error _ => []

/-- Only a call that failed makes a function fail. -/
def Blamed (world : World) (result : Except Error Unit) (last : World) : Prop :=
  match result with
  | .ok _ => True
  | .error _ => Failed world last

/-- What comes after a function that failed does not matter. -/
theorem Blamed.after {second last : World} {result : Except Error Unit}
    (blamed : Blamed world result second) (frame : Frame second last) :
    Blamed world result last := by
  cases result with
  | ok done => trivial
  | error causes => exact Failed.after blamed frame

/-- What comes before a function that fails does not matter. -/
theorem Blamed.before {second last : World} {result : Except Error Unit}
    (frame : Frame world second) (blamed : Blamed second result last) :
    Blamed world result last := by
  cases result with
  | ok done => trivial
  | error causes => exact Failed.before frame blamed

/-! ## The internal files -/

/-- The temporary file is written and closed, on every way out. -/
theorem writeTmpfile_ends {fd : Fd} {path content : String}
    (isOpen : world.machine.opened fd = some (.temporary path))
    (isEmpty : ∃ mode, world.machine.files path = some ("", mode)) :
    Ensures (kernel endian allowed)
      (fun result last => Frame world last ∧ Blamed world result last ∧ ∃ file, last.machine =
        { world.machine.closed fd with
          files := Function.update world.machine.files path (some file) } ∧
        (result = .ok () → file = (content, 0o644)))
      (writeTmpfile fd path content).run world := by
  obtain ⟨mode, isEmpty⟩ := isEmpty
  unfold writeTmpfile
  apply ensures_syscall (by simp)
  · exact ⟨path, isOpen, by simp [isEmpty]⟩
  intro result second _ first machine recorded
  cases result with
  | error errno =>
    have machine : second.machine = world.machine := machine
    have failed : Failed world second := .now recorded rfl
    rw [← machine] at isOpen
    apply ensures_close (by simp [isOpen])
    intro last closed released
    rw [release_plain isOpen rfl, machine] at released
    refine ensures_throw ⟨first.trans closed, failed.after closed, ("", mode), ?_, by simp⟩
    rw [released, ← isEmpty, Function.update_eq_self]
    rfl
  | ok done =>
    have machine : second.machine = { world.machine with
        files := Function.update world.machine.files path (some (content, mode)) } := by
      simp [machine, after, World.settle, Machine.changeFile, isOpen, isEmpty]
    apply ensures_syscall (by simp)
    · exact ⟨path, by simp [machine, isOpen], by simp [machine]⟩
    intro result third _ changed after refused
    have opened : third.machine.opened fd = some (.temporary path) := by
      cases result with
      | error errno =>
        have after : third.machine = second.machine := after
        simp [after, machine, isOpen]
      | ok done =>
        simp [after, Setup.after, World.settle, Machine.changeFile, machine, isOpen]
    apply ensures_close (by simp [opened])
    intro last closed released
    rw [release_plain opened rfl] at released
    have whole := (first.trans changed).trans closed
    cases result with
    | error errno =>
      have after : third.machine = second.machine := after
      have failed : Failed second third := .now refused rfl
      refine ensures_throw ⟨whole, (failed.before first).after closed, (content, mode), ?_, by simp⟩
      rw [released, after, machine]
      rfl
    | ok done =>
      refine ensures_pure ⟨whole, trivial, (content, 0o644), ?_, fun _ => rfl⟩
      rw [released, after]
      simp [Setup.after, World.settle, Machine.changeFile, machine, isOpen, Machine.closed]

/-- A guard unlinks its path after the body, whatever the body returned. -/
theorem ensures_unlinkOnDrop {path : String} {body : Effect Unit}
    {spec wanted : Except Error Unit → World → Prop}
    (ensures : Ensures (kernel endian allowed) spec body.run world)
    (present : ∀ result last, spec result last → last.machine.files path ≠ none)
    (gone : ∀ result second last, spec result second → Frame second last →
      last.machine = { second.machine with
        files := Function.update second.machine.files path none } → wanted result last)
    (kept : ∀ result second last errno, spec result second → Frame second last →
      (SystemCall.unlink path, errno) ∈ last.failed → last.machine = second.machine →
      wanted result last) :
    Ensures (kernel endian allowed) wanted (unlinkOnDrop path body).run world := by
  apply Ensures.andThen ensures
  intro result second met
  refine ⟨present result second met, fun answer _ => ?_⟩
  have small : ∀ op, SystemCall.unlink path ≠ .perform op := by simp
  have frame := after_frame endian second small answer
  cases answer with
  | ok done => exact gone result second _ met frame rfl
  | error errno =>
    apply kept result second _ errno met frame _ rfl
    simp [after, World.settle]

/-- The file is mounted while it is still there, after it was closed. -/
theorem mountTmpfile_ends {fd : Fd} {path content : String} (target : String)
    (isOpen : world.machine.opened fd = some (.temporary path))
    (isEmpty : ∃ mode, world.machine.files path = some ("", mode)) :
    Ensures (kernel endian allowed)
      (fun result last => Frame world last ∧ Blamed world result last ∧ ∃ file, last.machine =
        { world.machine.closed fd with
          files := Function.update world.machine.files path (some file)
          mounts := world.machine.mounts ++ mountsOf [.file content 0o644 target] result })
      (mountTmpfile fd path content target).run world := by
  unfold mountTmpfile
  apply Ensures.tryThen (writeTmpfile_ends isOpen isEmpty)
  · rintro causes last ⟨frame, blamed, file, machine, _⟩
    exact ⟨frame, blamed, file, by rw [machine]; simp [Machine.closed, mountsOf]⟩
  · rintro _ second ⟨frame, _, file, machine, written⟩
    have written : file = (content, 0o644) := written rfl
    rw [written] at machine
    apply ensures_syscall (by simp)
    · show second.machine.files path ≠ none
      simp [machine]
    intro result last _ mounted after recorded
    refine ⟨frame.trans mounted, ?_, (content, 0o644), ?_⟩
    · cases result with
      | error errno => exact Failed.before frame (.now recorded rfl)
      | ok done => trivial
    · cases result with
      | error errno =>
        have after : last.machine = second.machine := after
        rw [after, machine]
        simp [Errno.context, Machine.closed, mountsOf]
      | ok done =>
        rw [after]
        simp [Setup.after, World.settle, Machine.bound, Machine.mounted, machine, Machine.closed,
          Errno.context, mountsOf]

/-- `bind_mount_tmpfile`: the mount has the content and the mode, the descriptor is closed and
the path is unlinked. -/
theorem bindMountTmpfile_ends (world : World) (content target : String) :
    Ensures (kernel endian allowed)
      (fun result last => Mounts world (mountsOf [.file content 0o644 target] result) last ∧
        Blamed world result last)
      (bindMountTmpfile content target).run world := by
  unfold bindMountTmpfile
  apply ensures_syscall (by simp) (by trivial)
  intro result second free first machine recorded
  cases result with
  | error errno =>
    have machine : second.machine = world.machine := machine
    exact ⟨Mounts.of_machine first (by simp [machine, mountsOf]), .now recorded rfl⟩
  | ok made =>
    obtain ⟨fd, path⟩ := made
    obtain ⟨free, absent⟩ : world.machine.opened fd = none ∧ world.machine.files path = none := free
    have machine : second.machine = { world.machine.install (.temporary path) fd with
      files := Function.update world.machine.files path (some ("", 0o600)) } := machine
    have isOpen : second.machine.opened fd = some (.temporary path) := by
      simp [machine, Machine.install]
    have isEmpty : ∃ mode, second.machine.files path = some ("", mode) := ⟨0o600, by simp [machine]⟩
    apply ensures_unlinkOnDrop (mountTmpfile_ends target isOpen isEmpty)
    · rintro result last ⟨_, _, file, reached⟩
      simp [reached]
    · rintro result third last ⟨frame, blamed, file, reached⟩ dropped gone
      refine ⟨?_, (blamed.before first).after dropped⟩
      apply Mounts.of_machine ((first.trans frame).trans dropped)
      rw [gone, reached, machine]
      simp [Machine.install, Machine.closed, ← free, ← absent]
    · rintro result third last errno ⟨frame, blamed, file, reached⟩ dropped failed same
      rw [machine] at reached
      refine ⟨⟨(first.trans frame).trans dropped, fun other => ?_, ?_⟩,
        (blamed.before first).after dropped⟩
      · by_cases named : other = path
        · exact Or.inr ⟨errno, named ▸ failed⟩
        · left
          rw [same, reached]
          simp [Function.update, named]
      · rw [same, reached]
        simp [Machine.install, Machine.closed, ← free]

/-! ## The user's mounts -/

/-- A path of the mount has a NUL byte. -/
def HasNul (bind : BindMount) : Prop :=
  0 ∈ Text.asBytes bind.source ∨ 0 ∈ Text.asBytes bind.target

/-- `bind_mount_nofollow`: the descriptor of the detached mount is closed on every way out. -/
theorem bindMountNofollow_ends (world : World) (bind : BindMount) :
    Ensures (kernel endian allowed)
      (fun result last => Mounts world (mountsOf [.object bind.source bind.target] result) last ∧
        (HasNul bind ∨ Blamed world result last))
      (bindMountNofollow bind).run world := by
  have keeps : ∀ text message, Ensures (kernel endian allowed)
      (fun (result : Except Error Unit) last => last = world ∧
        (result = .ok () ∨ 0 ∈ Text.asBytes text))
      (ExceptT.mk (pure (Error.context message (cString text))) : Effect Unit).run world := by
    intro text message
    refine ⟨rfl, ?_⟩
    cases read : cString text with
    | ok fine => exact Or.inl rfl
    | error causes => exact Or.inr (cString_eq_error read)
  unfold bindMountNofollow
  apply Ensures.tryThen (keeps _ _)
  · rintro causes last ⟨same, fine | null⟩
    · cases fine
    · rw [same]
      exact ⟨Mounts.refl world, Or.inl (Or.inl null)⟩
  rintro _ last ⟨same, _⟩
  rw [same]
  apply Ensures.tryThen (keeps _ _)
  · rintro causes last ⟨same, fine | null⟩
    · cases fine
    · rw [same]
      exact ⟨Mounts.refl world, Or.inl (Or.inr null)⟩
  rintro _ last ⟨same, _⟩
  rw [same]
  apply ensures_syscall (by simp) (by trivial)
  intro result second free first machine recorded
  cases result with
  | error errno =>
    apply ensures_lastOsError
    refine ensures_throw ⟨Mounts.of_machine first ?_, Or.inr (.now recorded rfl)⟩
    rw [machine]
    simp [mountsOf]
    rfl
  | ok mountFd =>
    have free : world.machine.opened mountFd = none := free
    have machine : second.machine = world.machine.install (.tree bind.source) mountFd := machine
    have isTree : second.machine.opened mountFd = some (.tree bind.source) := by
      simp [machine, Machine.install]
    apply ensures_syscall (by simp)
    · exact ⟨bind.source, isTree⟩
    intro result third _ moved after refused
    cases result with
    | error errno =>
      have after : third.machine = second.machine := after
      have failed : Failed second third := .now refused rfl
      rw [← after] at isTree
      apply ensures_lastOsError
      apply ensures_close (by simp [isTree])
      intro last closed released
      rw [release_plain isTree rfl, after, machine, closed_install _ free] at released
      apply ensures_throw
      refine ⟨Mounts.of_machine ((first.trans moved).trans closed) ?_,
        Or.inr ((failed.before first).after closed)⟩
      rw [released]
      simp [mountsOf]
    | ok done =>
      have after : third.machine = second.machine.mounted (.object bind.source bind.target) := by
        simp [after, Setup.after, World.settle, Machine.moved, isTree]
      have still : third.machine.opened mountFd = some (.tree bind.source) := by
        rw [after]
        exact isTree
      apply ensures_close (by simp [still])
      intro last closed released
      apply ensures_pure
      refine ⟨Mounts.of_machine ((first.trans moved).trans closed) ?_, Or.inr trivial⟩
      rw [released, release_plain still rfl, after, machine]
      simp [Machine.mounted, Machine.install, Machine.closed, ← free, mountsOf]

/-- The mount of a user's bind mount. -/
def userMount (bind : BindMount) : Mounted := .object bind.source bind.target

/-- A plan of which the part before a mount is made: the next call for that mount has failed, or
its path has a NUL byte. -/
def Stopped (bindMounts : List BindMount) (plan added : List Mounted) (world last : World) :
    Prop :=
  ∃ next rest, plan = added ++ next :: rest ∧
    (Failed world last ∨ ∃ bind ∈ bindMounts, next = userMount bind ∧ HasNul bind)

/-- The user's mounts in order, by induction on what is left of them. -/
theorem bindMountAll_ends (world : World) (bindMounts : List BindMount) :
    Ensures (kernel endian allowed)
      (fun result last => ∃ added, Mounts world added last ∧
        match result with
        | .ok _ => added = bindMounts.map userMount
        | .error _ => Stopped bindMounts (bindMounts.map userMount) added world last)
      (bindMountAll bindMounts).run world := by
  induction bindMounts generalizing world with
  | nil => exact ensures_pure ⟨[], Mounts.refl world, rfl⟩
  | cons bind rest ih =>
    unfold bindMountAll
    apply Ensures.tryThen (bindMountNofollow_ends world bind)
    · rintro causes last ⟨mounts, null | failed⟩
      · exact ⟨[], mounts, userMount bind, rest.map userMount, rfl,
          Or.inr ⟨bind, List.mem_cons_self, rfl, null⟩⟩
      · exact ⟨[], mounts, userMount bind, rest.map userMount, rfl, Or.inl failed⟩
    · rintro _ second ⟨head, _⟩
      apply (ih second).mono
      rintro result last ⟨added, tail, ended⟩
      refine ⟨_, head.trans tail, ?_⟩
      cases result with
      | ok done =>
        have ended : added = rest.map userMount := ended
        rw [ended]
        rfl
      | error causes =>
        obtain ⟨next, others, planned, failed | ⟨other, member, named, null⟩⟩ := ended
        · exact ⟨next, others, by rw [List.map_cons, planned]; rfl,
            Or.inl (failed.before head.frame)⟩
        · exact ⟨next, others, by rw [List.map_cons, planned]; rfl,
            Or.inr ⟨other, List.mem_cons_of_mem _ member, named, null⟩⟩

/-! ## The mount namespace -/

/-- The mounts of `setup_mount_namespace` whose failure is not ignored, in order. -/
def mountPlan (bindMounts : List BindMount) : List Mounted :=
  [.rootPrivate, .file resolvConf 0o644 "/etc/resolv.conf",
    .file nsswitchConf 0o644 "/etc/nsswitch.conf"] ++ bindMounts.map userMount

/-- How `setup_mount_namespace` ends: with its plan and perhaps the `tmpfs`, or with the part of
its plan before the mount that failed. -/
def EndsMounting (world : World) (bindMounts : List BindMount) (result : Except Error Unit)
    (last : World) : Prop :=
  ∃ added, Mounts world added last ∧
    match result with
    | .ok _ => added = mountPlan bindMounts ∨
        added = mountPlan bindMounts ++ [.tmpfs "/etc/ssh/ssh_config.d"]
    | .error _ => Stopped bindMounts (mountPlan bindMounts) added world last

/-- A context changes the message of an error only. -/
theorem within_ends {message : String} {body : Effect Unit} {planned : List Mounted}
    (ensures : Ensures (kernel endian allowed)
      (fun result last => Mounts world (mountsOf planned result) last ∧ Blamed world result last)
      body.run world) :
    Ensures (kernel endian allowed)
      (fun result last => Mounts world (mountsOf planned result) last ∧ Blamed world result last)
      (within message body).run world := by
  apply Ensures.andThen ensures
  intro result last mounts
  cases result with
  | ok done => exact mounts
  | error causes => exact mounts

/-- The user's mounts and the `tmpfs`, after some mounts of the plan. -/
theorem lastMounts_ends {first : World} {bindMounts : List BindMount}
    (mounts : Mounts first [.rootPrivate, .file resolvConf 0o644 "/etc/resolv.conf",
      .file nsswitchConf 0o644 "/etc/nsswitch.conf"] world) :
    Ensures (kernel endian allowed) (EndsMounting first bindMounts)
      (do
        bindMountAll bindMounts
        let _ ← syscall (.mountTmpfs "/etc/ssh/ssh_config.d") : Effect Unit).run world := by
  apply Ensures.tryThen (bindMountAll_ends world bindMounts)
  · rintro causes last ⟨added, later, next, rest, planned, cause⟩
    refine ⟨_, mounts.trans later, next, rest, ?_, ?_⟩
    · rw [mountPlan, planned, List.append_assoc]
    · rcases cause with failed | null
      · exact Or.inl (failed.before mounts.frame)
      · exact Or.inr null
  · rintro _ second ⟨added, later, whole⟩
    have whole : added = bindMounts.map userMount := whole
    rw [whole] at later
    have planned : Mounts first (mountPlan bindMounts) second := mounts.trans later
    apply ensures_syscall (by simp) (by trivial)
    intro result last _ frame machine _
    apply ensures_pure
    cases result with
    | error errno =>
      have machine : last.machine = second.machine := machine
      have none : Mounts second [] last := Mounts.of_machine frame (by simp [machine])
      have both := planned.trans none
      rw [List.append_nil] at both
      exact ⟨_, both, Or.inl rfl⟩
    | ok done =>
      have one : Mounts second [.tmpfs "/etc/ssh/ssh_config.d"] last :=
        Mounts.of_machine frame machine
      exact ⟨_, planned.trans one, Or.inr rfl⟩

/-- `setup_mount_namespace` keeps the descriptors and unlinks its files on every way out, and
its mounts are the plan in order. -/
theorem setupMountNamespace_ends (world : World) (bindMounts : List BindMount) :
    Ensures (kernel endian allowed) (EndsMounting world bindMounts)
      (setupMountNamespace bindMounts).run world := by
  unfold setupMountNamespace
  apply ensures_syscall (by simp) (by trivial)
  intro result second _ first machine recorded
  have unshared : Mounts world [] second := by
    apply Mounts.of_machine first
    cases result <;> simp [machine, after, World.settle, Machine.unshared]
  apply ensures_context
  · intro errno refused
    have failed : Failed world second := by
      rw [refused] at recorded
      exact .now recorded rfl
    exact ⟨[], unshared, _, _, rfl, Or.inl failed⟩
  intro _ _
  apply ensures_syscall (by simp) (by trivial)
  intro result third _ frame machine recorded
  apply ensures_context
  · intro errno refused
    have machine : third.machine = second.machine := by rw [machine, refused]; rfl
    have failed : Failed second third := by
      rw [refused] at recorded
      exact .now recorded rfl
    have same : Mounts second [] third := Mounts.of_machine frame (by simp [machine])
    exact ⟨[], unshared.trans same, _, _, rfl, Or.inl (failed.before first)⟩
  intro _ done
  rw [done] at machine
  have rootPrivate : Mounts second [.rootPrivate] third := Mounts.of_machine frame machine
  have one := unshared.trans rootPrivate
  apply Ensures.tryThen (within_ends (bindMountTmpfile_ends third _ _))
  · rintro causes last ⟨mounts, failed⟩
    exact ⟨_, one.trans mounts, _, _, rfl, Or.inl (Failed.before one.frame failed)⟩
  rintro _ fourth ⟨mounts, _⟩
  have two := one.trans mounts
  apply Ensures.tryThen (within_ends (bindMountTmpfile_ends fourth _ _))
  · rintro causes last ⟨mounts, failed⟩
    exact ⟨_, two.trans mounts, _, _, rfl, Or.inl (Failed.before two.frame failed)⟩
  rintro _ fifth ⟨mounts, _⟩
  exact lastMounts_ends (two.trans mounts)

/-- Along every run of `setup_mount_namespace`, whatever the kernel answers, every call is made
on a descriptor or path that is there. At the end the descriptors are those before, a temporary
file is left only if its `unlink` failed, and the mounts made are the plan in order, with the
contents and the mode that were written. It fails only at a mount of the plan, with those before
it made, for which a call has failed or whose path has a NUL byte. -/
theorem mount_setup_unwinds (endian : Endian) (allowed : World → Op → Prop) (world : World)
    (bindMounts : List BindMount) (rest : Program systemCalls (Except Error Unit)) (last : World)
    (ran : Relation.ReflTransGen (Step (kernel endian allowed))
      ((setupMountNamespace bindMounts).run, world) (rest, last)) :
    (∃ result, rest = .ret result ∧ EndsMounting world bindMounts result last) ∨
      ∃ made next, rest = .call made next ∧ Legal allowed last made :=
  (setupMountNamespace_ends world bindMounts).run ran

/-- A bind mount of a user. -/
def homeMount : BindMount := ⟨"/home/my.conf", "/etc/hosts"⟩

/-- The run of eighteen calls in which all succeed, with a mount of the user: every mount of the
plan is made, and no temporary file is left. -/
theorem mount_setup_unwinds_all :
    ∃ last, Relation.ReflTransGen (Step (kernel .little fun _ _ => True))
        ((setupMountNamespace [homeMount]).run, idleWorld) (.ret (.ok ()), last) ∧
      EndsMounting idleWorld [homeMount] (.ok ()) last ∧
      last.machine.mounts = [.rootPrivate, .file resolvConf 0o644 "/etc/resolv.conf",
        .file nsswitchConf 0o644 "/etc/nsswitch.conf", .object "/home/my.conf" "/etc/hosts",
        .tmpfs "/etc/ssh/ssh_config.d"] ∧ last.failed = [] := by
  let system := kernel .little fun _ _ => True
  let last := (follow system obliging 18 (setupMountNamespace [homeMount]).run idleWorld).2
  have ran : Relation.ReflTransGen (Step system) ((setupMountNamespace [homeMount]).run, idleWorld)
      (.ret (.ok ()), last) :=
    run_follow system (answers_obliging .little) 18 (setupMountNamespace [homeMount]).run idleWorld
      (by decide +kernel)
  refine ⟨last, ran, ?_, by decide +kernel, rfl⟩
  rcases mount_setup_unwinds .little (fun _ _ => True) idleWorld [homeMount] _ last ran with
    ⟨result, ended, ends⟩ | ⟨made, next, ended, _⟩
  · rw [Program.ret.inj ended]
    exact ends
  · cases ended

end NsProxy.Namespace
