import NsProxy.Setup.BindMounts

/-!
# What hides the internal files

The two internal files are mounted where `/etc/resolv.conf` and `/etc/nsswitch.conf` lead when
links are followed; the check of `parse_bind_mounts` compares the identities of what these
paths name when links are not followed, before any mount. A later mount hides an internal
file when it covers a place that the lookup of its path depends on: the file itself, a link
on the way or a directory that is searched.
-/

namespace NsProxy.Setup

open Pathname (Failure Kind Lookup Path View)
open Pathname.View (Covers)

/-- The mounts are numbered from one. -/
def Numbered (table : Table) : Prop :=
  ∀ mount ∈ table, 0 < mount.root.mount ∧ mount.root.mount ≤ table.length

/-- No mounts are numbered. -/
theorem numbered_nil : Numbered [] := by simp [Numbered]

/-- A new mount gets the next number. -/
theorem Numbered.attach {table : Table} (numbered : Numbered table) (point : Place)
    (object : Object) : Numbered (attach table point object) := by
  intro mount member
  cases List.mem_append.mp member with
  | inl earlier =>
    have bounds := numbered mount earlier
    simp only [Setup.attach, List.length_append, List.length_singleton]
    omega
  | inr last =>
    rw [List.mem_singleton.mp last]
    simp [Setup.attach]

namespace Host

variable {host : Host} {table : Table}

/-- The latest mount covers its point in the view. -/
theorem view_concat (mount : Mount) :
    host.view (table ++ [mount]) = (host.view table).cover mount.point mount.root := by
  simp [view, List.foldl_append]

/-- The root of the view is that of the host. -/
@[simp] theorem root_view : (host.view table).root = ⟨0, .entry []⟩ := by
  induction table using List.reverseRecOn with
  | nil => rfl
  | append_singleton table mount ih => rw [view_concat, View.root_cover, ih]

/-- The mounts leave the kind of every place alone. -/
@[simp] theorem kind_view (place : Place) : (host.view table).kind place = host.kindAt place := by
  induction table using List.reverseRecOn with
  | nil => rfl
  | append_singleton table mount ih => rw [view_concat, View.kind_cover, ih]

/-- The mounts leave the directories alone. -/
@[simp] theorem isDirectory_view (place : Place) :
    (host.view table).isDirectory place = host.bare.isDirectory place := by
  simp [View.isDirectory, bare]

/-- The root of the host is a directory. -/
theorem kindAt_root (host : Host) : host.kindAt ⟨0, .entry []⟩ = .directory := by
  simp [kindAt, host.files.root]

/-- An entry of a directory is seen through the mount of the directory. -/
theorem entryAt_eq_some {place next : Place} {name : Name}
    (entry : host.entryAt place name = some next) :
    next.mount = place.mount ∧ ∃ path, next.object = .entry (path ++ [name]) := by
  unfold entryAt at entry
  split at entry
  · next path _ =>
    split at entry
    · injection entry with same
      rw [← same]
      exact ⟨rfl, path, rfl⟩
    · cases entry
  · cases entry

/-- A name leads to the entry it stands for or to the root of a mount. -/
theorem enter_view {place next : Place} {name : Name}
    (entered : (host.view table).enter place name = some next) :
    host.entryAt place name = some next ∨ ∃ mount ∈ table, next = mount.root := by
  induction table using List.reverseRecOn generalizing next with
  | nil => exact Or.inl entered
  | append_singleton table mount ih =>
    rw [view_concat, View.enter_cover, Option.map_eq_some_iff] at entered
    obtain ⟨found, before, replaced⟩ := entered
    by_cases hidden : found = mount.point
    · rw [hidden, View.replace_covered] at replaced
      right
      exact ⟨mount, by simp, replaced.symm⟩
    · rw [View.replace_of_ne hidden] at replaced
      rw [← replaced]
      cases ih before with
      | inl entry => exact Or.inl entry
      | inr earlier =>
        obtain ⟨other, member, same⟩ := earlier
        right
        exact ⟨other, by simp [member], same⟩

/-- The empty directory of a `tmpfs` has no names, whatever is mounted. -/
theorem enter_tmpfs (mount : Nat) (name : Name) :
    (host.view table).enter ⟨mount, .tmpfs⟩ name = none := by
  induction table using List.reverseRecOn with
  | nil => rfl
  | append_singleton table mount ih => rw [view_concat, View.enter_cover, ih, Option.map_none]

/-- No name leads to the root of the file system. -/
theorem enter_ne_root (numbered : Numbered table) (place : Place) (name : Name) :
    (host.view table).enter place name ≠ some ⟨0, .entry []⟩ := by
  intro entered
  cases enter_view entered with
  | inl entry =>
    obtain ⟨_, path, object⟩ := entryAt_eq_some entry
    simp at object
  | inr mounted =>
    obtain ⟨mount, member, same⟩ := mounted
    have positive := (numbered mount member).1
    rw [← same] at positive
    exact absurd positive (by simp)

/-- A lookup only comes to places of the mounts there are. -/
theorem mount_le_of_visited (numbered : Numbered table) (follow : Bool) (path : Path Name) :
    ∀ place ∈ ((host.view table).lookup follow path).visited, place.mount ≤ table.length := by
  apply View.forall_visited
  · simp
  · intro place name next bound entered
    cases enter_view entered with
    | inl entry =>
      rw [(entryAt_eq_some entry).1]
      exact bound
    | inr mounted =>
      obtain ⟨mount, member, same⟩ := mounted
      rw [same]
      exact (numbered mount member).2

end Host

/-- How an internal path is opened: links are followed. -/
def opened (host : Host) (table : Table) (path : String) : Lookup Place :=
  (host.view table).lookup true (pathOf (Text.asBytes path))

/-- A mount at this place is on the way of an opened path. The root is never covered: lookups
begin there. -/
def OnTheWay (host : Host) (table : Table) (path : String) (point : Place) : Prop :=
  point ≠ ⟨0, .entry []⟩ ∧ point ∈ (opened host table path).visited

/-- An object that no lookup leaves downwards. -/
def Object.DeadEnd (host : Host) (object : Object) : Prop :=
  object = .tmpfs ∨ host.kindAt ⟨0, object⟩ = .file

section Attach

variable {host : Host} {table : Table} {point : Place} {object : Object}

/-- A regular file is no directory. -/
theorem isDirectory_of_file (file : host.kindAt point = .file) :
    host.bare.isDirectory point = false := by
  simp [View.isDirectory, Host.bare, file]

/-- A path is resolved to what the lookup in the view finds. -/
theorem resolve_eq_ok {follow : Bool} {path : String} {place : Place} :
    host.resolve table follow path = .ok place ↔
      ((host.view table).lookup follow (pathOf (Text.asBytes path))).result = .ok place := by
  unfold Host.resolve
  split <;> simp_all

/-- A mount away from the root changes a lookup by covering its place. -/
theorem opened_covers (table : Table) (below : point ≠ ⟨0, .entry []⟩)
    (alike : host.bare.isDirectory ⟨0, object⟩ = host.bare.isDirectory point) (path : String) :
    Covers (host.view table) point ⟨table.length + 1, object⟩ (opened host table path)
      (opened host (attach table point object) path) := by
  have directory : (host.view table).isDirectory ⟨table.length + 1, object⟩ =
      (host.view table).isDirectory point := by
    rw [Host.isDirectory_view, Host.isDirectory_view]
    exact alike
  unfold opened attach
  rw [Host.view_concat]
  exact View.lookup_covers (by simpa using below) directory true _

/-- A mount that is not on the way of a path leaves its lookup as it was. -/
theorem opened_attach_of_not_onTheWay (numbered : Numbered table)
    (alike : host.bare.isDirectory ⟨0, object⟩ = host.bare.isDirectory point) {path : String}
    (aside : ¬ OnTheWay host table path point) :
    opened host (attach table point object) path = opened host table path := by
  by_cases top : point = ⟨0, .entry []⟩
  · unfold opened attach
    rw [Host.view_concat, top, View.cover_of_not_entered (Host.enter_ne_root numbered)]
  · have absent : point ∉ (opened host table path).visited := fun met => aside ⟨top, met⟩
    exact (opened_covers table top alike path).same absent

/-- A mount on the way of a path is met by its lookup, and ends it when it is a dead end. -/
theorem opened_attach_of_onTheWay
    (alike : host.bare.isDirectory ⟨0, object⟩ = host.bare.isDirectory point) {path : String}
    (inside : OnTheWay host table path point) :
    ⟨table.length + 1, object⟩ ∈ (opened host (attach table point object) path).visited ∧
      (object.DeadEnd host →
        (opened host (attach table point object) path).Ends ⟨table.length + 1, object⟩) := by
  have covers := opened_covers table inside.1 alike path
  constructor
  · exact covers.met inside.2
  · intro dead
    apply covers.ends _ inside.2
    constructor
    · intro text
      rw [Host.kind_view]
      cases dead with
      | inl tmpfs => simp [tmpfs, Host.kindAt]
      | inr file =>
        intro link
        exact absurd (file.symm.trans link) (by simp)
    · intro directory name
      cases dead with
      | inl tmpfs =>
        rw [tmpfs]
        exact Host.enter_tmpfs _ name
      | inr file =>
        rw [View.isDirectory_iff, Host.kind_view] at directory
        exact absurd (file.symm.trans directory) (by simp)

/-- A file mounted where a path leads is what the path names from then on. -/
theorem opened_attach_file {content path : String}
    (found : (opened host table path).result = .ok point)
    (file : host.kindAt point = .file) :
    (opened host (attach table point (.temporary content)) path).result =
      .ok ⟨table.length + 1, .temporary content⟩ := by
  have below : point ≠ ⟨0, .entry []⟩ := by
    intro top
    rw [top, Host.kindAt_root] at file
    cases file
  have alike : host.bare.isDirectory ⟨0, .temporary content⟩ = host.bare.isDirectory point := by
    rw [isDirectory_of_file file, isDirectory_of_file rfl]
  have covered : (host.view table).isFile point = true := by
    rw [View.isFile_iff, Host.kind_view, file]
  have covering : (host.view table).isFile ⟨table.length + 1, .temporary content⟩ = true := by
    rw [View.isFile_iff, Host.kind_view]
    rfl
  exact (opened_covers table below alike path).found covering covered found

end Attach

/-- The mounts of `setup_mount_namespace`. -/
inductive Step
  /-- `bind_mount_tmpfile`. -/
  | tmpfile (content target : String)
  /-- `bind_mount_nofollow`. -/
  | bind (bind : BindMount)
  /-- The `tmpfs` over `ssh_config.d`. -/
  | tmpfs

namespace Step

/-- What the step does. -/
def run (host : Host) (table : Table) : Step → Except Error Table
  | tmpfile content target => bindMountTmpfile host table content target
  | bind mount => bindMountNofollow host table mount
  | tmpfs => .ok (mountTmpfs host table)

/-- The place that the step covers, in the state before it. -/
def point (host : Host) (table : Table) : Step → Except Errno Place
  | tmpfile _ target => host.resolve table true target
  | bind mount => host.resolve table false mount.target
  | tmpfs => tmpfsPoint host table

/-- The step puts a file there, if it puts an object of the file system there. -/
def Plain (host : Host) (table : Table) : Step → Prop
  | bind mount => ∀ place, host.resolve table false mount.source = .ok place →
      host.kindAt place = .file
  | _ => True

/-- The step does not cover a place that an opened path depends on. -/
def Spares (host : Host) (path : String) (table : Table) (step : Step) : Prop :=
  ∀ point, step.point host table = .ok point → ¬ OnTheWay host table path point

variable {host : Host} {table next : Table} {step : Step}

/-- A step covers its place with an object of the same sort, or changes nothing. -/
theorem run_cases (done : step.run host table = .ok next) :
    (next = table ∧ ∃ errno, step.point host table = .error errno) ∨
      ∃ point object, step.point host table = .ok point ∧
        host.bare.isDirectory ⟨0, object⟩ = host.bare.isDirectory point ∧
        (step.Plain host table → object.DeadEnd host) ∧ next = attach table point object := by
  cases step with
  | tmpfile content target =>
    obtain ⟨point, found, _, file, same⟩ := bindMountTmpfile_eq_ok done
    right
    refine ⟨point, .temporary content, found, ?_, fun _ => Or.inr rfl, same⟩
    rw [isDirectory_of_file file, isDirectory_of_file rfl]
  | bind mount =>
    obtain ⟨source, point, named, found, alike, same⟩ := bindMountNofollow_eq_ok done
    right
    exact ⟨point, source.object, found, alike, fun plain => Or.inr (plain source named), same⟩
  | tmpfs =>
    have moved : mountTmpfs host table = next := by simpa [run] using done
    unfold mountTmpfs at moved
    unfold point
    split at moved
    · next place found =>
      right
      refine ⟨place, .tmpfs, found, ?_, fun _ => Or.inl rfl, moved.symm⟩
      have directory : host.bare.isDirectory place = true :=
        View.isDirectory_iff.mpr (tmpfsPoint_eq_ok found)
      rw [directory]
      rfl
    · next errno failed =>
      left
      exact ⟨moved.symm, errno, failed⟩

/-- A step keeps the mounts numbered and takes none away. -/
theorem run_numbered (numbered : Numbered table) (done : step.run host table = .ok next) :
    Numbered next ∧ table.length ≤ next.length := by
  cases run_cases done with
  | inl idle =>
    rw [idle.1]
    exact ⟨numbered, Nat.le_refl _⟩
  | inr attached =>
    obtain ⟨point, object, _, _, _, same⟩ := attached
    rw [same]
    exact ⟨numbered.attach point object, by simp [attach]⟩

/-- A step that spares a path leaves its lookup as it was. -/
theorem opened_run (numbered : Numbered table) {path : String}
    (spares : step.Spares host path table) (done : step.run host table = .ok next) :
    opened host next path = opened host table path := by
  cases run_cases done with
  | inl idle => rw [idle.1]
  | inr attached =>
    obtain ⟨point, object, found, alike, _, same⟩ := attached
    rw [same]
    exact opened_attach_of_not_onTheWay numbered alike (spares point found)

end Step

/-- The lookup of a path meets a mount later than the given one; with `ends`, it ends there. -/
def Shadowed (host : Host) (table : Table) (path : String) (own : Nat) (ends : Prop) : Prop :=
  ∃ place ∈ (opened host table path).visited, own < place.mount ∧
    (ends → (opened host table path).Ends place)

namespace Step

variable {host : Host} {table next : Table} {step : Step} {path : String} {own : Nat} {ends : Prop}

/-- A step that does not spare a path shadows it. -/
theorem shadowed_of_not_spares (later : own ≤ table.length)
    (plain : ends → step.Plain host table) (hits : ¬ step.Spares host path table)
    (done : step.run host table = .ok next) : Shadowed host next path own ends := by
  simp only [Spares, not_forall, not_not, exists_prop] at hits
  obtain ⟨place, covered, inside⟩ := hits
  cases run_cases done with
  | inl idle =>
    obtain ⟨_, errno, failed⟩ := idle
    exact absurd (covered.symm.trans failed) (by simp)
  | inr attached =>
    obtain ⟨point, object, found, alike, dead, same⟩ := attached
    have one : place = point := by
      injection covered.symm.trans found
    rw [one] at inside
    have met := opened_attach_of_onTheWay alike inside
    rw [same]
    refine ⟨_, met.1, ?_, fun stays => met.2 (dead (plain stays))⟩
    exact Nat.lt_succ_of_le later

/-- What shadows a path goes on doing so, or something later does. -/
theorem shadowed_run (numbered : Numbered table) (later : own ≤ table.length)
    (plain : ends → step.Plain host table) (shadowed : Shadowed host table path own ends)
    (done : step.run host table = .ok next) : Shadowed host next path own ends := by
  by_cases spares : step.Spares host path table
  · unfold Shadowed
    rw [opened_run numbered spares done]
    exact shadowed
  · exact shadowed_of_not_spares later plain spares done

end Step

/-- The steps one after the other. -/
def runSteps (host : Host) (table : Table) (steps : List Step) : Except Error Table :=
  steps.foldlM (fun table step => step.run host table) table

/-- Each step of a run has a property in the state before it. -/
def Along (host : Host) (each : Table → Step → Prop) : Table → List Step → Prop
  | _, [] => True
  | table, step :: steps =>
    each table step ∧ ∀ next, step.run host table = .ok next → Along host each next steps

section Runs

variable {host : Host} {table last : Table} {steps : List Step} {path : String} {own : Nat}
  {ends : Prop}

/-- Steps that all spare a path leave its lookup as it was. -/
theorem opened_runSteps (numbered : Numbered table)
    (spares : Along host (Step.Spares host path) table steps)
    (done : runSteps host table steps = .ok last) :
    opened host last path = opened host table path := by
  induction steps generalizing table with
  | nil =>
    injection done with same
    rw [same]
  | cons step steps ih =>
    obtain ⟨next, first, rest⟩ := Error.bind_eq_ok.mp done
    have kept := Step.run_numbered numbered first
    rw [ih kept.1 (spares.2 next first) rest]
    exact Step.opened_run numbered spares.1 first

/-- A path that is shadowed stays so. -/
theorem shadowed_runSteps (numbered : Numbered table) (later : own ≤ table.length)
    (plain : ends → Along host (Step.Plain host) table steps)
    (shadowed : Shadowed host table path own ends)
    (done : runSteps host table steps = .ok last) : Shadowed host last path own ends := by
  induction steps generalizing table with
  | nil =>
    injection done with same
    rw [← same]
    exact shadowed
  | cons step steps ih =>
    obtain ⟨next, first, rest⟩ := Error.bind_eq_ok.mp done
    have kept := Step.run_numbered numbered first
    have hidden := Step.shadowed_run numbered later (fun stays => (plain stays).1) shadowed first
    exact ih kept.1 (later.trans kept.2) (fun stays => (plain stays).2 next first) hidden rest

/-- A run with a step that does not spare a path shadows it. -/
theorem shadowed_of_not_along (numbered : Numbered table) (later : own ≤ table.length)
    (plain : ends → Along host (Step.Plain host) table steps)
    (hits : ¬ Along host (Step.Spares host path) table steps)
    (done : runSteps host table steps = .ok last) : Shadowed host last path own ends := by
  induction steps generalizing table with
  | nil => exact absurd trivial hits
  | cons step steps ih =>
    obtain ⟨next, first, rest⟩ := Error.bind_eq_ok.mp done
    have kept := Step.run_numbered numbered first
    have stillLater := later.trans kept.2
    have stillPlain : ends → Along host (Step.Plain host) next steps :=
      fun stays => (plain stays).2 next first
    by_cases spares : step.Spares host path table
    · apply ih kept.1 stillLater stillPlain _ rest
      intro along
      apply hits
      refine ⟨spares, fun other again => ?_⟩
      have same : next = other := by
        injection first.symm.trans again
      rw [← same]
      exact along
    · have hidden := Step.shadowed_of_not_spares later (fun stays => (plain stays).1) spares first
      exact shadowed_runSteps kept.1 stillLater stillPlain hidden rest

/-- An internal file still opens, with nothing later on the way to it, just when every later step
spares its path; when only files are mounted, it only opens then. -/
theorem opened_iff_along (numbered : Numbered table) {content target : String} {first : Table}
    (mounted : bindMountTmpfile host table content target = .ok first)
    (done : runSteps host first steps = .ok last) :
    ((opened host last target).result = .ok ⟨table.length + 1, .temporary content⟩ ∧
        (∀ place ∈ (opened host last target).visited, place.mount ≤ table.length + 1) ↔
      Along host (Step.Spares host target) first steps) ∧
    (Along host (Step.Plain host) first steps →
      ((opened host last target).result = .ok ⟨table.length + 1, .temporary content⟩ ↔
        Along host (Step.Spares host target) first steps)) := by
  obtain ⟨point, found, _, file, same⟩ := bindMountTmpfile_eq_ok mounted
  have own : (opened host first target).result = .ok ⟨table.length + 1, .temporary content⟩ := by
    rw [same]
    exact opened_attach_file (resolve_eq_ok.mp found) file
  have numberedFirst : Numbered first := by
    rw [same]
    exact numbered.attach _ _
  have length : first.length = table.length + 1 := by
    rw [same]
    simp [attach]
  have earlier : ∀ place ∈ (opened host first target).visited, place.mount ≤ table.length + 1 := by
    rw [← length]
    exact Host.mount_le_of_visited numberedFirst true _
  have kept : Along host (Step.Spares host target) first steps →
      (opened host last target) = opened host first target :=
    fun along => opened_runSteps numberedFirst along done
  constructor
  · constructor
    · intro open_
      by_contra hits
      have hidden := @shadowed_of_not_along host first last steps target (table.length + 1) False
        numberedFirst (Nat.le_of_eq length.symm) (fun never => never.elim) hits done
      obtain ⟨place, member, beyond, _⟩ := hidden
      have bound := open_.2 place member
      omega
    · intro along
      rw [kept along]
      exact ⟨own, earlier⟩
  · intro plain
    constructor
    · intro open_
      by_contra hits
      have hidden := @shadowed_of_not_along host first last steps target (table.length + 1) True
        numberedFirst (Nat.le_of_eq length.symm) (fun _ => plain) hits done
      obtain ⟨place, member, beyond, stops⟩ := hidden
      cases stops trivial with
      | inl reached =>
        rw [open_] at reached
        injection reached with atOwn
        rw [← atOwn] at beyond
        exact absurd beyond (Nat.lt_irrefl _)
      | inr failed =>
        obtain ⟨failure, failed⟩ := failed
        rw [open_] at failed
        cases failed
    · intro along
      rw [kept along]
      exact own

end Runs

/-- The mounts after the internal ones. -/
def laterSteps (mounts : List BindMount) : List Step := mounts.map .bind ++ [.tmpfs]

/-- The setup mounts the internal files and then runs the later steps. -/
theorem setupMountNamespace_eq_ok {host : Host} {mounts : List BindMount} {table : Table}
    (done : setupMountNamespace host mounts = .ok table) :
    ∃ first second, bindMountTmpfile host [] resolvConf "/etc/resolv.conf" = .ok first ∧
      bindMountTmpfile host first nsswitchConf "/etc/nsswitch.conf" = .ok second ∧
      runSteps host second (laterSteps mounts) = .ok table := by
  unfold setupMountNamespace at done
  obtain ⟨_, _, done⟩ := Error.bind_eq_ok.mp done
  obtain ⟨_, _, done⟩ := Error.bind_eq_ok.mp done
  obtain ⟨first, resolv, done⟩ := Error.bind_eq_ok.mp done
  obtain ⟨second, nsswitch, done⟩ := Error.bind_eq_ok.mp done
  obtain ⟨bound, binds, done⟩ := Error.bind_eq_ok.mp done
  refine ⟨first, second, Error.context_eq_ok.mp resolv, Error.context_eq_ok.mp nsswitch, ?_⟩
  unfold runSteps laterSteps
  rw [List.foldlM_append, List.foldlM_map]
  exact Error.bind_eq_ok.mpr ⟨bound, binds, done⟩

/-- Both paths open the internal files. -/
def InternalFiles (host : Host) (table : Table) : Prop :=
  (opened host table "/etc/resolv.conf").result = .ok ⟨1, .temporary resolvConf⟩ ∧
    (opened host table "/etc/nsswitch.conf").result = .ok ⟨2, .temporary nsswitchConf⟩

/-- No later mount is on the way to an internal file. -/
def Uncovered (host : Host) (table : Table) : Prop :=
  (∀ place ∈ (opened host table "/etc/resolv.conf").visited, place.mount ≤ 1) ∧
    ∀ place ∈ (opened host table "/etc/nsswitch.conf").visited, place.mount ≤ 2

/-- Every step after the mount of an internal file spares its path. -/
def Spared (host : Host) (mounts : List BindMount) : Prop :=
  ∀ first second, bindMountTmpfile host [] resolvConf "/etc/resolv.conf" = .ok first →
    bindMountTmpfile host first nsswitchConf "/etc/nsswitch.conf" = .ok second →
    Along host (Step.Spares host "/etc/resolv.conf") first
        (.tmpfile nsswitchConf "/etc/nsswitch.conf" :: laterSteps mounts) ∧
      Along host (Step.Spares host "/etc/nsswitch.conf") second (laterSteps mounts)

/-- Every source of a user's mount is a file, and no symlink, when it is mounted. -/
def PlainSources (host : Host) (mounts : List BindMount) : Prop :=
  ∀ first second, bindMountTmpfile host [] resolvConf "/etc/resolv.conf" = .ok first →
    bindMountTmpfile host first nsswitchConf "/etc/nsswitch.conf" = .ok second →
    Along host (Step.Plain host) second (laterSteps mounts)

/-- What is required of the steps after the internal mounts, for the tables that these leave. -/
theorem spared_iff {host : Host} {mounts : List BindMount} {first second : Table}
    (resolv : bindMountTmpfile host [] resolvConf "/etc/resolv.conf" = .ok first)
    (nsswitch : bindMountTmpfile host first nsswitchConf "/etc/nsswitch.conf" = .ok second) :
    Spared host mounts ↔
      Along host (Step.Spares host "/etc/resolv.conf") first
          (.tmpfile nsswitchConf "/etc/nsswitch.conf" :: laterSteps mounts) ∧
        Along host (Step.Spares host "/etc/nsswitch.conf") second (laterSteps mounts) := by
  constructor
  · intro all
    exact all first second resolv nsswitch
  · intro both other another resolvAgain nsswitchAgain
    have same : first = other := Except.ok.inj (resolv.symm.trans resolvAgain)
    rw [← same] at nsswitchAgain ⊢
    have sameSecond : second = another := Except.ok.inj (nsswitch.symm.trans nsswitchAgain)
    rw [← sameSecond]
    exact both

/-- After a setup, both paths open the internal files with nothing later on the way just when
every later mount spares the paths; when the sources are files and no symlinks, they only open
the internal files then. -/
theorem internal_files_iff_spared {host : Host} {mounts : List BindMount} {table : Table}
    (done : setupMountNamespace host mounts = .ok table) :
    (InternalFiles host table ∧ Uncovered host table ↔ Spared host mounts) ∧
      (PlainSources host mounts → (InternalFiles host table ↔ Spared host mounts)) := by
  obtain ⟨first, second, resolv, nsswitch, later⟩ := setupMountNamespace_eq_ok done
  have resolvSteps : runSteps host first
      (.tmpfile nsswitchConf "/etc/nsswitch.conf" :: laterSteps mounts) = .ok table :=
    Error.bind_eq_ok.mpr ⟨second, nsswitch, later⟩
  have length : first.length = 1 := by
    obtain ⟨point, _, _, _, same⟩ := bindMountTmpfile_eq_ok resolv
    simp [same, attach]
  have numbered : Numbered first :=
    (@Step.run_numbered host [] first (.tmpfile _ _) numbered_nil resolv).1
  have resolvIff := opened_iff_along numbered_nil resolv resolvSteps
  have nsswitchIff := opened_iff_along numbered nsswitch later
  rw [List.length_nil] at resolvIff
  rw [length] at nsswitchIff
  rw [spared_iff resolv nsswitch]
  constructor
  · rw [← resolvIff.1, ← nsswitchIff.1]
    exact and_and_and_comm
  · intro plain
    have laterPlain := plain first second resolv nsswitch
    have resolvPlain : Along host (Step.Plain host) first
        (.tmpfile nsswitchConf "/etc/nsswitch.conf" :: laterSteps mounts) := by
      refine ⟨trivial, fun next again => ?_⟩
      have same : second = next := Except.ok.inj (nsswitch.symm.trans again)
      rw [← same]
      exact laterPlain
    rw [← resolvIff.2 resolvPlain, ← nsswitchIff.2 laterPlain]
    rfl

end NsProxy.Setup
