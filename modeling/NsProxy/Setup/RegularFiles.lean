import NsProxy.Setup.Shadowing

/-!
# When the internal files open

The internal files open when no later mount is on their way. Where no symlink is named, the
check of `parse_bind_mounts` does what it is for. A file mounted over a file changes only what
the paths of the covered file name, so every path still leads to the place it led to before the
setup, or to what was mounted there; and a target whose identity is not that of an internal file
is another place. A symlink on the way to an internal file has an identity of its own, and the
check lets it through.
-/

namespace NsProxy.Setup

open Pathname (View)

/-- What a place is covered with in the end, when every mount covers a file. -/
def covering (table : Table) (place : Place) : Place :=
  table.foldl (fun place mount => View.replace mount.point mount.root place) place

/-- Every mount puts a file over a file. -/
def FilesOnly (host : Host) (table : Table) : Prop :=
  ∀ mount ∈ table, host.kindAt mount.point = .file ∧ host.kindAt mount.root = .file

/-- The path names a regular file, no symlink. -/
def Regular (host : Host) (path : String) : Prop :=
  ∃ identity, symlinkMetadata host path = .ok ⟨.file, identity⟩

section Covering

variable {host : Host} {table : Table} {place : Place}

/-- The latest mount covers what the earlier ones lead to. -/
theorem covering_concat (mount : Mount) :
    covering (table ++ [mount]) place =
      View.replace mount.point mount.root (covering table place) := by
  simp [covering, List.foldl_append]

/-- A place is itself or covered by the root of a mount. -/
theorem covering_cases (table : Table) (place : Place) :
    covering table place = place ∨ ∃ mount ∈ table, covering table place = mount.root := by
  induction table using List.reverseRecOn with
  | nil => exact Or.inl rfl
  | append_singleton table mount ih =>
    rw [covering_concat]
    by_cases hidden : covering table place = mount.point
    · right
      exact ⟨mount, by simp, by rw [hidden, View.replace_covered]⟩
    · rw [View.replace_of_ne hidden]
      cases ih with
      | inl same => exact Or.inl same
      | inr earlier =>
        obtain ⟨other, member, same⟩ := earlier
        right
        exact ⟨other, by simp [member], same⟩

/-- A place that no mount covers stays itself. -/
theorem covering_of_uncovered (free : ∀ mount ∈ table, mount.point ≠ place) :
    covering table place = place := by
  induction table using List.reverseRecOn with
  | nil => rfl
  | append_singleton table mount ih =>
    rw [covering_concat, ih (fun other member => free other (by simp [member]))]
    exact View.replace_of_ne (Ne.symm (free mount (by simp)))

/-- A covered file is a file. -/
theorem kindAt_covering (files : FilesOnly host table) (file : host.kindAt place = .file) :
    host.kindAt (covering table place) = .file := by
  cases covering_cases table place with
  | inl same => rw [same, file]
  | inr covered =>
    obtain ⟨mount, member, same⟩ := covered
    rw [same]
    exact (files mount member).2

/-- With files over files only, a path leads to what covers the place it named before. -/
theorem resolve_covering (files : FilesOnly host table) {follow : Bool} {path : String}
    (found : host.resolve [] follow path = .ok place) :
    host.resolve table follow path = .ok (covering table place) := by
  rw [resolve_eq_ok] at found ⊢
  induction table using List.reverseRecOn with
  | nil => exact found
  | append_singleton table mount ih =>
    have before := ih fun other member => files other (by simp [member])
    have both := files mount (by simp)
    rw [Host.view_concat, covering_concat]
    apply View.result_cover _ _ _ before
    · rw [View.isFile_iff, Host.kind_view, both.2]
    · rw [View.isFile_iff, Host.kind_view, both.1]
    · rw [View.isDirectory_iff, Host.kind_view, Host.root_view]
      exact host.kindAt_root

end Covering

section Parse

variable {host : Host} {path cwd side spec : String} {internal targets : List Identity}

/-- The metadata of a path are those of the entry it names. -/
theorem symlinkMetadata_eq_ok {node : Node} (found : symlinkMetadata host path = .ok node) :
    ∃ place, host.resolve [] false path = .ok place ∧ place.mount = 0 ∧
      ∃ names, place.object = .entry names ∧ host.files.node names = some node := by
  unfold symlinkMetadata at found
  split at found
  · cases found
  · split at found
    · next entry seen =>
      injection found with same
      unfold lstat at seen
      obtain ⟨_, _, seen⟩ := Error.bind_eq_ok.mp seen
      obtain ⟨place, named, seen⟩ := Error.bind_eq_ok.mp seen
      split at seen
      · next names object =>
        split at seen
        · next node present =>
          injection seen with sameNode
          rw [sameNode, same] at present
          have bound := @Host.mount_le_of_visited host [] numbered_nil false _ place
            (View.mem_visited_of_result (resolve_eq_ok.mp named))
          exact ⟨place, named, Nat.le_zero.mp bound, names, object, present⟩
        · cases seen
      · cases seen
    · cases found

/-- What is returned for a path has the identity of the path that is returned. -/
theorem inspectBindPath_eq_ok {named : String} {identity : Identity}
    (inspected : inspectBindPath host path cwd side spec = .ok (named, identity)) :
    ∃ node, symlinkMetadata host named = .ok node ∧ node.identity = identity := by
  unfold inspectBindPath at inspected
  obtain ⟨absolute, _, inspected⟩ := Error.bind_eq_ok.mp inspected
  obtain ⟨node, metadata, inspected⟩ := Error.bind_eq_ok.mp inspected
  rw [Error.context_eq_ok] at metadata
  split at inspected
  · injection inspected with same
    injection same with samePath sameIdentity
    rw [samePath] at metadata
    exact ⟨node, metadata, sameIdentity⟩
  · injection inspected with same
    injection same with samePath sameIdentity
    rw [samePath] at metadata
    exact ⟨node, metadata, sameIdentity⟩
  · cases inspected

/-- An accepted target is neither internal nor a target before. -/
theorem parseBindMount_eq_ok {mount : BindMount} {identity : Identity}
    (accepted : parseBindMount host cwd internal targets spec = .ok (mount, identity)) :
    (∃ node, symlinkMetadata host mount.target = .ok node ∧ node.identity = identity) ∧
      identity ∉ internal ∧ identity ∉ targets := by
  unfold parseBindMount at accepted
  dsimp only at accepted
  split at accepted
  · cases accepted
  · obtain ⟨source, _, accepted⟩ := Error.bind_eq_ok.mp accepted
    obtain ⟨target, inspected, accepted⟩ := Error.bind_eq_ok.mp accepted
    split at accepted
    · cases accepted
    · next outside =>
      split at accepted
      · cases accepted
      · next fresh =>
        injection accepted with same
        injection same with sameMount sameIdentity
        rw [← sameMount, ← sameIdentity]
        exact ⟨inspectBindPath_eq_ok inspected, outside, fresh⟩

/-- Two mounts have targets of different identities. -/
def Apart (host : Host) (one other : BindMount) : Prop :=
  ∀ node another, symlinkMetadata host one.target = .ok node →
    symlinkMetadata host other.target = .ok another → node.identity ≠ another.identity

/-- The accepted targets are neither internal nor targets before, and all different. -/
theorem parseEach_eq_ok {specs : List String} {mounts : List BindMount}
    (accepted : parseEach host cwd internal targets specs = .ok mounts) :
    (∀ mount ∈ mounts, ∃ node, symlinkMetadata host mount.target = .ok node ∧
      node.identity ∉ internal ∧ node.identity ∉ targets) ∧ mounts.Pairwise (Apart host) := by
  induction specs generalizing targets mounts with
  | nil =>
    injection accepted with same
    rw [← same]
    simp
  | cons spec specs ih =>
    obtain ⟨found, parsed, accepted⟩ := Error.bind_eq_ok.mp accepted
    obtain ⟨mount, identity⟩ := found
    obtain ⟨others, rest, accepted⟩ := Error.bind_eq_ok.mp accepted
    injection accepted with same
    obtain ⟨⟨node, metadata, own⟩, outside, fresh⟩ := parseBindMount_eq_ok parsed
    obtain ⟨each, apart⟩ := ih rest
    rw [← same]
    constructor
    · intro other member
      cases List.mem_cons.mp member with
      | inl first =>
        rw [first]
        exact ⟨node, metadata, own ▸ outside, own ▸ fresh⟩
      | inr among =>
        obtain ⟨another, seen, outsideToo, later⟩ := each other among
        exact ⟨another, seen, outsideToo, fun before => later (List.mem_cons_of_mem _ before)⟩
    · apply List.pairwise_cons.mpr
      refine ⟨fun other member left right seenLeft seenRight => ?_, apart⟩
      obtain ⟨another, seen, _, later⟩ := each other member
      injection metadata.symm.trans seenLeft with sameLeft
      injection seen.symm.trans seenRight with sameRight
      rw [← sameLeft, ← sameRight, own]
      exact fun equal => later (equal ▸ List.mem_cons_self)

/-- The accepted targets are not internal and all different. -/
theorem parseBindMounts_eq_ok {specs : List String} {mounts : List BindMount}
    (accepted : parseBindMounts host specs cwd = .ok mounts) :
    (∀ mount ∈ mounts, ∃ node, symlinkMetadata host mount.target = .ok node ∧
      ∀ path ∈ internalBindTargets, ∀ other, symlinkMetadata host path = .ok other →
        node.identity ≠ other.identity) ∧ mounts.Pairwise (Apart host) := by
  unfold parseBindMounts at accepted
  split at accepted
  · injection accepted with same
    rw [← same]
    simp
  · obtain ⟨nodes, inspected, accepted⟩ := Error.bind_eq_ok.mp accepted
    obtain ⟨each, apart⟩ := parseEach_eq_ok accepted
    refine ⟨fun mount member => ?_, apart⟩
    obtain ⟨node, metadata, outside, _⟩ := each mount member
    refine ⟨node, metadata, fun path internal other seen equal => outside ?_⟩
    rw [equal]
    exact List.mem_map_of_mem (Error.mem_of_mapM (Error.context_eq_ok.mp inspected) internal seen)

end Parse

section Runs

variable {host : Host} {table : Table}

/-- A regular file is named as a place of the file system. -/
theorem Regular.place {path : String} (regular : Regular host path) :
    ∃ place, host.resolve [] false path = .ok place ∧ place.mount = 0 ∧
      host.kindAt place = .file := by
  obtain ⟨identity, metadata⟩ := regular
  obtain ⟨place, found, zero, names, object, node⟩ := symlinkMetadata_eq_ok metadata
  exact ⟨place, found, zero, by simp [Host.kindAt, object, node]⟩

/-- Paths of different identities name different places. -/
theorem place_ne_of_identity_ne {one other : String} {node another : Node} {place : Place}
    (left : symlinkMetadata host one = .ok node) (right : symlinkMetadata host other = .ok another)
    (different : node.identity ≠ another.identity)
    (first : host.resolve [] false one = .ok place) :
    host.resolve [] false other ≠ .ok place := by
  intro second
  obtain ⟨here, found, _, names, object, seen⟩ := symlinkMetadata_eq_ok left
  obtain ⟨there, foundToo, _, namesToo, objectToo, seenToo⟩ := symlinkMetadata_eq_ok right
  injection first.symm.trans found with same
  injection second.symm.trans foundToo with sameToo
  have names_eq : names = namesToo := by
    have places : here = there := same.symm.trans sameToo
    rw [places, objectToo] at object
    exact (Object.entry.inj object).symm
  rw [names_eq, seenToo] at seen
  injection seen with nodes
  exact different (congrArg Node.identity nodes.symm)

/-- Following links makes no difference to a path that names a file. -/
theorem resolve_follow {path : String} {place : Place}
    (found : host.resolve table false path = .ok place) (file : host.kindAt place = .file) :
    host.resolve table true path = .ok place := by
  rw [resolve_eq_ok] at found ⊢
  rw [View.lookup_follow (by simp [file]) found]
  exact found

/-- A file that is attached to a file keeps the mounts to files. -/
theorem FilesOnly.attach (files : FilesOnly host table) {point : Place} {object : Object}
    (covered : host.kindAt point = .file) (covering : host.kindAt ⟨0, object⟩ = .file) :
    FilesOnly host (attach table point object) := by
  intro mount member
  cases List.mem_append.mp member with
  | inl earlier => exact files mount earlier
  | inr last =>
    rw [List.mem_singleton.mp last]
    exact ⟨covered, covering⟩

/-- A file that no mount has covered and that a path did not lead to is not on its way. -/
theorem not_onTheWay_of_file (numbered : Numbered table) (files : FilesOnly host table)
    {path : String} {own point : Place} (led : host.resolve [] true path = .ok own)
    (file : host.kindAt point = .file) (bare : point.mount = 0) (other : point ≠ own) :
    ¬ OnTheWay host table path point := by
  intro inside
  have result := resolve_eq_ok.mp (resolve_covering files led)
  have isFile : (host.view table).isFile point = true := by
    rw [View.isFile_iff, Host.kind_view, file]
  cases View.ends_of_isFile isFile inside.2 with
  | inl reached =>
    injection result.symm.trans reached with same
    cases covering_cases table own with
    | inl unchanged => exact other (same.symm.trans unchanged)
    | inr covered =>
      obtain ⟨mount, member, root⟩ := covered
      have positive := (numbered mount member).1
      rw [← root, same, bare] at positive
      exact absurd positive (Nat.lt_irrefl 0)
  | inr failed =>
    obtain ⟨failure, failed⟩ := failed
    exact absurd (result.symm.trans failed) (by simp)

/-- Mounts of regular files over regular files, all different and none where a path led before
the setup, spare the path and put files there. -/
theorem along_of_regular {path : String} {own : Place} (led : host.resolve [] true path = .ok own)
    {mounts : List BindMount} (numbered : Numbered table) (files : FilesOnly host table)
    (regular : ∀ mount ∈ mounts, Regular host mount.source ∧ Regular host mount.target)
    (apart : mounts.Pairwise (Apart host))
    (free : ∀ mount ∈ mounts, ∀ place, host.resolve [] false mount.target = .ok place →
      place ≠ own ∧ ∀ earlier ∈ table, earlier.point ≠ place) :
    Along host (fun table step => step.Spares host path table ∧ step.Plain host table) table
      (mounts.map .bind) := by
  induction mounts generalizing table with
  | nil => trivial
  | cons mount mounts ih =>
    have both := regular mount List.mem_cons_self
    obtain ⟨source, sourceNamed, _, sourceFile⟩ := both.1.place
    obtain ⟨target, targetNamed, bare, targetFile⟩ := both.2.place
    have aside := free mount List.mem_cons_self target targetNamed
    have foundTarget : host.resolve table false mount.target = .ok target := by
      rw [resolve_covering files targetNamed, covering_of_uncovered aside.2]
    refine ⟨⟨fun point found => ?_, fun place opened => ?_⟩, fun next done => ?_⟩
    · injection found.symm.trans foundTarget with same
      rw [same]
      exact not_onTheWay_of_file numbered files led targetFile bare aside.1
    · injection opened.symm.trans (resolve_covering files sourceNamed) with same
      rw [same]
      exact kindAt_covering files sourceFile
    · have done : bindMountNofollow host table mount = .ok next := done
      obtain ⟨object, point, opened, found, _, attached⟩ := bindMountNofollow_eq_ok done
      injection found.symm.trans foundTarget with samePoint
      injection opened.symm.trans (resolve_covering files sourceNamed) with sameSource
      rw [attached, samePoint, sameSource]
      have fileAbove := kindAt_covering files sourceFile
      apply ih (numbered.attach _ _) (files.attach targetFile fileAbove)
        (fun other member => regular other (List.mem_cons_of_mem _ member))
        (List.pairwise_cons.mp apart).2
      intro other member place named
      have before := free other (List.mem_cons_of_mem _ member) place named
      refine ⟨before.1, fun earlier placed => ?_⟩
      cases List.mem_append.mp placed with
      | inl older => exact before.2 earlier older
      | inr newest =>
        rw [List.mem_singleton.mp newest]
        intro (same : target = place)
        rw [← same] at named
        obtain ⟨identity, metadata⟩ := both.2
        obtain ⟨identityToo, metadataToo⟩ := (regular other (List.mem_cons_of_mem _ member)).2
        have different := (List.pairwise_cons.mp apart).1 other member _ _ metadata metadataToo
        exact place_ne_of_identity_ne metadata metadataToo different targetNamed named

/-- The internal files over regular files: the second is mounted where its path led before the
setup, which is not where the first path led. -/
theorem nsswitch_point (internal : ∀ path ∈ internalBindTargets, Regular host path)
    {first second : Table}
    (resolv : bindMountTmpfile host [] resolvConf "/etc/resolv.conf" = .ok first)
    (nsswitch : bindMountTmpfile host first nsswitchConf "/etc/nsswitch.conf" = .ok second) :
    ∃ place other, host.resolve [] false "/etc/resolv.conf" = .ok place ∧
      host.resolve [] false "/etc/nsswitch.conf" = .ok other ∧ other ≠ place ∧
      host.kindAt place = .file ∧ host.kindAt other = .file ∧ other.mount = 0 ∧
      host.resolve first true "/etc/nsswitch.conf" = .ok other ∧
      first = attach [] place (.temporary resolvConf) ∧
      second = attach first other (.temporary nsswitchConf) := by
  obtain ⟨place, named, _, file⟩ := (internal "/etc/resolv.conf" (by decide)).place
  obtain ⟨other, namedToo, bare, fileToo⟩ := (internal "/etc/nsswitch.conf" (by decide)).place
  obtain ⟨point, found, _, _, firstIs⟩ := bindMountTmpfile_eq_ok resolv
  obtain ⟨pointToo, foundToo, linked, _, secondIs⟩ := bindMountTmpfile_eq_ok nsswitch
  injection found.symm.trans (resolve_follow named file) with atPlace
  rw [atPlace] at firstIs
  have none : FilesOnly host [] := by simp [FilesOnly]
  have files : FilesOnly host first := by
    rw [firstIs]
    exact none.attach file rfl
  injection foundToo.symm.trans (resolve_covering files (resolve_follow namedToo fileToo))
    with atOther
  have single : covering first other =
      View.replace place ⟨1, .temporary resolvConf⟩ other := by
    rw [firstIs]
    rfl
  have apart : other ≠ place := by
    intro same
    rw [atOther, single, same, View.replace_covered] at linked
    cases linked
  rw [single, View.replace_of_ne apart] at atOther
  rw [atOther] at foundToo secondIs
  exact ⟨place, other, named, namedToo, apart, file, fileToo, bare, foundToo, firstIs, secondIs⟩

/-- The internal files over regular files: each mount is where one of the paths led. -/
theorem internal_mounts (internal : ∀ path ∈ internalBindTargets, Regular host path)
    {first second : Table}
    (resolv : bindMountTmpfile host [] resolvConf "/etc/resolv.conf" = .ok first)
    (nsswitch : bindMountTmpfile host first nsswitchConf "/etc/nsswitch.conf" = .ok second) :
    Numbered second ∧ FilesOnly host second ∧ ∀ mount ∈ second,
      ∃ path ∈ internalBindTargets, host.resolve [] false path = .ok mount.point := by
  obtain ⟨place, other, named, namedToo, _, file, fileToo, _, _, firstIs, secondIs⟩ :=
    nsswitch_point internal resolv nsswitch
  have none : FilesOnly host [] := by simp [FilesOnly]
  rw [secondIs, firstIs]
  refine ⟨(numbered_nil.attach _ _).attach _ _, (none.attach file rfl).attach fileToo rfl, ?_⟩
  intro mount member
  cases List.mem_append.mp member with
  | inl earlier =>
    refine ⟨"/etc/resolv.conf", by decide, ?_⟩
    rw [List.mem_singleton.mp earlier]
    exact named
  | inr last =>
    refine ⟨"/etc/nsswitch.conf", by decide, ?_⟩
    rw [List.mem_singleton.mp last]
    exact namedToo

/-- The second internal mount is not on the way of the first path. -/
theorem nsswitch_spares (internal : ∀ path ∈ internalBindTargets, Regular host path)
    {first second : Table}
    (resolv : bindMountTmpfile host [] resolvConf "/etc/resolv.conf" = .ok first)
    (nsswitch : bindMountTmpfile host first nsswitchConf "/etc/nsswitch.conf" = .ok second) :
    (Step.tmpfile nsswitchConf "/etc/nsswitch.conf").Spares host "/etc/resolv.conf" first := by
  obtain ⟨place, other, named, _, apart, file, fileToo, bare, found, firstIs, _⟩ :=
    nsswitch_point internal resolv nsswitch
  have none : FilesOnly host [] := by simp [FilesOnly]
  have files : FilesOnly host first := by
    rw [firstIs]
    exact none.attach file rfl
  have numbered : Numbered first := by
    rw [firstIs]
    exact numbered_nil.attach _ _
  intro point covered
  injection covered.symm.trans found with same
  rw [same]
  exact not_onTheWay_of_file numbered files (resolve_follow named file) fileToo bare apart

/-- Where the internal paths, the sources and the targets are regular files, accepted mounts
spare the internal paths. -/
theorem along_of_accepted {specs : List String} {cwd : String} {mounts : List BindMount}
    (accepted : parseBindMounts host specs cwd = .ok mounts)
    (internal : ∀ path ∈ internalBindTargets, Regular host path)
    (regular : ∀ mount ∈ mounts, Regular host mount.source ∧ Regular host mount.target)
    {first second : Table}
    (resolv : bindMountTmpfile host [] resolvConf "/etc/resolv.conf" = .ok first)
    (nsswitch : bindMountTmpfile host first nsswitchConf "/etc/nsswitch.conf" = .ok second) :
    ∀ path ∈ internalBindTargets,
      Along host (fun table step => step.Spares host path table ∧ step.Plain host table) second
        (mounts.map .bind) := by
  obtain ⟨outside, apart⟩ := parseBindMounts_eq_ok accepted
  obtain ⟨numbered, files, points⟩ := internal_mounts internal resolv nsswitch
  -- The identity check keeps every target away from the two internal files.
  have away : ∀ mount ∈ mounts, ∀ place, host.resolve [] false mount.target = .ok place →
      ∀ path ∈ internalBindTargets, host.resolve [] false path ≠ .ok place := by
    intro mount member place target path inside
    obtain ⟨node, metadata, different⟩ := outside mount member
    obtain ⟨identity, metadataToo⟩ := internal path inside
    exact place_ne_of_identity_ne metadata metadataToo (different path inside _ metadataToo) target
  intro path inside
  obtain ⟨own, named, _, file⟩ := (internal path inside).place
  apply along_of_regular (resolve_follow named file) numbered files regular apart
  intro mount member place target
  have off := away mount member place target
  constructor
  · intro same
    rw [← same] at named
    exact off path inside named
  · intro earlier placed same
    obtain ⟨other, internalToo, there⟩ := points earlier placed
    rw [same] at there
    exact off other internalToo there

end Runs

/-! ## When the internal files open -/

/-- The place of the `tmpfs` is on the way of no internal path, when it is mounted. -/
def TmpfsSpares (host : Host) (mounts : List BindMount) : Prop :=
  ∀ first second bound, bindMountTmpfile host [] resolvConf "/etc/resolv.conf" = .ok first →
    bindMountTmpfile host first nsswitchConf "/etc/nsswitch.conf" = .ok second →
    runSteps host second (mounts.map .bind) = .ok bound →
    ∀ path ∈ internalBindTargets, Step.tmpfs.Spares host path bound

/-- Two properties of each step. -/
theorem along_and {host : Host} {one other : Table → Step → Prop} {table : Table}
    {steps : List Step} :
    Along host (fun table step => one table step ∧ other table step) table steps ↔
      Along host one table steps ∧ Along host other table steps := by
  induction steps generalizing table with
  | nil => simp [Along]
  | cons step steps ih =>
    simp only [Along, ih]
    constructor
    · intro both
      exact ⟨⟨both.1.1, fun next done => (both.2 next done).1⟩,
        ⟨both.1.2, fun next done => (both.2 next done).2⟩⟩
    · intro both
      exact ⟨⟨both.1.1, both.2.1⟩, fun next done => ⟨both.1.2 next done, both.2.2 next done⟩⟩

/-- A property of each step, up to a state and from there on. -/
theorem along_append {host : Host} {each : Table → Step → Prop} {table : Table}
    {steps more : List Step} :
    Along host each table (steps ++ more) ↔ Along host each table steps ∧
      ∀ bound, runSteps host table steps = .ok bound → Along host each bound more := by
  induction steps generalizing table with
  | nil =>
    constructor
    · intro along
      refine ⟨trivial, fun bound done => ?_⟩
      injection done with same
      rw [← same]
      exact along
    · intro both
      exact both.2 table rfl
  | cons step steps ih =>
    simp only [List.cons_append, Along, ih]
    constructor
    · intro along
      refine ⟨⟨along.1, fun next done => (along.2 next done).1⟩, fun bound done => ?_⟩
      obtain ⟨next, first, rest⟩ := Error.bind_eq_ok.mp done
      exact (along.2 next first).2 bound rest
    · intro both
      refine ⟨both.1.1, fun next done => ⟨both.1.2 next done, fun bound rest => ?_⟩⟩
      exact both.2 bound (Error.bind_eq_ok.mpr ⟨next, done, rest⟩)

/-- With accepted mounts of regular files, only the `tmpfs` can be on the way. -/
theorem spared_iff_tmpfsSpares {host : Host} {specs : List String} {cwd : String}
    {mounts : List BindMount} {table : Table}
    (accepted : parseBindMounts host specs cwd = .ok mounts)
    (done : setupMountNamespace host mounts = .ok table)
    (internal : ∀ path ∈ internalBindTargets, Regular host path)
    (regular : ∀ mount ∈ mounts, Regular host mount.source ∧ Regular host mount.target) :
    PlainSources host mounts ∧ (Spared host mounts ↔ TmpfsSpares host mounts) := by
  obtain ⟨first, second, resolv, nsswitch, later⟩ := setupMountNamespace_eq_ok done
  have each := along_of_accepted accepted internal regular resolv nsswitch
  have users : ∀ path ∈ internalBindTargets,
      Along host (Step.Spares host path) second (mounts.map .bind) :=
    fun path inside => (along_and.mp (each path inside)).1
  have plain := (along_and.mp (each "/etc/resolv.conf" (by decide))).2
  have last : ∀ path ∈ internalBindTargets,
      (Along host (Step.Spares host path) second (laterSteps mounts) ↔
        ∀ bound, runSteps host second (mounts.map .bind) = .ok bound →
          Step.tmpfs.Spares host path bound) := by
    intro path inside
    unfold laterSteps
    rw [along_append]
    simp [users path inside, Along]
  constructor
  · intro other another resolvAgain nsswitchAgain
    have same : first = other := Except.ok.inj (resolv.symm.trans resolvAgain)
    rw [← same] at nsswitchAgain
    have sameSecond : second = another := Except.ok.inj (nsswitch.symm.trans nsswitchAgain)
    rw [← sameSecond]
    unfold laterSteps
    rw [along_append]
    exact ⟨plain, fun bound _ => ⟨trivial, fun _ _ => trivial⟩⟩
  · rw [spared_iff resolv nsswitch, last "/etc/nsswitch.conf" (by decide)]
    constructor
    · intro both other another bound resolvAgain nsswitchAgain ran path inside
      have same : first = other := Except.ok.inj (resolv.symm.trans resolvAgain)
      rw [← same] at nsswitchAgain
      have sameSecond : second = another := Except.ok.inj (nsswitch.symm.trans nsswitchAgain)
      rw [← sameSecond] at ran
      have resolvSpared := (last "/etc/resolv.conf" (by decide)).mp (both.1.2 second nsswitch)
      simp only [internalBindTargets, List.mem_cons, List.not_mem_nil, or_false] at inside
      rcases inside with one | two
      · rw [one]
        exact resolvSpared bound ran
      · rw [two]
        exact both.2 bound ran
    · intro spares
      refine ⟨⟨nsswitch_spares internal resolv nsswitch, fun next again => ?_⟩, ?_⟩
      · have same : second = next := Except.ok.inj (nsswitch.symm.trans again)
        rw [← same, last "/etc/resolv.conf" (by decide)]
        intro bound ran
        exact spares first second bound resolv nsswitch ran _ (by decide)
      · intro bound ran
        exact spares first second bound resolv nsswitch ran _ (by decide)

/-- The names of a path. -/
def names (path : List String) : List Name := path.map Text.asBytes

/-- The files of a machine whose `/etc/resolv.conf` leads into `/run` over two symlinks. -/
def stubEntries : List (List String × Node) :=
  [([], ⟨.directory, 1, 2⟩),
    (["etc"], ⟨.directory, 1, 11⟩),
    (["etc", "resolv.conf"], ⟨.symlink (Text.asBytes "../run/link"), 1, 12⟩),
    (["etc", "nsswitch.conf"], ⟨.file, 1, 13⟩),
    (["etc", "hosts"], ⟨.file, 1, 14⟩),
    (["run"], ⟨.directory, 2, 1⟩),
    (["run", "link"], ⟨.symlink (Text.asBytes "stub-resolv.conf"), 2, 3⟩),
    (["run", "stub-resolv.conf"], ⟨.file, 2, 2⟩),
    (["home"], ⟨.directory, 1, 21⟩),
    (["home", "my.conf"], ⟨.file, 1, 22⟩)]

/-- A machine whose `/etc/resolv.conf` leads into `/run` over two symlinks. -/
def stubHost : Host where
  files := ⟨fun path => (stubEntries.find? fun entry => names entry.1 = path).map Prod.snd,
    by decide +kernel⟩
  currentDir := "/home"
  temporaryPath _ := "/tmp/nsproxy-Ab3dEf"
  refuse _ := none

/-- The internal mounts on that machine, and a file of the user over one more place. -/
def stubTable (point : Place) : Table :=
  [⟨⟨0, .entry (names ["run", "stub-resolv.conf"])⟩, ⟨1, .temporary resolvConf⟩⟩,
    ⟨⟨0, .entry (names ["etc", "nsswitch.conf"])⟩, ⟨2, .temporary nsswitchConf⟩⟩,
    ⟨point, ⟨3, .entry (names ["home", "my.conf"])⟩⟩]

/-- The mounts with the file of the user over `/etc/hosts`. -/
def hostsTable : Table := stubTable ⟨0, .entry (names ["etc", "hosts"])⟩

/-- The mounts with the file of the user over `/run/link`. -/
def shadowTable : Table := stubTable ⟨0, .entry (names ["run", "link"])⟩

/-- A mount that puts the user's file over `/etc/hosts`. -/
def hostsMount : BindMount := ⟨"/home/my.conf", "/etc/hosts"⟩

/-- The file that the symlinks lead to is accepted as a target too, but nothing can be mounted
on the internal file, which was unlinked. -/
example : setupMountNamespace stubHost [⟨"/home/my.conf", "/run/stub-resolv.conf"⟩] =
    .error ["attach bind-mount source \"/home/my.conf\" over target \"/run/stub-resolv.conf\"",
      "No such file or directory (os error 2)"] := by decide +kernel

end NsProxy.Setup
