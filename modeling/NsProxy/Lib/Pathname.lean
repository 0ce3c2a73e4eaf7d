import Mathlib.Data.List.Basic

/-!
# Path lookup through links and mounts

A lookup walks the components of a path from the root. It searches directories for names,
follows the links it meets and keeps the directories above the present one for `..`. Which
entry a name leads to is a parameter, so that a place can be covered by another one: that is
what a mount does. `visited` lists the places a lookup depends on, and `walk_covers` says how
covering one place changes a lookup.
-/

namespace NsProxy.Pathname

/-- One component of a path. -/
inductive Component (N : Type)
  | current
  | parent
  | name (name : N)
  deriving DecidableEq, Repr

/-- The parts of a path text. -/
structure Path (N : Type) where
  /-- Whether the text begins with a slash. -/
  absolute : Bool
  /-- The components in order. -/
  components : List (Component N)
  /-- Whether the text ends in a slash, so that only a directory will do. -/
  slash : Bool
  deriving DecidableEq, Repr

/-- What a lookup finds at a place. -/
inductive Kind (N : Type)
  | directory
  | link (text : Path N)
  | file
  deriving DecidableEq, Repr

/-- Why a lookup finds nothing. -/
inductive Failure
  | notFound
  | notDirectory
  | loop
  deriving DecidableEq, Repr

/-- The places a lookup can reach. -/
structure View (P N : Type) where
  /-- Where absolute paths begin. -/
  root : P
  /-- What is at a place. -/
  kind : P → Kind N
  /-- The place a name of a directory leads to, with everything mounted there. -/
  enter : P → N → Option P

/-- A finished lookup. -/
structure Lookup (P : Type) where
  /-- The directories searched, the links followed and the place where the lookup ended. -/
  visited : List P
  /-- The place the path names. -/
  result : Except Failure P

variable {P N : Type}

namespace Lookup

/-- A lookup that also depends on a place met before. -/
def visit (place : P) (lookup : Lookup P) : Lookup P :=
  { lookup with visited := place :: lookup.visited }

/-- The lookup finds this place or nothing. -/
def Ends (place : P) (lookup : Lookup P) : Prop :=
  lookup.result = .ok place ∨ ∃ failure, lookup.result = .error failure

/-- A place that is passed comes first among the visited ones. -/
@[simp] theorem visited_visit (place : P) (lookup : Lookup P) :
    (lookup.visit place).visited = place :: lookup.visited := rfl

/-- A place that is passed leaves the result alone. -/
@[simp] theorem result_visit (place : P) (lookup : Lookup P) :
    (lookup.visit place).result = lookup.result := rfl

/-- A place that is passed leaves the end alone. -/
@[simp] theorem ends_visit (place last : P) (lookup : Lookup P) :
    (lookup.visit place).Ends last ↔ lookup.Ends last := Iff.rfl

end Lookup

namespace View

/-- Whether names can be looked up at a place. -/
def isDirectory (view : View P N) (place : P) : Bool :=
  match view.kind place with
  | .directory => true
  | _ => false

/-- Whether a place is a file that is neither a directory nor a link. -/
def isFile (view : View P N) (place : P) : Bool :=
  match view.kind place with
  | .file => true
  | _ => false

/-- A directory is told by its kind. -/
theorem isDirectory_iff {view : View P N} {place : P} :
    view.isDirectory place = true ↔ view.kind place = .directory := by
  unfold isDirectory
  split <;> simp_all

/-- A regular file is told by its kind. -/
theorem isFile_iff {view : View P N} {place : P} :
    view.isFile place = true ↔ view.kind place = .file := by
  unfold isFile
  split <;> simp_all

/-- The lookup comes to a place in a directory and goes `deeper` there, except at a link. -/
def arrive (view : View P N) (follow : Bool)
    (again : P → List P → List (Component N) → Bool → Lookup P) (here : P) (above : List P)
    (rest : List (Component N)) (slash : Bool) (next : P) (deeper : Lookup P) : Lookup P :=
  match view.kind next with
  | .link text =>
    -- A link that is named last is the result unless it has to be followed.
    if rest.isEmpty && !slash && !follow then ⟨[next], .ok next⟩
    else
      Lookup.visit next <|
        if text.absolute then
          again view.root [] (text.components ++ rest) (slash || rest.isEmpty && text.slash)
        else again here above (text.components ++ rest) (slash || rest.isEmpty && text.slash)
  | _ => deeper

/-- The lookup up to the first link it follows, which `again` continues. -/
def walkLinks (view : View P N) (follow : Bool)
    (again : P → List P → List (Component N) → Bool → Lookup P) :
    P → List P → List (Component N) → Bool → Lookup P
  | here, _, [], slash =>
    ⟨[here], if !slash || view.isDirectory here then .ok here else .error .notDirectory⟩
  | here, above, component :: rest, slash =>
    if view.isDirectory here then
      match component with
      | .current => walkLinks view follow again here above rest slash
      | .parent =>
        match above with
        -- The root is its own parent.
        | [] => walkLinks view follow again here [] rest slash
        | up :: above => walkLinks view follow again up above rest slash
      | .name name =>
        Lookup.visit here <|
          match view.enter here name with
          | none => ⟨[], .error .notFound⟩
          | some next =>
            view.arrive follow again here above rest slash next
              (walkLinks view follow again next (here :: above) rest slash)
    else ⟨[here], .error .notDirectory⟩

/-- The lookup that follows at most this many links. -/
def walk (view : View P N) (follow : Bool) :
    Nat → P → List P → List (Component N) → Bool → Lookup P
  | 0 => view.walkLinks follow fun _ _ _ _ => ⟨[], .error .loop⟩
  | links + 1 => view.walkLinks follow (walk view follow links)

/-- `MAXSYMLINKS`. -/
def maxLinks : Nat := 40

/-- The lookup of an absolute path. -/
def lookup (view : View P N) (follow : Bool) (path : Path N) : Lookup P :=
  view.walk follow maxLinks view.root [] path.components path.slash

section Arrive

variable {view : View P N} {follow : Bool}
  {again : P → List P → List (Component N) → Bool → Lookup P} {here next : P} {above : List P}
  {rest : List (Component N)} {slash : Bool} {deeper : Lookup P}

/-- What is no link is arrived at itself. -/
theorem arrive_of_not_link (file : ∀ text, view.kind next ≠ .link text) :
    view.arrive follow again here above rest slash next deeper = deeper := by
  unfold arrive
  split
  · next text kind => exact absurd kind (file text)
  · rfl

/-- A directory is arrived at itself. -/
theorem arrive_of_directory (directory : view.isDirectory next = true) :
    view.arrive follow again here above rest slash next deeper = deeper := by
  apply arrive_of_not_link
  simp [isDirectory_iff.mp directory]

/-- The lookup stops at what is no directory. -/
theorem walkLinks_of_not_directory (directory : view.isDirectory here = false) :
    view.walkLinks follow again here above rest slash =
      ⟨[here], if rest.isEmpty && !slash then .ok here else .error .notDirectory⟩ := by
  cases rest with
  | nil => simp [walkLinks, directory]
  | cons component rest => simp [walkLinks, directory]

/-- A lookup depends on every place it comes to that is no directory. -/
theorem mem_visited_arrive (directory : view.isDirectory next = false) :
    next ∈ (view.arrive follow again here above rest slash next
      (view.walkLinks follow again next (here :: above) rest slash)).visited := by
  unfold arrive
  split
  · split <;> simp
  · simp [walkLinks_of_not_directory directory]

end Arrive

section Rule

variable {view : View P N} {follow : Bool} {inside : P → Prop} {good : Lookup P → Prop}

/-- A property of lookups that stay inside a set of places, for the part up to a link. -/
theorem walkLinks_rule (root : inside view.root)
    (enter : ∀ place name next, inside place → view.enter place name = some next → inside next)
    (found : ∀ place, inside place → good ⟨[place], .ok place⟩)
    (failed : ∀ place failure, inside place → good ⟨[place], .error failure⟩)
    (lost : ∀ failure, good ⟨[], .error failure⟩)
    (visit : ∀ place lookup, inside place → view.isFile place = false → good lookup →
      good (lookup.visit place))
    {again : P → List P → List (Component N) → Bool → Lookup P}
    (continued : ∀ here above components slash, inside here → (∀ place ∈ above, inside place) →
      good (again here above components slash)) :
    ∀ components here above slash, inside here → (∀ place ∈ above, inside place) →
      good (view.walkLinks follow again here above components slash) := by
  intro components
  induction components with
  | nil =>
    intro here above slash start _
    unfold walkLinks
    split
    · exact found here start
    · exact failed here _ start
  | cons component rest ih =>
    intro here above slash start higher
    unfold walkLinks
    by_cases directory : view.isDirectory here = true
    · have searched : view.isFile here = false := by
        simp [isFile, isDirectory_iff.mp directory]
      rw [if_pos directory]
      cases component with
      | current => exact ih here above slash start higher
      | parent =>
        cases above with
        | nil => exact ih here [] slash start (by simp)
        | cons up above =>
          have both := List.forall_mem_cons.mp higher
          exact ih up above slash both.1 both.2
      | name name =>
        apply visit here _ start searched
        cases entered : view.enter here name with
        | none => exact lost _
        | some next =>
          have reached := enter here name next start entered
          have deeper := ih next (here :: above) slash reached
            (List.forall_mem_cons.mpr ⟨start, higher⟩)
          dsimp only
          unfold arrive
          split
          · next text kind =>
            have followed : view.isFile next = false := by simp [isFile, kind]
            split
            · exact found next reached
            · apply visit next _ reached followed
              split
              · exact continued _ _ _ _ root (by simp)
              · exact continued _ _ _ _ start higher
          · exact deeper
    · rw [if_neg directory]
      exact failed here _ start

/-- A property of lookups that stay inside a set of places holds of every lookup. -/
theorem lookup_rule (root : inside view.root)
    (enter : ∀ place name next, inside place → view.enter place name = some next → inside next)
    (found : ∀ place, inside place → good ⟨[place], .ok place⟩)
    (failed : ∀ place failure, inside place → good ⟨[place], .error failure⟩)
    (lost : ∀ failure, good ⟨[], .error failure⟩)
    (visit : ∀ place lookup, inside place → view.isFile place = false → good lookup →
      good (lookup.visit place)) (path : Path N) : good (view.lookup follow path) := by
  have walks : ∀ links here above components slash, inside here →
      (∀ place ∈ above, inside place) →
      good (view.walk follow links here above components slash) := by
    intro links
    induction links with
    | zero =>
      intro here above components slash start higher
      exact walkLinks_rule root enter found failed lost visit (fun _ _ _ _ _ _ => lost _)
        components here above slash start higher
    | succ links ih =>
      intro here above components slash start higher
      exact walkLinks_rule root enter found failed lost visit ih components here above slash
        start higher
  exact walks _ _ _ _ _ root (by simp)

end Rule

variable {view : View P N} {follow : Bool} {path : Path N}

/-- What a path names is a place its lookup depends on. -/
theorem mem_visited_of_result {place : P} (found : (view.lookup follow path).result = .ok place) :
    place ∈ (view.lookup follow path).visited := by
  have all : ∀ last, (view.lookup follow path).result = .ok last →
      last ∈ (view.lookup follow path).visited := by
    apply @lookup_rule P N view follow (fun _ => True)
      (fun lookup => ∀ last, lookup.result = .ok last → last ∈ lookup.visited)
    · trivial
    · simp
    · simp
    · simp
    · simp
    · intro place lookup _ _ member last result
      exact List.mem_cons_of_mem place (member last result)
  exact all place found

/-- A lookup that comes to a file goes no further. -/
theorem ends_of_isFile {place : P} (file : view.isFile place = true)
    (member : place ∈ (view.lookup follow path).visited) :
    (view.lookup follow path).Ends place := by
  have all : ∀ last ∈ (view.lookup follow path).visited, view.isFile last = true →
      (view.lookup follow path).Ends last := by
    apply @lookup_rule P N view follow (fun _ => True)
      (fun lookup => ∀ last ∈ lookup.visited, view.isFile last = true → lookup.Ends last)
    · trivial
    · simp
    · simp [Lookup.Ends]
    · simp [Lookup.Ends]
    · simp
    · intro place lookup _ notFile ends last seen lastFile
      cases List.mem_cons.mp seen with
      | inl same =>
        rw [same, notFile] at lastFile
        cases lastFile
      | inr later => exact ends last later lastFile
  exact all place member file

/-- Every place a lookup depends on has what the root has and entering keeps. -/
theorem forall_visited {inside : P → Prop} (root : inside view.root)
    (enter : ∀ place name next, inside place → view.enter place name = some next →
      inside next) : ∀ place ∈ (view.lookup follow path).visited, inside place := by
  apply @lookup_rule P N view follow inside
    (fun lookup => ∀ place ∈ lookup.visited, inside place) root enter
  · simp
  · simp
  · simp
  · intro place lookup start _ all
    exact List.forall_mem_cons.mpr ⟨start, all⟩

/-- Whether links are followed at the end makes no difference to a path that names none, for the
part up to a link. -/
theorem walkLinks_follow {again after : P → List P → List (Component N) → Bool → Lookup P}
    {place : P} (noLink : ∀ text, view.kind place ≠ .link text)
    (continued : ∀ here above components slash,
      (again here above components slash).result = .ok place →
      after here above components slash = again here above components slash) :
    ∀ components here above slash,
      (view.walkLinks false again here above components slash).result = .ok place →
      view.walkLinks true after here above components slash =
        view.walkLinks false again here above components slash := by
  intro components
  induction components with
  | nil =>
    intro here above slash _
    rfl
  | cons component rest ih =>
    intro here above slash found
    unfold walkLinks at found ⊢
    by_cases directory : view.isDirectory here = true
    · rw [if_pos directory] at found ⊢
      rw [if_pos directory]
      cases component with
      | current => exact ih here above slash found
      | parent =>
        cases above with
        | nil => exact ih here [] slash found
        | cons up above => exact ih up above slash found
      | name name =>
        cases entered : view.enter here name with
        | none => simp only [entered]
        | some next =>
          simp only [entered, Lookup.result_visit] at found ⊢
          congr 1
          unfold arrive at found ⊢
          split
          · next text kind =>
            simp only [kind] at found
            split at found
            · injection found with same
              exact absurd (same ▸ kind) (noLink text)
            · next followed =>
              rw [if_neg followed, if_neg (by simp)]
              rw [Lookup.result_visit] at found
              congr 1
              split at found
              · next absolute =>
                rw [if_pos absolute, if_pos absolute]
                exact continued _ _ _ _ found
              · next relative =>
                rw [if_neg relative, if_neg relative]
                exact continued _ _ _ _ found
          · next other =>
            have deeper : (view.walkLinks false again next (here :: above) rest slash).result =
                .ok place := by
              split at found
              · next text kind => exact absurd kind (other text)
              · exact found
            exact ih next (here :: above) slash deeper
    · rw [if_neg directory, if_neg directory]

/-- Whether links are followed at the end makes no difference to a path that names none. -/
theorem lookup_follow {place : P} (noLink : ∀ text, view.kind place ≠ .link text)
    (found : (view.lookup false path).result = .ok place) :
    view.lookup true path = view.lookup false path := by
  have walks : ∀ links here above components slash,
      (view.walk false links here above components slash).result = .ok place →
      view.walk true links here above components slash =
        view.walk false links here above components slash := by
    intro links
    induction links with
    | zero =>
      intro here above components slash
      exact walkLinks_follow noLink (fun _ _ _ _ _ => rfl) components here above slash
    | succ links ih =>
      intro here above components slash
      exact walkLinks_follow noLink ih components here above slash
  exact walks _ _ _ _ _ found

/-- A place that no lookup leaves downwards: neither a link nor a directory with entries. -/
def DeadEnd (view : View P N) (place : P) : Prop :=
  (∀ text, view.kind place ≠ .link text) ∧
    (view.isDirectory place = true → ∀ name, view.enter place name = none)

/-- How a lookup changes when one place is covered by another. -/
structure Covers (view : View P N) (covered top : P) (before after : Lookup P) : Prop where
  /-- A lookup that does not depend on the covered place stays the same. -/
  same : covered ∉ before.visited → after = before
  /-- A lookup that depends on the covered place comes to the new one. -/
  met : covered ∈ before.visited → top ∈ after.visited
  /-- At a dead end it stops. -/
  ends : view.DeadEnd top → covered ∈ before.visited → after.Ends top
  /-- A lookup that found the covered file finds the new one. -/
  found : view.isFile top = true → view.isFile covered = true → before.result = .ok covered →
    after.result = .ok top

namespace Covers

variable {covered top : P} {before after : Lookup P}

/-- A lookup that stays the same and does not depend on the covered place. -/
theorem of_same (absent : covered ∉ before.visited) (other : before.result ≠ .ok covered) :
    Covers view covered top before before :=
  ⟨fun _ => rfl, fun met => absurd met absent, fun _ met => absurd met absent,
    fun _ _ found => absurd found other⟩

/-- A further place that both lookups depend on. -/
theorem visit {place : P} (different : place ≠ covered)
    (covers : Covers view covered top before after) :
    Covers view covered top (before.visit place) (after.visit place) := by
  constructor
  · intro absent
    rw [covers.same (List.not_mem_of_not_mem_cons absent)]
  · intro met
    have later := List.mem_of_ne_of_mem different.symm met
    exact List.mem_cons_of_mem place (covers.met later)
  · intro dead met
    exact covers.ends dead (List.mem_of_ne_of_mem different.symm met)
  · exact covers.found

/-- The covered directory is searched: now the new one is. -/
theorem searched (alike : view.isDirectory top = view.isDirectory covered)
    (directory : view.isDirectory covered = true) (name : N)
    (empty : view.enter top name = none → after.result = .error .notFound) :
    Covers view covered top (before.visit covered) (after.visit top) := by
  constructor
  · simp
  · simp
  · intro dead _
    have none := dead.2 (alike.trans directory) name
    right
    exact ⟨.notFound, empty none⟩
  · intro _ file
    rw [isDirectory_iff, isFile_iff.mp file] at directory
    cases directory

end Covers

section Cover

variable [DecidableEq P]

/-- A place covered by another one, when it is reached by entering it. -/
def replace (covered top place : P) : P := if place = covered then top else place

/-- What lookups see after a mount: whoever enters the covered place comes to its root. -/
def cover (view : View P N) (covered top : P) : View P N :=
  { view with enter := fun place name => (view.enter place name).map (replace covered top) }

variable {covered top : P}

/-- A mount below the root leaves the root where it is. -/
@[simp] theorem root_cover : (view.cover covered top).root = view.root := rfl

/-- A mount leaves the kind of every place alone. -/
@[simp] theorem kind_cover (place : P) :
    (view.cover covered top).kind place = view.kind place := rfl

/-- A mount is what entering the covered place arrives at. -/
theorem enter_cover (place : P) (name : N) :
    (view.cover covered top).enter place name =
      (view.enter place name).map (replace covered top) := rfl

/-- A mount leaves the directories alone. -/
@[simp] theorem isDirectory_cover (place : P) :
    (view.cover covered top).isDirectory place = view.isDirectory place := rfl

/-- A mount leaves the regular files alone. -/
@[simp] theorem isFile_cover (place : P) :
    (view.cover covered top).isFile place = view.isFile place := rfl

/-- The covered place leads to the mount. -/
theorem replace_covered : replace covered top covered = top := by
  simp [replace]

/-- Every other place leads to itself. -/
theorem replace_of_ne {place : P} (different : place ≠ covered) :
    replace covered top place = place := by
  simp [replace, different]

/-- A covering place is a directory just when the covered one is. -/
theorem isDirectory_replace (alike : view.isDirectory top = view.isDirectory covered) (place : P) :
    view.isDirectory (replace covered top place) = view.isDirectory place := by
  unfold replace
  split
  · next same => rw [same, alike]
  · rfl

/-- The lookup stands where one place is covered, with no component left or none allowed. -/
theorem covers_stop (here : P) (allowed : Bool) :
    Covers view covered top
      ⟨[here], if allowed then .ok here else .error .notDirectory⟩
      ⟨[replace covered top here],
        if allowed then .ok (replace covered top here) else .error .notDirectory⟩ := by
  by_cases stands : here = covered
  · rw [stands, replace_covered]
    cases allowed with
    | false => constructor <;> simp [Lookup.Ends]
    | true => constructor <;> simp [Lookup.Ends]
  · rw [replace_of_ne stands]
    apply Covers.of_same
    · simpa using fun same => stands same.symm
    · cases allowed <;> simp [stands]

/-- The lookup comes to the covered place, which is no directory. -/
theorem arrive_covers_of_hidden (alike : view.isDirectory top = view.isDirectory covered)
    (directory : view.isDirectory covered = false)
    {again after : P → List P → List (Component N) → Bool → Lookup P} (here : P) (above : List P)
    (rest : List (Component N)) (slash : Bool) (start : P) (higher : List P) :
    Covers view covered top
      (view.arrive follow again here above rest slash covered
        (view.walkLinks follow again covered (here :: above) rest slash))
      ((view.cover covered top).arrive follow after start higher rest slash top
        ((view.cover covered top).walkLinks follow after top (start :: higher) rest slash)) := by
  have noDirectory : (view.cover covered top).isDirectory top = false := alike.trans directory
  constructor
  · intro absent
    exact absurd (mem_visited_arrive directory) absent
  · intro _
    exact mem_visited_arrive noDirectory
  · intro dead _
    have noLink : ∀ text, (view.cover covered top).kind top ≠ .link text := dead.1
    rw [arrive_of_not_link noLink, walkLinks_of_not_directory noDirectory]
    unfold Lookup.Ends
    split <;> simp
  · intro topFile file found
    rw [isFile_iff] at file topFile
    have noLink : ∀ text, (view.cover covered top).kind top ≠ .link text := by simp [topFile]
    rw [arrive_of_not_link (by simp [file]), walkLinks_of_not_directory directory] at found
    rw [arrive_of_not_link noLink, walkLinks_of_not_directory noDirectory]
    split at found
    · next last => simp [last]
    · cases found

/-- The lookup comes to a place that is not covered. -/
theorem arrive_covers_of_shown (different : covered ≠ view.root) {here next : P}
    (stands : here ≠ covered) (shown : next ≠ covered)
    {again after : P → List P → List (Component N) → Bool → Lookup P}
    (continued : ∀ here above components slash, Covers view covered top
      (again here above components slash)
      (after (replace covered top here) (above.map (replace covered top)) components slash))
    (above : List P) (rest : List (Component N)) (slash : Bool) {before deeper : Lookup P}
    (covers : Covers view covered top before deeper) :
    Covers view covered top (view.arrive follow again here above rest slash next before)
      ((view.cover covered top).arrive follow after here (above.map (replace covered top)) rest
        slash next deeper) := by
  unfold arrive
  rw [kind_cover]
  split
  · next text kind =>
    split
    · exact Covers.of_same (by simpa using Ne.symm shown) (by simpa using shown)
    · apply Covers.visit shown
      split
      · have jumped := continued view.root []
        rw [replace_of_ne different.symm] at jumped
        exact jumped _ _
      · have stayed := continued here above
        rw [replace_of_ne stands] at stayed
        exact stayed _ _
  · exact covers

/-- The lookup enters a place that may be covered, for the part up to a link. -/
theorem walkLinks_covers (different : covered ≠ view.root)
    (alike : view.isDirectory top = view.isDirectory covered)
    {again after : P → List P → List (Component N) → Bool → Lookup P}
    (continued : ∀ here above components slash, Covers view covered top
      (again here above components slash)
      (after (replace covered top here) (above.map (replace covered top)) components slash)) :
    ∀ components here above slash, Covers view covered top
      (view.walkLinks follow again here above components slash)
      ((view.cover covered top).walkLinks follow after (replace covered top here)
        (above.map (replace covered top)) components slash) := by
  intro components
  induction components with
  | nil =>
    intro here above slash
    unfold walkLinks
    rw [isDirectory_cover, isDirectory_replace alike]
    exact covers_stop here _
  | cons component rest ih =>
    intro here above slash
    unfold walkLinks
    rw [isDirectory_cover, isDirectory_replace alike]
    by_cases directory : view.isDirectory here = true
    · rw [if_pos directory, if_pos directory]
      cases component with
      | current => exact ih here above slash
      | parent =>
        cases above with
        | nil => exact ih here [] slash
        | cons up above => exact ih up above slash
      | name name =>
        by_cases stands : here = covered
        · rw [stands, replace_covered]
          rw [stands] at directory
          apply Covers.searched alike directory name
          intro empty
          simp [enter_cover, empty]
        · rw [replace_of_ne stands]
          apply Covers.visit stands
          cases entered : view.enter here name with
          | none =>
            simp only [enter_cover, entered, Option.map_none]
            exact Covers.of_same (by simp) (by simp)
          | some next =>
            simp only [enter_cover, entered, Option.map_some]
            have deeper := ih next (here :: above) slash
            rw [List.map_cons, replace_of_ne stands] at deeper
            by_cases hidden : next = covered
            · rw [hidden, replace_covered] at deeper ⊢
              by_cases below : view.isDirectory covered = true
              · have topBelow : (view.cover covered top).isDirectory top = true :=
                  alike.trans below
                rw [arrive_of_directory below, arrive_of_directory topBelow]
                exact deeper
              · exact arrive_covers_of_hidden alike (by simpa using below) here above rest slash _ _
            · rw [replace_of_ne hidden] at deeper ⊢
              exact arrive_covers_of_shown different stands hidden continued above rest slash deeper
    · rw [if_neg directory, if_neg directory]
      exact covers_stop here false

/-- How a lookup changes when a place other than the root is covered by one of its sort. -/
theorem lookup_covers (different : covered ≠ view.root)
    (alike : view.isDirectory top = view.isDirectory covered) (follow : Bool) (path : Path N) :
    Covers view covered top (view.lookup follow path)
      ((view.cover covered top).lookup follow path) := by
  have walks : ∀ links here above components slash, Covers view covered top
      (view.walk follow links here above components slash)
      ((view.cover covered top).walk follow links (replace covered top here)
        (above.map (replace covered top)) components slash) := by
    intro links
    induction links with
    | zero =>
      intro here above components slash
      have stopped : Covers view covered top ⟨[], .error .loop⟩ ⟨[], .error .loop⟩ :=
        Covers.of_same (by simp) (by simp)
      exact walkLinks_covers different alike (fun _ _ _ _ => stopped) components here above slash
    | succ links ih =>
      intro here above components slash
      exact walkLinks_covers different alike ih components here above slash
  have covers := walks maxLinks view.root [] path.components path.slash
  rw [replace_of_ne different.symm] at covers
  exact covers

/-- A file over a file only changes what the paths of the covered file name. -/
theorem result_cover (covering : view.isFile top = true) (file : view.isFile covered = true)
    (root : view.isDirectory view.root = true) {place : P}
    (found : (view.lookup follow path).result = .ok place) :
    ((view.cover covered top).lookup follow path).result = .ok (replace covered top place) := by
  have different : covered ≠ view.root := by
    intro same
    rw [isFile_iff, same, isDirectory_iff.mp root] at file
    cases file
  have alike : view.isDirectory top = view.isDirectory covered := by
    simp [isDirectory, isFile_iff.mp file, isFile_iff.mp covering]
  have covers := lookup_covers different alike follow path
  by_cases met : covered ∈ (view.lookup follow path).visited
  · cases ends_of_isFile file met with
    | inl reached =>
      rw [found] at reached
      injection reached with same
      rw [same, replace_covered]
      exact covers.found covering file (found.trans (congrArg _ same))
    | inr failed =>
      obtain ⟨failure, failed⟩ := failed
      rw [found] at failed
      cases failed
  · have other : place ≠ covered := fun same => met (same ▸ mem_visited_of_result found)
    rw [covers.same met, replace_of_ne other]
    exact found

/-- Covering a place that no name leads to changes nothing. -/
theorem cover_of_not_entered (unreached : ∀ place name, view.enter place name ≠ some covered) :
    view.cover covered top = view := by
  have entered : ∀ place name,
      (view.enter place name).map (replace covered top) = view.enter place name := by
    intro place name
    cases next : view.enter place name with
    | none => rfl
    | some found =>
      have different : found ≠ covered := by
        intro same
        exact unreached place name (same ▸ next)
      rw [Option.map_some, replace_of_ne different]
  unfold cover
  simp only [entered]

end Cover

end View

end NsProxy.Pathname
