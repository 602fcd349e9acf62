import Mathlib.Logic.Function.Basic
import ProxyControl.Runner.Replay

/-!
# The work directory of a runner

`ReleaseStore` is what a work directory is for: configurations staged and
released under deployment ids, and the release that is active.  `Layout` says
that a disk holds such a store in a directory that was empty when the runner
was started; file operations of the runner become operations of the store.
-/

namespace ProxyControl

open Calendar Effects FileSystem

/--
What a work directory holds.  A staged or released configuration is a directory
that has, or lacks, its `config.json`.
-/
structure ReleaseStore where
  staged : String → Option (Option Bytes)
  releases : String → Option (Option Bytes)
  next : Option String
  active : Option String

namespace ReleaseStore

def empty : ReleaseStore where
  staged _ := none
  releases _ := none
  next := none
  active := none

def config (self : ReleaseStore) (id : String) : Option Bytes :=
  (self.releases id).join

def activeConfig (self : ReleaseStore) : Option Bytes :=
  self.active.bind self.config

@[simps] def stage (self : ReleaseStore) (id : String) : ReleaseStore :=
  { self with
    staged := Function.update self.staged id (some (self.staged id).join) }

@[simps] def writeStaged
    (self : ReleaseStore) (id : String) (config : Bytes) : ReleaseStore :=
  { self with
    staged := Function.update self.staged id (some (some config)) }

@[simps] def removeRelease (self : ReleaseStore) (id : String) : ReleaseStore :=
  { self with releases := Function.update self.releases id none }

/-- A release without its configuration. -/
@[simps] def loseConfig (self : ReleaseStore) (id : String) : ReleaseStore :=
  { self with releases := Function.update self.releases id (some none) }

/-- Move a staged configuration to the releases. -/
@[simps] def release (self : ReleaseStore) (id : String) : ReleaseStore :=
  { self with
    staged := Function.update self.staged id none
    releases := Function.update self.releases id (self.staged id) }

@[simps] def setNext (self : ReleaseStore) (id : Option String) : ReleaseStore :=
  { self with next := id }

@[simps] def setActive (self : ReleaseStore) (id : Option String) : ReleaseStore :=
  { self with active := id }

end ReleaseStore

/-- The path of a release. -/
def releasePath (work : Path) (id : String) : Path :=
  (work.child "releases").child id

def stagingPath (work : Path) (id : String) : Path :=
  (work.child "tmp").child id

/-- The entry of a link to a release. -/
def linkTo (work : Path) (id : Option String) : Option Node :=
  id.map (fun id => .link (releasePath work id))

/-- A directory with its `config.json`, without it, or nothing. -/
def HoldsRelease
    (d : Disk) (loc : Loc) (release : Option (Option Bytes)) : Prop :=
  d.get loc = release.map (fun _ => .dir) ∧
    d.get ("config.json" :: loc) = release.join.map .file

/--
The `config.json` of the directory that a link names, the name read from where
the runner runs.
-/
def namedConfig (disk : Disk) (link : Path) : Option Bytes :=
  (disk.readLink link).bind
    (fun target => disk.readFile (target.join "config.json"))

/-- The directory at a location is empty, and a path leads to it. -/
structure EmptyWorkDir (start : Disk) (work : Path) (W : Loc) : Prop where
  dirAt : start.DirAt work W
  vacant : start.tree.Vacant W

/--
Read from the work directory itself, its path leads there again, and not too many
links are passed with that.
-/
def LeadsBack (start : Disk) (work : Path) (W : Loc) : Prop :=
  ∃ k k', start.tree.Leads (work.base start.cwd) work.comps k W ∧
    start.tree.Leads (work.base W) work.comps k' W ∧ k + 1 + k' ≤ linkLimit

/-- An absolute path leads back from anywhere. -/
theorem leadsBack_of_absolute
    {start : Disk} {work : Path} {W : Loc} {k : ℕ}
    (habsolute : work.absolute = true)
    (hleads : start.tree.Leads [] work.comps k W) (hk : k ≤ 19) :
    LeadsBack start work W := by
  have hbase : ∀ cwd, work.base cwd = [] := by simp [Path.base, habsolute]
  refine ⟨k, k, ?_, ?_, ?_⟩
  · rwa [hbase]
  · rwa [hbase]
  · show k + 1 + k ≤ 40
    omega

/-- A link below the work directory is right in it and names a release. -/
def LinksInPlace (d : Disk) (work : Path) (W : Loc) : Prop :=
  ∀ l target, Tree.Below W l → d.get l = some (.link target) →
    ∃ name id, l = name :: W ∧ target = releasePath work id

/-- The work directory, empty at the start, holds the store. -/
structure Layout
    (start : Disk) (work : Path) (W : Loc)
    (d : Disk) (st : ReleaseStore) : Prop where
  cwd : d.cwd = start.cwd
  outside : Tree.AgreeOutside W start.tree d.tree
  tmp : d.get ("tmp" :: W) = some .dir ∨
    d.get ("tmp" :: W) = none ∧ ∀ id, st.staged id = none
  releasesDir : d.get ("releases" :: W) = some .dir ∨
    d.get ("releases" :: W) = none ∧ ∀ id, st.releases id = none
  staged : ∀ id, HoldsRelease d (id :: "tmp" :: W) (st.staged id)
  releases : ∀ id, HoldsRelease d (id :: "releases" :: W) (st.releases id)
  next : d.get ("active.next" :: W) = linkTo work st.next
  active : d.get ("active" :: W) = linkTo work st.active
  links : LinksInPlace d work W
  normal : ∀ id, st.next = some id ∨ st.active = some id → Normal id

@[simp] theorem not_cons_suffix
    (c : String) (W : Loc) :
    ¬ c :: W <:+ W := by
  intro h
  have hlength := h.length_le
  rw [List.length_cons] at hlength
  omega

@[simp] theorem not_cons_cons_suffix
    (c b : String) (W : Loc) :
    ¬ c :: b :: W <:+ W := by
  intro h
  have hlength := h.length_le
  rw [List.length_cons, List.length_cons] at hlength
  omega

theorem below_work (W : Loc) (c : String) :
    Tree.Below W (c :: W) :=
  Tree.below_cons List.suffix_rfl c

theorem below_work₂ (W : Loc) (c b : String) :
    Tree.Below W (c :: b :: W) :=
  Tree.below_cons (List.suffix_cons b W) c

theorem below_work₃ (W : Loc) (c b a : String) :
    Tree.Below W (c :: b :: a :: W) :=
  Tree.below_cons ((List.suffix_cons a W).trans (List.suffix_cons b _)) c

namespace LinksInPlace

variable {d : Disk} {work : Path} {W : Loc}

theorem set
    (h : LinksInPlace d work W) {loc : Loc} {node : Node}
    (hnode : ∀ target, node ≠ .link target) :
    LinksInPlace (d.set loc node) work W := by
  intro l target hl hlink
  rw [Disk.get_set] at hlink
  split_ifs at hlink
  · exact absurd (Option.some.inj hlink) (hnode target)
  · exact h l target hl hlink

theorem setLink
    (h : LinksInPlace d work W) (name id : String) :
    LinksInPlace (d.set (name :: W) (.link (releasePath work id))) work W := by
  intro l target hl hlink
  rw [Disk.get_set] at hlink
  split_ifs at hlink with heq
  · exact ⟨name, id, heq, (Node.link.inj (Option.some.inj hlink)).symm⟩
  · exact h l target hl hlink

theorem remove
    (h : LinksInPlace d work W) (loc : Loc) :
    LinksInPlace (d.removeAt loc) work W := by
  intro l target hl hlink
  rw [Disk.get_removeAt] at hlink
  split_ifs at hlink
  exact h l target hl hlink

/-- What is moved is no link, or stays right in the work directory. -/
theorem move
    (h : LinksInPlace d work W) {src dst : Loc}
    (hsrc : Tree.Below W src)
    (hplace : ∀ name, src = name :: W → ∃ name', dst = name' :: W) :
    LinksInPlace (d.moveTo src dst) work W := by
  intro l target hl hlink
  rw [Disk.get_moveTo] at hlink
  split_ifs at hlink with hdst
  · obtain ⟨p, rfl⟩ := hdst
    rw [Tree.rebase_append] at hlink
    obtain ⟨name, id, hname, htarget⟩ :=
      h _ target (hsrc.of_suffix (List.suffix_append p src)) hlink
    obtain ⟨q, hq⟩ := hsrc.1
    have hp : p = [] := by
      by_contra hne
      have hlength := congrArg List.length hname
      have hpos := List.length_pos_iff.mpr hne
      have hqpos : 0 < q.length := by
        refine List.length_pos_iff.mpr ?_
        rintro rfl
        exact hsrc.2 hq.symm
      rw [← hq, List.length_append, List.length_append,
        List.length_cons] at hlength
      omega
    subst hp
    obtain ⟨name', hname'⟩ := hplace name hname
    exact ⟨name', id, hname', htarget⟩
  · exact h l target hl hlink

end LinksInPlace

theorem layout_start
    {start : Disk} {work : Path} {W : Loc}
    (hwork : EmptyWorkDir start work W) :
    Layout start work W start .empty where
  cwd := rfl
  outside _ _ := rfl
  tmp := Or.inr ⟨hwork.vacant _ (below_work W _), fun _ => rfl⟩
  releasesDir := Or.inr ⟨hwork.vacant _ (below_work W _), fun _ => rfl⟩
  staged _ :=
    ⟨hwork.vacant _ (below_work₂ W _ _), hwork.vacant _ (below_work₃ W _ _ _)⟩
  releases _ :=
    ⟨hwork.vacant _ (below_work₂ W _ _), hwork.vacant _ (below_work₃ W _ _ _)⟩
  next := hwork.vacant _ (below_work W _)
  active := hwork.vacant _ (below_work W _)
  links l target hl hlink := by
    rw [Disk.get, hwork.vacant l hl] at hlink
    cases hlink
  normal _ h := by simp [ReleaseStore.empty] at h

namespace Layout

variable {start d : Disk} {work : Path} {W : Loc} {st : ReleaseStore}
variable {id : String}

theorem workDir
    (hwork : EmptyWorkDir start work W) (h : Layout start work W d st) :
    d.DirAt work W :=
  hwork.dirAt.of_agreeOutside hwork.vacant h.cwd h.outside

theorem tmp_dirAt
    (hwork : EmptyWorkDir start work W) (h : Layout start work W d st)
    (htmp : d.get ("tmp" :: W) = some .dir) :
    d.DirAt (work.child "tmp") ("tmp" :: W) :=
  Disk.dirAt_child (h.workDir hwork) (by decide) htmp

theorem releases_dirAt
    (hwork : EmptyWorkDir start work W) (h : Layout start work W d st)
    (hreleases : d.get ("releases" :: W) = some .dir) :
    d.DirAt (work.child "releases") ("releases" :: W) :=
  Disk.dirAt_child (h.workDir hwork) (by decide) hreleases

theorem tmp_of_staged
    (h : Layout start work W d st) (hstaged : st.staged id ≠ none) :
    d.get ("tmp" :: W) = some .dir :=
  h.tmp.resolve_right (fun hnone => hstaged (hnone.2 id))

theorem releasesDir_of_release
    (h : Layout start work W d st) (hrelease : st.releases id ≠ none) :
    d.get ("releases" :: W) = some .dir :=
  h.releasesDir.resolve_right (fun hnone => hrelease (hnone.2 id))

/-- A directory is made below the work directory where nothing is. -/
theorem mkdir_staged
    (h : Layout start work W d st)
    (htmp : d.get ("tmp" :: W) = some .dir)
    (hnone : st.staged id = none) :
    Layout start work W (d.set (id :: "tmp" :: W) .dir) (st.stage id) where
  cwd := h.cwd
  outside := h.outside.set (below_work₂ W _ _) _
  tmp := Or.inl (by simpa [Disk.get_set] using htmp)
  releasesDir := by simpa [Disk.get_set] using h.releasesDir
  staged id' := by
    have hstaged := h.staged id'
    by_cases heq : id' = id
    · subst heq
      simpa [HoldsRelease, Disk.get_set, hnone] using hstaged.2
    · simpa [HoldsRelease, Disk.get_set, heq] using hstaged
  releases id' := by
    simpa [HoldsRelease, Disk.get_set] using h.releases id'
  next := by simpa [Disk.get_set] using h.next
  active := by simpa [Disk.get_set] using h.active
  links := h.links.set (by simp)
  normal := h.normal

theorem mkdir_tmp
    (h : Layout start work W d st) :
    Layout start work W (d.set ("tmp" :: W) .dir) st where
  cwd := h.cwd
  outside := h.outside.set (below_work W _) _
  tmp := Or.inl (by simp [Disk.get_set])
  releasesDir := by simpa [Disk.get_set] using h.releasesDir
  staged id := by
    simpa [HoldsRelease, Disk.get_set] using h.staged id
  releases id := by
    simpa [HoldsRelease, Disk.get_set] using h.releases id
  next := by simpa [Disk.get_set] using h.next
  active := by simpa [Disk.get_set] using h.active
  links := h.links.set (by simp)
  normal := h.normal

theorem stage
    (hwork : EmptyWorkDir start work W) (h : Layout start work W d st)
    (hid : Normal id) :
    ∃ d', d.createDirAll (stagingPath work id) = some d' ∧
      Layout start work W d' (st.stage id) := by
  rcases h.tmp with htmp | ⟨htmp, hnone⟩
  · cases hstaged : st.staged id with
    | none =>
        have hmissing : d.get (id :: "tmp" :: W) = none := by
          simpa [hstaged] using (h.staged id).1
        exact ⟨_,
          Disk.createDirAll_new (h.tmp_dirAt hwork htmp) hid.2 hmissing,
          h.mkdir_staged htmp hstaged⟩
    | some config =>
        have hdir : d.get (id :: "tmp" :: W) = some .dir := by
          simpa [hstaged] using (h.staged id).1
        have hjoin : some (st.staged id).join = st.staged id := by
          rw [hstaged]
          rfl
        refine ⟨d, Disk.createDirAll_of_dirAt
          (Disk.dirAt_child (h.tmp_dirAt hwork htmp) hid.2 hdir), ?_⟩
        rwa [ReleaseStore.stage, hjoin, Function.update_eq_self]
  · have hmissing : d.get (id :: "tmp" :: W) = none := by
      simpa [hnone id] using (h.staged id).1
    refine ⟨_, Disk.createDirAll_new₂ (h.workDir hwork) (by decide) hid.2
      htmp hmissing, ?_⟩
    exact h.mkdir_tmp.mkdir_staged (by simp [Disk.get_set]) (hnone id)

/-- Staging that is cut short has not come to the staged directory. -/
theorem stageUntil
    (hwork : EmptyWorkDir start work W) (h : Layout start work W d st)
    (id : String) (progress : Disk.Progress) :
    Layout start work W
      (d.createDirAllUntil progress (stagingPath work id)) st := by
  rcases h.tmp with htmp | ⟨htmp, -⟩
  · rw [stagingPath, Disk.createDirAllUntil_child (h.tmp_dirAt hwork htmp)]
    exact h
  · have hroot := h.workDir hwork
    rcases @Disk.createDirAllUntil_child₂ d work W "tmp" id hroot progress with
      heq | heq
    · rw [stagingPath, heq]
      exact h
    · rw [stagingPath, heq, Disk.createDirAll_new hroot (by decide) htmp]
      exact h.mkdir_tmp

theorem writeStaged
    (hwork : EmptyWorkDir start work W) (h : Layout start work W d st)
    (hid : Normal id) (hstaged : st.staged id ≠ none) (config : Bytes) :
    ∃ d', d.write ((stagingPath work id).child "config.json") config =
        some d' ∧
      Layout start work W d' (st.writeStaged id config) := by
  have htmp := h.tmp_of_staged hstaged
  obtain ⟨old, hold⟩ := Option.ne_none_iff_exists'.mp hstaged
  obtain ⟨hdir, hconfig⟩ := h.staged id
  rw [hold] at hdir hconfig
  have hloc : d.DirAt (stagingPath work id) (id :: "tmp" :: W) :=
    Disk.dirAt_child (h.tmp_dirAt hwork htmp) hid.2 hdir
  refine ⟨_, Disk.write_child hloc (by decide) ?_ config, ?_⟩
  · rw [hconfig]
    cases old <;> simp
  · exact {
      cwd := h.cwd
      outside := h.outside.set (below_work₃ W _ _ _) _
      tmp := Or.inl (by simpa [Disk.get_set] using htmp)
      releasesDir := by simpa [Disk.get_set] using h.releasesDir
      staged := by
        intro id'
        by_cases heq : id' = id
        · subst heq
          simpa [HoldsRelease, Disk.get_set] using hdir
        · simpa [HoldsRelease, Disk.get_set, heq] using h.staged id'
      releases := by
        intro id'
        simpa [HoldsRelease, Disk.get_set] using h.releases id'
      next := by simpa [Disk.get_set] using h.next
      active := by simpa [Disk.get_set] using h.active
      links := h.links.set (by simp)
      normal := h.normal }

/-- A file that is cut short is staged in part. -/
theorem writeStagedUntil
    (hwork : EmptyWorkDir start work W) (h : Layout start work W d st)
    (hid : Normal id) (hstaged : st.staged id ≠ none) (config : Bytes)
    (progress : Disk.Progress) :
    ∃ st', Layout start work W
        (d.writeUntil progress ((stagingPath work id).child "config.json")
          config) st' ∧
      st'.releases = st.releases ∧ st'.active = st.active := by
  rw [Disk.writeUntil]
  cases progress.written with
  | none => exact ⟨st, h, rfl, rfl⟩
  | some n =>
      obtain ⟨d', hwrite, hlayout⟩ :=
        h.writeStaged hwork hid hstaged (config.take n)
      simp only [hwrite, Option.getD_some]
      exact ⟨_, hlayout, rfl, rfl⟩

theorem exists_release
    (hwork : EmptyWorkDir start work W) (h : Layout start work W d st)
    (hid : Normal id) :
    d.exists (releasePath work id) = (st.releases id).isSome := by
  obtain ⟨hdir, -⟩ := h.releases id
  rcases h.releasesDir with hreleases | ⟨hreleases, hnone⟩
  · have hmetadata :
        d.metadata (releasePath work id) = d.get (id :: "releases" :: W) := by
      refine Disk.metadata_child (h.releases_dirAt hwork hreleases) hid.2 ?_
      intro target
      rw [hdir]
      cases st.releases id <;> simp
    rw [Disk.exists, hmetadata, hdir, Option.isSome_map]
  · have hresolve : d.resolve (releasePath work id) = none :=
      Disk.resolve_child_of_none
        (Disk.resolve_child_eq_none (h.workDir hwork) (by decide) hreleases)
    simp [Disk.exists, Disk.metadata, hresolve, hnone id]

theorem removeRelease
    (hwork : EmptyWorkDir start work W) (h : Layout start work W d st)
    (hid : Normal id) (hrelease : st.releases id ≠ none) :
    ∃ d', d.removeDirAll (releasePath work id) = some d' ∧
      Layout start work W d' (st.removeRelease id) := by
  have hreleases := h.releasesDir_of_release hrelease
  obtain ⟨config, hconfig⟩ := Option.ne_none_iff_exists'.mp hrelease
  have hdir : d.get (id :: "releases" :: W) = some .dir := by
    simpa [hconfig] using (h.releases id).1
  refine ⟨_, Disk.removeDirAll_child (h.releases_dirAt hwork hreleases)
    hid.2 hdir, ?_⟩
  exact {
    cwd := h.cwd
    outside := h.outside.remove (below_work₂ W _ _)
    tmp := by
      simpa [Disk.get_removeAt, List.suffix_cons_iff] using h.tmp
    releasesDir := Or.inl (by
      simpa [Disk.get_removeAt, List.suffix_cons_iff] using hreleases)
    staged := by
      intro id'
      simpa [HoldsRelease, Disk.get_removeAt, List.suffix_cons_iff]
        using h.staged id'
    releases := by
      intro id'
      by_cases heq : id' = id
      · subst heq
        simp [HoldsRelease, Disk.get_removeAt]
      · simpa [HoldsRelease, Disk.get_removeAt, List.suffix_cons_iff, heq,
          Ne.symm heq] using h.releases id'
    next := by
      simpa [Disk.get_removeAt, List.suffix_cons_iff] using h.next
    active := by
      simpa [Disk.get_removeAt, List.suffix_cons_iff] using h.active
    links := h.links.remove _
    normal := h.normal }

/-- Where nothing is removed but what is below a release. -/
theorem not_below_suffix
    {entry l : Loc} {id b : String} (hentry : entry ≠ [])
    (hl : l.length ≤ W.length + 2) :
    ¬ entry ++ id :: b :: W <:+ l := by
  intro h
  have hlength := h.length_le
  have hpos := List.length_pos_iff.mpr hentry
  rw [List.length_append, List.length_cons, List.length_cons] at hlength
  omega

theorem below_suffix_iff
    {entry : Loc} {id id' b b' c : String} (hentry : entry ≠ []) :
    entry ++ id :: b :: W <:+ c :: id' :: b' :: W ↔
      entry = [c] ∧ id = id' ∧ b = b' := by
  constructor
  · intro h
    have hlength := h.length_le
    have hpos := List.length_pos_iff.mpr hentry
    simp only [List.length_append, List.length_cons] at hlength
    have heq := h.eq_of_length (by
      simp only [List.length_append, List.length_cons]
      omega)
    obtain ⟨a, rfl⟩ := List.length_eq_one_iff.mp
      (show entry.length = 1 by omega)
    simpa using heq
  · rintro ⟨rfl, rfl, rfl⟩
    exact List.suffix_rfl

/-- Of what is below a release only the configuration matters. -/
theorem removeBelow
    (h : Layout start work W d st) (hrelease : st.releases id ≠ none)
    {entry : Loc} (hentry : entry ≠ []) :
    Layout start work W (d.removeAt (entry ++ id :: "releases" :: W))
      (if entry = ["config.json"] then st.loseConfig id else st) := by
  have hkeep : ∀ l : Loc, l.length ≤ W.length + 2 →
      (d.removeAt (entry ++ id :: "releases" :: W)).get l = d.get l := by
    intro l hl
    rw [Disk.get_removeAt, if_neg (not_below_suffix hentry hl)]
  have hconfig : ∀ id' b,
      (d.removeAt (entry ++ id :: "releases" :: W)).get
          ("config.json" :: id' :: b :: W) =
        if entry = ["config.json"] ∧ id = id' ∧ "releases" = b then none
        else d.get ("config.json" :: id' :: b :: W) := by
    intro id' b
    rw [Disk.get_removeAt]
    simp only [below_suffix_iff hentry]
  have hstore : ∀ {α : Type} (f : ReleaseStore → α),
      f (st.loseConfig id) = f st →
        f (if entry = ["config.json"] then st.loseConfig id else st) =
          f st := by
    intro α f hf
    split
    · exact hf
    · rfl
  have hreleases : ∀ id',
      (if entry = ["config.json"] then st.loseConfig id else st).releases id' =
        if entry = ["config.json"] ∧ id = id' then some none
        else st.releases id' := by
    intro id'
    by_cases hlost : entry = ["config.json"]
    · simp [hlost, Function.update_apply, eq_comm]
    · simp [hlost]
  exact {
    cwd := h.cwd
    outside := h.outside.remove
      ((below_work₂ W id "releases").of_suffix (List.suffix_append entry _))
    tmp := by
      rw [hkeep _ (by simp), hstore ReleaseStore.staged rfl]
      exact h.tmp
    releasesDir := by
      rw [hkeep _ (by simp)]
      exact Or.inl (h.releasesDir_of_release hrelease)
    staged := by
      intro id'
      rw [HoldsRelease, hkeep _ (by simp), hconfig,
        hstore ReleaseStore.staged rfl]
      simpa [HoldsRelease] using h.staged id'
    releases := by
      intro id'
      rw [HoldsRelease, hkeep _ (by simp), hconfig, hreleases]
      obtain ⟨hdir, hfile⟩ := h.releases id'
      by_cases hlost : entry = ["config.json"] ∧ id = id'
      · obtain ⟨rfl, rfl⟩ := hlost
        obtain ⟨config, hconfig⟩ := Option.ne_none_iff_exists'.mp hrelease
        rw [hconfig] at hdir
        exact ⟨by simpa using hdir, by simp⟩
      · simpa [hlost, and_assoc] using And.intro hdir hfile
    next := by
      rw [hkeep _ (by simp), hstore ReleaseStore.next rfl]
      exact h.next
    active := by
      rw [hkeep _ (by simp), hstore ReleaseStore.active rfl]
      exact h.active
    links := h.links.remove _
    normal := by
      rw [hstore ReleaseStore.next rfl, hstore ReleaseStore.active rfl]
      exact h.normal }

theorem removeEntries
    (h : Layout start work W d st) (hrelease : st.releases id ≠ none)
    {removed : List Loc} (hremoved : ∀ entry ∈ removed, entry ≠ []) :
    Layout start work W (d.removeEntries (id :: "releases" :: W) removed)
      (if ["config.json"] ∈ removed then st.loseConfig id else st) := by
  induction removed generalizing d st with
  | nil =>
      exact h
  | cons entry removed ih =>
      obtain ⟨hentry, hremoved⟩ := List.forall_mem_cons.mp hremoved
      have hstep := h.removeBelow hrelease hentry
      by_cases hlost : entry = ["config.json"]
      · rw [if_pos hlost] at hstep
        have hrest := ih hstep (by simp) hremoved
        have hidem : (st.loseConfig id).loseConfig id = st.loseConfig id := by
          simp [ReleaseStore.loseConfig]
        rw [hidem, ite_self] at hrest
        rw [if_pos (by simp [hlost])]
        exact hrest
      · rw [if_neg hlost] at hstep
        have hmem : ["config.json"] ∈ entry :: removed ↔
            ["config.json"] ∈ removed := by
          simp [Ne.symm hlost]
        simp only [hmem]
        exact ih hstep hrelease hremoved

/-- A removal that is cut short may have taken the configuration. -/
theorem removeReleaseUntil
    (hwork : EmptyWorkDir start work W) (h : Layout start work W d st)
    (hid : Normal id) (hrelease : st.releases id ≠ none)
    (progress : Disk.Progress) :
    Layout start work W
      (d.removeDirAllUntil progress (releasePath work id))
      (if ["config.json"] ∈ progress.removed then st.loseConfig id
        else st) := by
  obtain ⟨config, hconfig⟩ := Option.ne_none_iff_exists'.mp hrelease
  have hdir : d.get (id :: "releases" :: W) = some .dir := by
    simpa [hconfig] using (h.releases id).1
  have hmem : ["config.json"] ∈ progress.removed.filter (fun entry => entry ≠ [])
      ↔ ["config.json"] ∈ progress.removed := by
    simp
  rw [releasePath, Disk.removeDirAllUntil_child
    (h.releases_dirAt hwork (h.releasesDir_of_release hrelease)) hid.2 hdir]
  simp only [← hmem]
  exact h.removeEntries hrelease (by simp)

theorem makeReleasesDir
    (hwork : EmptyWorkDir start work W) (h : Layout start work W d st) :
    ∃ d', d.createDirAll (work.child "releases") = some d' ∧
      Layout start work W d' st ∧
      d'.get ("releases" :: W) = some .dir := by
  rcases h.releasesDir with hreleases | ⟨hreleases, hnone⟩
  · exact ⟨d, Disk.createDirAll_of_dirAt (h.releases_dirAt hwork hreleases),
      h, hreleases⟩
  · refine ⟨_, Disk.createDirAll_new (h.workDir hwork) (by decide) hreleases,
      ?_, by simp [Disk.get_set]⟩
    exact {
      cwd := h.cwd
      outside := h.outside.set (below_work W _) _
      tmp := by simpa [Disk.get_set] using h.tmp
      releasesDir := Or.inl (by simp [Disk.get_set])
      staged := by
        intro id
        simpa [HoldsRelease, Disk.get_set] using h.staged id
      releases := by
        intro id
        simpa [HoldsRelease, Disk.get_set] using h.releases id
      next := by simpa [Disk.get_set] using h.next
      active := by simpa [Disk.get_set] using h.active
      links := h.links.set (by simp)
      normal := h.normal }

/-- Move a staged directory over to the releases, replacing what is there. -/
theorem moveTo_releases
    (h : Layout start work W d st) (id : String)
    (htmp : d.get ("tmp" :: W) = some .dir)
    (hreleases : d.get ("releases" :: W) = some .dir) :
    Layout start work W
      (d.moveTo (id :: "tmp" :: W) (id :: "releases" :: W))
      (st.release id) where
  cwd := h.cwd
  outside := h.outside.move (below_work₂ W _ _) (below_work₂ W _ _)
  tmp := Or.inl (by
    simpa [Disk.get_moveTo, List.suffix_cons_iff] using htmp)
  releasesDir := Or.inl (by
    simpa [Disk.get_moveTo, List.suffix_cons_iff] using hreleases)
  staged id' := by
    by_cases heq : id' = id
    · subst heq
      simp [HoldsRelease, Disk.get_moveTo, List.suffix_cons_iff]
    · simpa [HoldsRelease, Disk.get_moveTo, List.suffix_cons_iff, heq,
        Ne.symm heq] using h.staged id'
  releases id' := by
    by_cases heq : id' = id
    · subst heq
      have hmoved : ∀ p : Loc,
          (d.moveTo (id' :: "tmp" :: W) (id' :: "releases" :: W)).get
              (p ++ id' :: "releases" :: W) =
            d.get (p ++ id' :: "tmp" :: W) := by
        intro p
        rw [Disk.get_moveTo, if_pos (List.suffix_append _ _),
          Tree.rebase_append]
      obtain ⟨hdir, hfile⟩ := h.staged id'
      refine ⟨?_, ?_⟩
      · simpa using (hmoved []).trans hdir
      · simpa using (hmoved ["config.json"]).trans hfile
    · simpa [HoldsRelease, Disk.get_moveTo, List.suffix_cons_iff, heq,
        Ne.symm heq] using h.releases id'
  next := by
    simpa [Disk.get_moveTo, List.suffix_cons_iff] using h.next
  active := by
    simpa [Disk.get_moveTo, List.suffix_cons_iff] using h.active
  links := h.links.move (below_work₂ W _ _) (by simp)
  normal := h.normal

/-- Where a release is in the way, the move may fail instead. -/
theorem release
    (hwork : EmptyWorkDir start work W) (h : Layout start work W d st)
    (hid : Normal id) (hstaged : st.staged id ≠ none)
    (hreleases : d.get ("releases" :: W) = some .dir) :
    (∃ d', d.rename (stagingPath work id) (releasePath work id) = some d' ∧
        Layout start work W d' (st.release id)) ∨
      d.rename (stagingPath work id) (releasePath work id) = none ∧
        st.releases id ≠ none := by
  have htmp := h.tmp_of_staged hstaged
  obtain ⟨config, hconfig⟩ := Option.ne_none_iff_exists'.mp hstaged
  have hsrc : d.get (id :: "tmp" :: W) = some .dir := by
    simpa [hconfig] using (h.staged id).1
  have hrename :=
    Disk.rename_child (h.tmp_dirAt hwork htmp) hid.2
      (h.releases_dirAt hwork hreleases) hid.2 hsrc
      (by simp [List.suffix_cons_iff])
  by_cases hreplaces :
      d.replaces (id :: "releases" :: W) .dir
        (d.get (id :: "releases" :: W)) = true
  · rw [if_pos hreplaces] at hrename
    exact Or.inl ⟨_, hrename, h.moveTo_releases id htmp hreleases⟩
  · rw [if_neg hreplaces] at hrename
    refine Or.inr ⟨hrename, ?_⟩
    intro hnone
    have hdst : d.get (id :: "releases" :: W) = none := by
      simpa [hnone] using (h.releases id).1
    exact hreplaces (by simp [hdst, Disk.replaces])

theorem symlinkMetadata_release
    (hwork : EmptyWorkDir start work W) (h : Layout start work W d st)
    (hid : Normal id) :
    (d.symlinkMetadata (releasePath work id)).isSome =
      (st.releases id).isSome := by
  obtain ⟨hdir, -⟩ := h.releases id
  rcases h.releasesDir with hreleases | ⟨hreleases, hnone⟩
  · have hmetadata :=
      Disk.symlinkMetadata_child (h.releases_dirAt hwork hreleases) hid.2
    rw [releasePath, hmetadata, hdir, Option.isSome_map]
  · have hmetadata : d.symlinkMetadata (releasePath work id) = none :=
      Disk.symlinkMetadata_child_of_none
        (Disk.resolve_child_eq_none (h.workDir hwork) (by decide) hreleases)
        hid.2
    simp [hmetadata, hnone id]

/-! ### The links -/

theorem symlinkMetadata_next
    (hwork : EmptyWorkDir start work W) (h : Layout start work W d st) :
    (d.symlinkMetadata (work.child "active.next")).isSome =
      st.next.isSome := by
  rw [Disk.symlinkMetadata_child (h.workDir hwork) (by decide), h.next,
    linkTo, Option.isSome_map]

theorem symlinkMetadata_active
    (hwork : EmptyWorkDir start work W) (h : Layout start work W d st) :
    (d.symlinkMetadata (work.child "active")).isSome =
      st.active.isSome := by
  rw [Disk.symlinkMetadata_child (h.workDir hwork) (by decide), h.active,
    linkTo, Option.isSome_map]

theorem readLink_active
    (hwork : EmptyWorkDir start work W) (h : Layout start work W d st) :
    d.readLink (work.child "active") = st.active.map (releasePath work) := by
  rw [Disk.readLink_child (h.workDir hwork) (by decide), h.active]
  cases st.active <;> rfl

/-- Nothing resolves through a link that is not there. -/
theorem exists_next
    (hwork : EmptyWorkDir start work W) (h : Layout start work W d st)
    (hexists : d.exists (work.child "active.next") = true) :
    st.next.isSome = true := by
  cases hnext : st.next with
  | some id =>
      rfl
  | none =>
      have hnone : d.get ("active.next" :: W) = none := by
        simp [h.next, hnext, linkTo]
      rw [Disk.exists, Disk.metadata,
        Disk.resolve_child_eq_none (h.workDir hwork) (by decide) hnone]
        at hexists
      cases hexists

theorem exists_active
    (hwork : EmptyWorkDir start work W) (h : Layout start work W d st)
    (hexists : d.exists (work.child "active") = true) :
    st.active.isSome = true := by
  cases hactive : st.active with
  | some id =>
      rfl
  | none =>
      have hnone : d.get ("active" :: W) = none := by
        simp [h.active, hactive, linkTo]
      rw [Disk.exists, Disk.metadata,
        Disk.resolve_child_eq_none (h.workDir hwork) (by decide) hnone]
        at hexists
      cases hexists

/-- Only the links are changed. -/
theorem of_links
    {d' : Disk} {next active : Option String}
    (h : Layout start work W d st)
    (hcwd : d'.cwd = d.cwd)
    (houtside : Tree.AgreeOutside W start.tree d'.tree)
    (hsame : ∀ l, ¬ "active" :: W <:+ l → ¬ "active.next" :: W <:+ l →
      d'.get l = d.get l)
    (hnext : d'.get ("active.next" :: W) = linkTo work next)
    (hactive : d'.get ("active" :: W) = linkTo work active)
    (hlinks : LinksInPlace d' work W)
    (hnormal : ∀ id, next = some id ∨ active = some id → Normal id) :
    Layout start work W d' ((st.setActive active).setNext next) where
  cwd := hcwd.trans h.cwd
  outside := houtside
  tmp := by
    rw [hsame _ (by simp [List.suffix_cons_iff])
      (by simp [List.suffix_cons_iff])]
    exact h.tmp
  releasesDir := by
    rw [hsame _ (by simp [List.suffix_cons_iff])
      (by simp [List.suffix_cons_iff])]
    exact h.releasesDir
  staged id := by
    rw [HoldsRelease, hsame _ (by simp [List.suffix_cons_iff])
      (by simp [List.suffix_cons_iff]),
      hsame _ (by simp [List.suffix_cons_iff])
      (by simp [List.suffix_cons_iff])]
    exact h.staged id
  releases id := by
    rw [HoldsRelease, hsame _ (by simp [List.suffix_cons_iff])
      (by simp [List.suffix_cons_iff]),
      hsame _ (by simp [List.suffix_cons_iff])
      (by simp [List.suffix_cons_iff])]
    exact h.releases id
  next := hnext
  active := hactive
  links := hlinks
  normal := hnormal

theorem removeNext
    (hwork : EmptyWorkDir start work W) (h : Layout start work W d st)
    (hnext : st.next = some id) :
    ∃ d', d.removeFile (work.child "active.next") = some d' ∧
      Layout start work W d' (st.setNext none) := by
  have hlink :
      d.get ("active.next" :: W) = some (.link (releasePath work id)) := by
    simp [h.next, hnext, linkTo]
  refine ⟨_, Disk.removeFile_child (h.workDir hwork) (by decide) hlink, ?_⟩
  refine @of_links _ _ _ _ _ _ none st.active h rfl
    (h.outside.remove (below_work W _)) ?_ ?_ ?_ (h.links.remove _) ?_
  · intro l _ hl
    rw [Disk.get_removeAt, if_neg hl]
  · simp [Disk.get_removeAt, linkTo]
  · simpa [Disk.get_removeAt, List.suffix_cons_iff] using h.active
  · exact fun id' hid' => h.normal id' (Or.inr (by simpa using hid'))

theorem removeActive
    (hwork : EmptyWorkDir start work W) (h : Layout start work W d st)
    (hactive : st.active = some id) :
    ∃ d', d.removeFile (work.child "active") = some d' ∧
      Layout start work W d' (st.setActive none) := by
  have hlink :
      d.get ("active" :: W) = some (.link (releasePath work id)) := by
    simp [h.active, hactive, linkTo]
  refine ⟨_, Disk.removeFile_child (h.workDir hwork) (by decide) hlink, ?_⟩
  refine @of_links _ _ _ _ _ _ st.next none h rfl
    (h.outside.remove (below_work W _)) ?_ ?_ ?_ (h.links.remove _) ?_
  · intro l hl _
    rw [Disk.get_removeAt, if_neg hl]
  · simpa [Disk.get_removeAt, List.suffix_cons_iff] using h.next
  · simp [Disk.get_removeAt, linkTo]
  · exact fun id' hid' => h.normal id' (Or.inl (by simpa using hid'))

theorem linkNext
    (hwork : EmptyWorkDir start work W) (h : Layout start work W d st)
    (hid : Normal id) (hnext : st.next = none) :
    ∃ d', d.symlink (releasePath work id) (work.child "active.next") =
        some d' ∧
      Layout start work W d' (st.setNext (some id)) := by
  have hnone : d.get ("active.next" :: W) = none := by
    simp [h.next, hnext, linkTo]
  refine ⟨_, Disk.create_child (h.workDir hwork) (by decide) hnone _, ?_⟩
  refine @of_links _ _ _ _ _ _ (some id) st.active h rfl
    (h.outside.set (below_work W _) _) ?_ ?_ ?_ (h.links.setLink _ _) ?_
  · intro l _ hl
    rw [Disk.get_set, if_neg]
    rintro rfl
    exact hl List.suffix_rfl
  · simp [Disk.get_set, linkTo]
  · simpa [Disk.get_set] using h.active
  · rintro id' (hid' | hid')
    · exact Option.some.inj hid' ▸ hid
    · exact h.normal id' (Or.inr hid')

/-- A link that is in the way stays there. -/
theorem linkNext_fails
    (hwork : EmptyWorkDir start work W) (h : Layout start work W d st)
    (hnext : st.next ≠ none) (target : Path) :
    d.symlink target (work.child "active.next") = none := by
  obtain ⟨id, hid⟩ := Option.ne_none_iff_exists'.mp hnext
  refine Disk.create_child_fails (h.workDir hwork) (by decide) ?_ _
  simp [h.next, hid, linkTo]

/-- The link `active.next` takes the place of `active`, there or not. -/
theorem promote
    (hwork : EmptyWorkDir start work W) (h : Layout start work W d st)
    (hnext : st.next = some id) :
    ∃ d', d.rename (work.child "active.next") (work.child "active") =
        some d' ∧
      Layout start work W d' ((st.setActive (some id)).setNext none) := by
  have hlink :
      d.get ("active.next" :: W) = some (.link (releasePath work id)) := by
    simp [h.next, hnext, linkTo]
  have hreplaces :
      d.replaces ("active" :: W) (.link (releasePath work id))
        (d.get ("active" :: W)) = true := by
    rw [h.active]
    cases st.active <;> simp [linkTo, Disk.replaces]
  have hrename :=
    Disk.rename_child (h.workDir hwork) (by decide)
      (h.workDir hwork) (by decide) hlink
      (show ¬ ("active.next" :: W <:+ "active" :: W ∨
        "active" :: W <:+ "active.next" :: W) by
        simp [List.suffix_cons_iff])
  rw [if_pos hreplaces] at hrename
  refine ⟨_, hrename, ?_⟩
  refine @of_links _ _ _ _ _ _ none (some id) h rfl
    (h.outside.move (below_work W _) (below_work W _)) ?_ ?_ ?_
    (h.links.move (below_work W _) (fun _ _ => ⟨_, rfl⟩)) ?_
  · intro l hactive hnext
    rw [Disk.get_moveTo, if_neg hactive, if_neg hnext]
  · simp [Disk.get_moveTo, List.suffix_cons_iff, linkTo]
  · have hmoved :
        Tree.rebase ("active" :: W) ("active.next" :: W) ("active" :: W) =
          "active.next" :: W :=
      Tree.rebase_append ("active" :: W) ("active.next" :: W) []
    rw [Disk.get_moveTo, if_pos List.suffix_rfl, hmoved, hlink]
    rfl
  · rintro id' (hid' | hid')
    · cases hid'
    · exact Option.some.inj hid' ▸ h.normal id (Or.inl hnext)

/-- The configuration of a release, read under its path. -/
theorem readFile_release
    (hwork : EmptyWorkDir start work W) (h : Layout start work W d st)
    (hid : Normal id) :
    d.readFile ((releasePath work id).child "config.json") =
      st.config id := by
  rw [Disk.readFile, ReleaseStore.config]
  obtain ⟨hdir, hfile⟩ := h.releases id
  cases hrelease : st.releases id with
  | none =>
      have hnone : d.get (id :: "releases" :: W) = none := by
        simpa [hrelease] using hdir
      have hresolve : d.resolve (releasePath work id) = none := by
        rcases h.releasesDir with hreleases | ⟨hreleases, -⟩
        · exact Disk.resolve_child_eq_none
            (h.releases_dirAt hwork hreleases) hid.2 hnone
        · exact Disk.resolve_child_of_none
            (Disk.resolve_child_eq_none (h.workDir hwork) (by decide)
              hreleases)
      rw [Disk.metadata, Disk.resolve_child_of_none hresolve]
      rfl
  | some config =>
      rw [hrelease] at hdir hfile
      have hreleases := h.releasesDir_of_release
        (show st.releases id ≠ none by simp [hrelease])
      have hloc : d.DirAt (releasePath work id) (id :: "releases" :: W) :=
        Disk.dirAt_child (h.releases_dirAt hwork hreleases) hid.2 hdir
      rw [Disk.metadata_child hloc (by decide), hfile]
      · cases config <;> rfl
      · intro target
        rw [hfile]
        cases config <;> simp

/-- The configuration that is staged, read under its path. -/
theorem readFile_staged
    (hwork : EmptyWorkDir start work W) (h : Layout start work W d st)
    (hid : Normal id) {config : Bytes}
    (hstaged : st.staged id = some (some config)) :
    d.readFile ((stagingPath work id).child "config.json") = some config := by
  obtain ⟨hdir, hfile⟩ := h.staged id
  rw [hstaged] at hdir hfile
  have htmp := h.tmp_of_staged (show st.staged id ≠ none by simp [hstaged])
  have hloc : d.DirAt (stagingPath work id) (id :: "tmp" :: W) :=
    Disk.dirAt_child (h.tmp_dirAt hwork htmp) hid.2 hdir
  rw [Disk.readFile, Disk.metadata_child hloc (by decide), hfile]
  · rfl
  · intro target
    rw [hfile]
    simp

/-- What is read through `active`, if its target leads back to the directory. -/
theorem readFile_active
    (hwork : EmptyWorkDir start work W) (hback : LeadsBack start work W)
    (h : Layout start work W d st) :
    d.readFile ((work.child "active").child "config.json") =
      st.activeConfig := by
  have hroot := h.workDir hwork
  have hlink := h.active
  rw [ReleaseStore.activeConfig]
  cases hactive : st.active with
  | none =>
      have hnone : d.get ("active" :: W) = none := by
        simp [hlink, hactive, linkTo]
      rw [Disk.readFile, Disk.metadata, Disk.resolve_child_of_none
        (Disk.resolve_child_eq_none hroot (by decide) hnone)]
      rfl
  | some id =>
      have hid := h.normal id (Or.inr hactive)
      rw [hactive] at hlink
      obtain ⟨k, k', hto, hagain, hlimit⟩ := hback
      have hto : d.tree.Leads (work.base d.cwd) work.comps k W := by
        rw [h.cwd]
        exact hto.of_agreeOutside hwork.vacant h.outside
      have hagain := hagain.of_agreeOutside hwork.vacant h.outside
      -- No link is passed on the way down from the work directory.
      have hdown : ∀ {j l},
          d.tree.Leads W ["releases", id, "config.json"] j l → j = 0 := by
        intro j l hleads
        have hleads := Tree.leads_cons (by decide) ?_ hleads
        · have hleads := Tree.leads_cons hid.2 ?_ hleads
          · have hleads := Tree.leads_cons (by decide) ?_ hleads
            · cases hleads
              rfl
            · intro target htarget
              have hfile := (h.releases id).2.symm.trans htarget
              cases hconfig : (st.releases id).join <;>
                simp [hconfig] at hfile
          · intro target htarget
            have hdir := (h.releases id).1.symm.trans htarget
            cases hrelease : st.releases id <;> simp [hrelease] at hdir
        · intro target htarget
          rcases h.releasesDir with hdir | ⟨hnone, -⟩
          · cases hdir.symm.trans htarget
          · cases hnone.symm.trans htarget
      have htarget : (releasePath work id).comps ++ ["config.json"] =
          work.comps ++ ["releases", id, "config.json"] := by
        simp [releasePath, Path.child]
      have hresolve : d.resolve ((work.child "active").child "config.json") =
          d.resolve ((releasePath work id).child "config.json") := by
        refine Option.ext fun l => ?_
        rw [Disk.resolve, Disk.resolve, Tree.walk_eq_some, Tree.walk_eq_some]
        simp only [releasePath, Path.child, List.append_assoc,
          List.cons_append, List.nil_append]
        constructor
        · rintro ⟨n, -, hway⟩
          obtain ⟨_, -, hway⟩ := hto.of_append hway
          obtain ⟨_, -, hway⟩ := Tree.leads_link (by decide) hlink hway
          rw [htarget] at hway
          obtain ⟨j, -, hway⟩ := hagain.of_append hway
          obtain rfl := hdown hway
          exact ⟨k + 0, by omega, hto.append hway⟩
        · rintro ⟨n, -, hway⟩
          obtain ⟨j, -, hway⟩ := hto.of_append hway
          obtain rfl := hdown hway
          refine ⟨k + (k' + 0 + 1), by omega, hto.append ?_⟩
          refine .link hroot.dir (by decide) hlink ?_
          rw [htarget]
          exact hagain.append hway
      rw [Disk.readFile, Disk.metadata, hresolve]
      exact h.readFile_release hwork hid

/-- What is read through the name that `active` holds. -/
theorem namedConfig_active
    (hwork : EmptyWorkDir start work W) (h : Layout start work W d st) :
    namedConfig d (work.child "active") = st.activeConfig := by
  have hconfig : Normal "config.json" := by decide
  rw [namedConfig, h.readLink_active hwork, ReleaseStore.activeConfig]
  cases hactive : st.active with
  | none =>
      rfl
  | some id =>
      show d.readFile ((releasePath work id).join "config.json") = st.config id
      rw [hconfig.join, h.readFile_release hwork (h.normal id (Or.inr hactive))]

end Layout
end ProxyControl
