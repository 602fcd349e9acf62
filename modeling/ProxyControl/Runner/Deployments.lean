import ProxyControl.Runner.WorkDir

/-!
# What the runner does to its work directory

Every computation of the runner gets one rule that says, for a work directory
that holds a store, what it answers and what store is held afterwards, with and
without faults.
-/

namespace ProxyControl

open Calendar Effects FileSystem

/-- Among the moments allowed there is one with a fault. -/
def Faulty (ok : Moment → Prop) : Prop :=
  ∃ t, ok t ∧ t.fault ≠ none

/-- No fault occurs. -/
def Faultless (t : Moment) : Prop :=
  t.fault = none

theorem not_faulty_faultless : ¬ Faulty Faultless := by
  rintro ⟨t, hok, hfault⟩
  exact hfault hok

/-- Among the moments allowed there is one that takes a `config.json` away. -/
def LosesConfig (ok : Moment → Prop) : Prop :=
  ∃ t fault, ok t ∧ t.fault = some fault ∧
    ["config.json"] ∈ fault.progress.removed

theorem LosesConfig.faulty
    {ok : Moment → Prop} (h : LosesConfig ok) : Faulty ok := by
  obtain ⟨t, fault, hok, hfault, -⟩ := h
  exact ⟨t, hok, by simp [hfault]⟩

/-- The change is one system call. -/
def DiskChange.Single : DiskChange → Prop
  | removeFile _ | rename _ _ | symlink _ _ => True
  | _ => False

/-- What an allowed fault leaves of a change. -/
def Stops (ok : Moment → Prop) (op : DiskChange) (s s' : Host) : Prop :=
  ∃ t fault, ok t ∧ t.fault = some fault ∧
    s' = { s with disk := op.cutShort fault.progress s.disk }

theorem Stops.faulty
    {ok : Moment → Prop} {op : DiskChange} {s s' : Host}
    (h : Stops ok op s s') : Faulty ok := by
  obtain ⟨t, fault, hok, hfault, -⟩ := h
  exact ⟨t, hok, by simp [hfault]⟩

/-- One system call is made or not. -/
theorem Stops.eq_of_single
    {ok : Moment → Prop} {op : DiskChange} {s s' : Host}
    (h : Stops ok op s s') (hsingle : op.Single) : s' = s := by
  obtain ⟨t, fault, -, -, rfl⟩ := h
  cases op with
  | removeFile | rename | symlink => rfl
  | createDirAll | write | removeDirAll => exact hsingle.elim

namespace Local

variable (outcomes : Outcomes) (ok : Moment → Prop) (inv : Host → Prop)

/-- The weakest precondition of a computation of the runner. -/
def Ensures {α : Type}
    (action : Local α) (Q : Except String α → Host → Prop) (s : Host) :
    Prop :=
  Program.Ensures (Host.answer outcomes) ok inv action.run Q s

variable {outcomes ok inv}
variable {α β : Type} {s : Host}

theorem Ensures.mono
    {action : Local α} {Q R : Except String α → Host → Prop}
    (h : Ensures outcomes ok inv action Q s)
    (hQ : ∀ r s', Q r s' → R r s') :
    Ensures outcomes ok inv action R s :=
  Program.Ensures.mono h (fun _ hs => hs) hQ

theorem ensures_pure
    {a : α} {Q : Except String α → Host → Prop}
    (h : Q (.ok a) s) :
    Ensures outcomes ok inv (pure a) Q s :=
  h

/-- The rule of sequence; an error ends the computation. -/
theorem Ensures.bind
    {action : Local α} {next : α → Local β}
    {Q : Except String α → Host → Prop}
    {R : Except String β → Host → Prop}
    (h : Ensures outcomes ok inv action Q s)
    (hok : ∀ a s', Q (.ok a) s' →
      Ensures outcomes ok inv (next a) R s')
    (herror : ∀ e s', Q (.error e) s' → R (.error e) s') :
    Ensures outcomes ok inv (action >>= next) R s := by
  unfold Ensures
  rw [ExceptT.run_bind, Program.ensures_bind]
  refine Program.Ensures.mono h (fun _ hs => hs) ?_
  rintro (e | a) s' hQ
  · exact herror e s' hQ
  · exact hok a s' hQ

theorem Ensures.when
    {condition : Local Bool} {action : Local Unit}
    {Q : Except String Bool → Host → Prop}
    {R : Except String Unit → Host → Prop}
    (h : Ensures outcomes ok inv condition Q s)
    (hthen : ∀ s', Q (.ok true) s' → Ensures outcomes ok inv action R s')
    (helse : ∀ s', Q (.ok false) s' → R (.ok ()) s')
    (herror : ∀ e s', Q (.error e) s' → R (.error e) s') :
    Ensures outcomes ok inv (Local.when condition action) R s := by
  refine h.bind ?_ herror
  rintro (_ | _) s' hQ
  · exact helse s' hQ
  · exact hthen s' hQ

theorem Ensures.ignoreError
    {action : Local Unit} {Q : Except String Unit → Host → Prop}
    (h : Ensures outcomes ok inv action (fun _ s' => Q (.ok ()) s') s) :
    Ensures outcomes ok inv (Local.ignoreError action) Q s := by
  unfold Ensures Local.ignoreError
  rw [ExceptT.run_mk, Program.ensures_bind]
  exact h

theorem Ensures.outcome
    {action : Local α} {Q : Except String (Except String α) → Host → Prop}
    (h : Ensures outcomes ok inv action (fun r s' => Q (.ok r) s') s) :
    Ensures outcomes ok inv (Local.outcome action) Q s := by
  unfold Ensures Local.outcome
  rw [ExceptT.run_mk, Program.ensures_bind]
  exact h

theorem Ensures.ofExcept_bind
    {a : α} {next : α → Local β} {R : Except String β → Host → Prop}
    (h : Ensures outcomes ok inv (next a) R s) :
    Ensures outcomes ok inv (ofExcept (.ok a) >>= next) R s :=
  h

/-! ### Single calls -/

theorem ensures_utcNow
    (hinv : inv s) {Q : Except String DateTime → Host → Prop}
    (h : ∀ now, Q (.ok now) s) :
    Ensures outcomes ok inv utcNow Q s :=
  fun t _ => ⟨hinv, h t.now⟩

/-- A change that the disk allows fails only by a fault. -/
theorem ensures_change
    {op : DiskChange} {d : Disk}
    (hop : op.perform s.disk = some d) (hinv : inv { s with disk := d })
    {Q : Except String Unit → Host → Prop}
    (hdone : Q (.ok ()) { s with disk := d })
    (hstop : ∀ s', Stops ok op s s' → inv s' ∧ ∀ e, Q (.error e) s') :
    Ensures outcomes ok inv (change op) Q s := by
  intro t ht
  cases hf : t.fault with
  | none =>
      simpa [Host.answer, Host.change, hf, hop] using ⟨hinv, hdone⟩
  | some fault =>
      obtain ⟨hinv', herror⟩ := hstop _ ⟨t, fault, ht, hf, rfl⟩
      simpa [Host.answer, Host.change, hf] using ⟨hinv', herror fault.message⟩

theorem ensures_singleChange
    {op : DiskChange} {d : Disk}
    (hop : op.perform s.disk = some d) (hsingle : op.Single)
    (hinv : inv s) (hinv' : inv { s with disk := d })
    {Q : Except String Unit → Host → Prop}
    (hdone : Q (.ok ()) { s with disk := d })
    (hfault : Faulty ok → ∀ e, Q (.error e) s) :
    Ensures outcomes ok inv (change op) Q s := by
  refine ensures_change hop hinv' hdone ?_
  intro s' hstops
  obtain rfl := hstops.eq_of_single hsingle
  exact ⟨hinv, hfault hstops.faulty⟩

theorem Ensures.change_bind
    {op : DiskChange} {d : Disk} {next : Unit → Local β}
    (hop : op.perform s.disk = some d) (hinv : inv { s with disk := d })
    {R : Except String β → Host → Prop}
    (hnext : Ensures outcomes ok inv (next ()) R { s with disk := d })
    (hstop : ∀ s', Stops ok op s s' → inv s' ∧ ∀ e, R (.error e) s') :
    Ensures outcomes ok inv (change op >>= next) R s := by
  refine Ensures.bind (Q := fun r s' =>
    r = .ok () ∧ s' = { s with disk := d } ∨
      (∃ e, r = .error e) ∧ Stops ok op s s')
    (ensures_change hop hinv (Or.inl ⟨rfl, rfl⟩)
      (fun s' hstops => ⟨(hstop s' hstops).1,
        fun e => Or.inr ⟨⟨e, rfl⟩, hstops⟩⟩)) ?_ ?_
  · rintro u s' (⟨hu, rfl⟩ | ⟨⟨e, he⟩, -⟩)
    · exact hnext
    · cases he
  · rintro e s' (⟨he, -⟩ | ⟨-, hstops⟩)
    · cases he
    · exact (hstop s' hstops).2 e

/-- A change that the disk does not allow fails. -/
theorem ensures_singleChange_fails
    {op : DiskChange}
    (hop : op.perform s.disk = none) (hsingle : op.Single) (hinv : inv s)
    {Q : Except String Unit → Host → Prop}
    (herror : ∀ e, Q (.error e) s) :
    Ensures outcomes ok inv (change op) Q s := by
  intro t ht
  cases hf : t.fault with
  | none =>
      simpa [Host.answer, Host.change, hf, hop] using ⟨hinv, herror _⟩
  | some fault =>
      have hsame : { s with disk := op.cutShort fault.progress s.disk } = s :=
        Stops.eq_of_single ⟨t, fault, ht, hf, rfl⟩ hsingle
      simpa [Host.answer, Host.change, hf, hsame] using
        ⟨hinv, herror fault.message⟩

/-- A question whose answer is `b`; under a fault it may be answered by no. -/
def Answers (ok : Moment → Prop) (b answer : Bool) : Prop :=
  (answer = true → b = true) ∧ (¬ Faulty ok → answer = b)

theorem answers_and
    {t : Moment} (ht : ok t) (b : Bool) :
    Answers ok b (t.fault.isNone && b) := by
  refine ⟨fun h => (Bool.and_eq_true_iff.mp h).2, ?_⟩
  intro hfaultless
  cases hf : t.fault with
  | none =>
      rfl
  | some message =>
      exact absurd ⟨t, ht, by simp [hf]⟩ hfaultless

theorem ensures_exists
    {path : Path} (hinv : inv s)
    {Q : Except String Bool → Host → Prop}
    (h : ∀ b, Answers ok (s.disk.exists path) b → Q (.ok b) s) :
    Ensures outcomes ok inv (Local.exists path) Q s :=
  fun _ ht => ⟨hinv, h _ (answers_and ht _)⟩

theorem ensures_symlinkMetadata
    {path : Path} (hinv : inv s)
    {Q : Except String Bool → Host → Prop}
    (h : ∀ b, Answers ok (s.disk.symlinkMetadata path).isSome b →
      Q (.ok b) s) :
    Ensures outcomes ok inv (Local.symlinkMetadata path) Q s :=
  fun _ ht => ⟨hinv, h _ (answers_and ht _)⟩

theorem ensures_readLink
    {path : Path} (hinv : inv s)
    {Q : Except String (Option Path) → Host → Prop}
    (hread : Q (.ok (s.disk.readLink path)) s)
    (hfault : Faulty ok → Q (.ok none) s) :
    Ensures outcomes ok inv (Local.readLink path) Q s := by
  intro t ht
  cases hf : t.fault with
  | none =>
      simpa [Host.answer, hf] using ⟨hinv, hread⟩
  | some message =>
      have hfaulty : Faulty ok := ⟨t, ht, by simp [hf]⟩
      simpa [Host.answer, hf] using ⟨hinv, hfault hfaulty⟩

/-- An entry that is there whenever something resolves through it. -/
theorem ensures_present
    {path : Path} {b : Bool} (hinv : inv s)
    (hmetadata : (s.disk.symlinkMetadata path).isSome = b)
    (hexists : s.disk.exists path = true → b = true)
    {Q : Except String Bool → Host → Prop}
    (h : ∀ b', Answers ok b b' → Q (.ok b') s) :
    Ensures outcomes ok inv (Local.present path) Q s := by
  refine Ensures.bind (Q := fun r s' =>
    s' = s ∧ ∃ b', r = .ok b' ∧ (b' = true → b = true))
    (ensures_exists hinv ?_) ?_ ?_
  · exact fun b' hb' => ⟨rfl, b', rfl, fun hb => hexists (hb'.1 hb)⟩
  · rintro a s' ⟨rfl, b', hb', hb⟩
    obtain rfl := Except.ok.inj hb'
    cases a with
    | true =>
        refine ensures_pure (h true ⟨fun _ => hb rfl, fun _ => (hb rfl).symm⟩)
    | false =>
        refine ensures_symlinkMetadata hinv ?_
        rw [hmetadata]
        exact h
  · rintro e s' ⟨-, b', hb', -⟩
    cases hb'

theorem ensures_xrayTest
    {xrayBin config : Path} (hinv : inv s)
    {Q : Except String ProcessOutput → Host → Prop}
    (h : Q outcomes.test s) :
    Ensures outcomes ok inv (Local.xrayTest xrayBin config) Q s :=
  fun _ _ => ⟨hinv, h⟩

theorem ensures_coreCommand
    {role : CoreRole} {command : Path} {nodeId deploymentId : String}
    {activeDir activeConfig : Path}
    (hinv : inv (role.effect outcomes activeConfig s))
    {Q : Except String ProcessOutput → Host → Prop}
    (h : Q (outcomes.of role) (role.effect outcomes activeConfig s)) :
    Ensures outcomes ok inv
      (Local.coreCommand role command nodeId deploymentId activeDir
        activeConfig) Q s :=
  fun _ _ => ⟨hinv, h⟩

end Local
/-! ## Computations of the runner -/

/-- Every release of the store is of a kind. -/
def ReleaseStore.OfKind
    (self : ReleaseStore) (kind : String → Option Bytes → Prop) : Prop :=
  ∀ id config, self.releases id = some config → kind id config

theorem ReleaseStore.ofKind_any (self : ReleaseStore) :
    self.OfKind (fun _ _ => True) :=
  fun _ _ _ => trivial

/-- The host holds some store in its work directory. -/
def Shape (start : Disk) (work : Path) (W : Loc) (s : Host) : Prop :=
  ∃ st, Layout start work W s.disk st

/-- The host holds some store with releases of a kind. -/
def HoldsKind
    (start : Disk) (work : Path) (W : Loc)
    (kind : String → Option Bytes → Prop) (s : Host) : Prop :=
  ∃ st, Layout start work W s.disk st ∧ st.OfKind kind

theorem HoldsKind.shape
    {start : Disk} {work : Path} {W : Loc}
    {kind : String → Option Bytes → Prop} {s : Host}
    (h : HoldsKind start work W kind s) : Shape start work W s := by
  obtain ⟨st, hlayout, -⟩ := h
  exact ⟨st, hlayout⟩

/-- The computation leaves a given store, or a fault has stopped it. -/
def Completes
    (ok : Moment → Prop) (start : Disk) (work : Path) (W : Loc)
    (s : Host) (st : ReleaseStore) :
    Except String Unit → Host → Prop
  | .ok (), s' => s'.loaded = s.loaded ∧ Layout start work W s'.disk st
  | .error _, s' =>
      Faulty ok ∧ s'.loaded = s.loaded ∧ Shape start work W s'

/-- Point `active` to a release, by way of `active.next`. -/
def ReleaseStore.switchTo
    (self : ReleaseStore) (id : String) : ReleaseStore :=
  (self.setActive (some id)).setNext none

/-- The deployment ids that name directories are plain names. -/
def RunnerCommandKind.PlainIds : RunnerCommandKind → Prop
  | .applyDeploymentPlan deploymentId _ _ _ => Normal deploymentId
  | .rollbackDeployment _ rollbackToDeploymentId _ =>
      Normal rollbackToDeploymentId
  | _ => True

instance (kind : RunnerCommandKind) : Decidable kind.PlainIds :=
  match kind with
  | .applyDeploymentPlan deploymentId _ _ _ =>
      inferInstanceAs (Decidable (Normal deploymentId))
  | .rollbackDeployment _ rollbackToDeploymentId _ =>
      inferInstanceAs (Decidable (Normal rollbackToDeploymentId))
  | .registerNode _ | .heartbeat _ | .validateConfig _ | .reloadCore
  | .restartCore | .collectMetrics | .collectLogWindow _ => .isTrue trivial

/-- What a deployment that was undone is reported as. -/
def ReleaseStore.undoneStatus (self : ReleaseStore) : DeploymentStatus :=
  if self.active.isSome then .rolledBack else .failed

/-- Stage a configuration that is to be tested. -/
def ReleaseStore.prepare
    (self : ReleaseStore) (id : String) (rendered : Bytes) : ReleaseStore :=
  (self.stage id).writeStaged id rendered

/-- Release a configuration and make it active. -/
def ReleaseStore.deploy
    (self : ReleaseStore) (id : String) (rendered : Bytes) : ReleaseStore :=
  ((self.prepare id rendered).release id).switchTo id

namespace LocalRunner

variable {start : Disk} {runner : LocalRunner} {W : Loc}
variable {outcomes : Outcomes} {ok : Moment → Prop}
variable {s : Host} {st : ReleaseStore} {id : String}
variable {kind : String → Option Bytes → Prop}

theorem active_eq (runner : LocalRunner) :
    runner.active = runner.workDir.child "active" :=
  Normal.join (by decide) _

theorem next_eq (runner : LocalRunner) :
    runner.workDir.join "active.next" = runner.workDir.child "active.next" :=
  Normal.join (by decide) _

theorem releaseDir_eq (runner : LocalRunner) (hid : Normal id) :
    runner.releaseDir id = releasePath runner.workDir id := by
  have hreleases : Normal "releases" := by decide
  rw [releaseDir, hid.join, hreleases.join, releasePath]

theorem tmpDir_eq (runner : LocalRunner) (hid : Normal id) :
    runner.tmpDir id = stagingPath runner.workDir id := by
  have htmp : Normal "tmp" := by decide
  rw [tmpDir, hid.join, htmp.join, stagingPath]

/-- Clear away what an interrupted switch has left. -/
theorem ensures_clearNext
    (hwork : EmptyWorkDir start runner.workDir W)
    (h : Layout start runner.workDir W s.disk st) (hkind : st.OfKind kind) :
    Local.Ensures outcomes ok (HoldsKind start runner.workDir W kind)
      (Local.when (Local.present (runner.workDir.child "active.next"))
        (Local.ignoreError
          (Local.removeFile (runner.workDir.child "active.next"))))
      (fun r s' => r = .ok () ∧ s'.loaded = s.loaded ∧
        ∃ st', Layout start runner.workDir W s'.disk st' ∧
          st'.setNext none = st.setNext none ∧
          (st'.next = none ∨ Faulty ok)) s := by
  have hinv : HoldsKind start runner.workDir W kind s := ⟨st, h, hkind⟩
  refine Local.Ensures.when
    (Q := fun r s' => s' = s ∧ ∃ b, r = .ok b ∧
      Local.Answers ok st.next.isSome b)
    (Local.ensures_present hinv (h.symlinkMetadata_next hwork)
      (h.exists_next hwork) (fun b hb => ⟨rfl, b, rfl, hb⟩)) ?_ ?_ ?_
  · rintro s' ⟨rfl, b, hb, hanswer⟩
    obtain rfl := Except.ok.inj hb
    obtain ⟨next, hnext⟩ := Option.isSome_iff_exists.mp (hanswer.1 rfl)
    obtain ⟨d, hremove, hlayout⟩ := h.removeNext hwork hnext
    refine Local.Ensures.ignoreError (Local.ensures_singleChange
      (d := d) ?_ ?_ hinv ⟨_, hlayout, hkind⟩ ?_ ?_)
    · exact hremove
    · trivial
    · exact ⟨rfl, rfl, _, hlayout, rfl, Or.inl rfl⟩
    · exact fun hfaulty _ => ⟨rfl, rfl, st, h, rfl, Or.inr hfaulty⟩
  · rintro s' ⟨rfl, b, hb, hanswer⟩
    obtain rfl := Except.ok.inj hb
    refine ⟨rfl, rfl, st, h, rfl, ?_⟩
    by_cases hfaulty : Faulty ok
    · exact Or.inr hfaulty
    · have hnone := hanswer.2 hfaulty
      exact Or.inl (by simpa using hnone.symm)
  · rintro e s' ⟨-, b, hb, -⟩
    cases hb

/-- Make way for the new link. -/
theorem ensures_clearActive
    (hwork : EmptyWorkDir start runner.workDir W)
    (h : Layout start runner.workDir W s.disk st) (hkind : st.OfKind kind) :
    Local.Ensures outcomes ok (HoldsKind start runner.workDir W kind)
      (Local.when (Local.present (runner.workDir.child "active"))
        (Local.removeFile (runner.workDir.child "active")))
      (fun r s' => s'.loaded = s.loaded ∧
        match r with
        | .ok () => ∃ active,
            Layout start runner.workDir W s'.disk (st.setActive active)
        | .error _ => Faulty ok ∧ HoldsKind start runner.workDir W kind s') s := by
  have hinv : HoldsKind start runner.workDir W kind s := ⟨st, h, hkind⟩
  refine Local.Ensures.when
    (Q := fun r s' => s' = s ∧ ∃ b, r = .ok b ∧
      Local.Answers ok st.active.isSome b)
    (Local.ensures_present hinv (h.symlinkMetadata_active hwork)
      (h.exists_active hwork) (fun b hb => ⟨rfl, b, rfl, hb⟩)) ?_ ?_ ?_
  · rintro s' ⟨rfl, b, hb, hanswer⟩
    obtain rfl := Except.ok.inj hb
    obtain ⟨active, hactive⟩ := Option.isSome_iff_exists.mp (hanswer.1 rfl)
    obtain ⟨d, hremove, hlayout⟩ := h.removeActive hwork hactive
    refine Local.ensures_singleChange (d := d) ?_ ?_ hinv
      ⟨_, hlayout, hkind⟩ ?_ ?_
    · exact hremove
    · trivial
    · exact ⟨rfl, none, hlayout⟩
    · exact fun hfaulty _ => ⟨rfl, hfaulty, hinv⟩
  · rintro s' ⟨rfl, b, hb, -⟩
    exact ⟨rfl, st.active, h⟩
  · rintro e s' ⟨-, b, hb, -⟩
    cases hb

theorem ensures_switchActive
    (hwork : EmptyWorkDir start runner.workDir W)
    (h : Layout start runner.workDir W s.disk st) (hkind : st.OfKind kind)
    (hid : Normal id) :
    Local.Ensures outcomes ok (HoldsKind start runner.workDir W kind)
      (runner.switchActive (releasePath runner.workDir id))
      (fun r s' => HoldsKind start runner.workDir W kind s' ∧
        Completes ok start runner.workDir W s (st.switchTo id) r s') s := by
  have hstop : ∀ {e s'}, s'.loaded = s.loaded → Faulty ok →
      HoldsKind start runner.workDir W kind s' →
      HoldsKind start runner.workDir W kind s' ∧
        Completes ok start runner.workDir W s (st.switchTo id) (.error e) s' :=
    fun hloaded hfaulty hholds => ⟨hholds, hfaulty, hloaded, hholds.shape⟩
  unfold switchActive
  simp only [active_eq, next_eq]
  refine (ensures_clearNext hwork h hkind).bind ?_ ?_
  · rintro - s₁ ⟨-, hloaded₁, st₁, h₁, hst₁, hnext₁⟩
    have hkind₁ : st₁.OfKind kind := by
      have hreleases : st₁.releases = st.releases := by
        have hcongr := congrArg ReleaseStore.releases hst₁
        exact hcongr
      unfold ReleaseStore.OfKind
      rw [hreleases]
      exact hkind
    refine Local.Ensures.bind (Q := fun r s₂ => s₂.loaded = s.loaded ∧
      match r with
      | .ok () =>
          Layout start runner.workDir W s₂.disk (st.setNext (some id))
      | .error _ => Faulty ok ∧ HoldsKind start runner.workDir W kind s₂)
      ?_ ?_ ?_
    · by_cases hnone : st₁.next = none
      · obtain ⟨d, hlink, hlayout⟩ := h₁.linkNext hwork hid hnone
        have hst₂ : st₁.setNext (some id) = st.setNext (some id) := by
          have hcongr := congrArg (ReleaseStore.setNext · (some id)) hst₁
          exact hcongr
        rw [hst₂] at hlayout
        refine Local.ensures_singleChange (d := d) ?_ ?_
          ⟨_, h₁, hkind₁⟩ ⟨_, hlayout, hkind⟩ ?_ ?_
        · exact hlink
        · trivial
        · exact ⟨hloaded₁, hlayout⟩
        · exact fun hfaulty _ => ⟨hloaded₁, hfaulty, _, h₁, hkind₁⟩
      · have hfaulty := hnext₁.resolve_left hnone
        refine Local.ensures_singleChange_fails ?_ ?_ ⟨_, h₁, hkind₁⟩ ?_
        · exact h₁.linkNext_fails hwork hnone _
        · trivial
        · exact fun _ => ⟨hloaded₁, hfaulty, _, h₁, hkind₁⟩
    · intro _ s₂ hmid
      obtain ⟨hloaded₂, h₂⟩ := hmid
      refine (ensures_clearActive hwork h₂ hkind).bind ?_ ?_
      · rintro - s₃ ⟨hloaded₃, active, h₃⟩
        obtain ⟨d, hrename, hlayout⟩ := h₃.promote hwork rfl
        refine Local.ensures_singleChange (d := d) ?_ ?_
          ⟨_, h₃, hkind⟩ ⟨_, hlayout, hkind⟩ ?_ ?_
        · exact hrename
        · trivial
        · exact ⟨⟨_, hlayout, hkind⟩, hloaded₃.trans hloaded₂, hlayout⟩
        · exact fun hfaulty _ =>
            hstop (hloaded₃.trans hloaded₂) hfaulty ⟨_, h₃, hkind⟩
      · rintro e s₃ ⟨hloaded₃, hfaulty, hholds⟩
        exact hstop (hloaded₃.trans hloaded₂) hfaulty hholds
    · rintro e s₂ ⟨hloaded₂, hfaulty, hholds⟩
      exact hstop hloaded₂ hfaulty hholds
  · rintro e s₁ ⟨he, -⟩
    cases he

/-- A release without its configuration is of the kind as well. -/
theorem ofKind_loseConfig
    (hkind : st.OfKind kind) (hlost : kind id none) :
    (st.loseConfig id).OfKind kind := by
  intro other config hconfig
  rw [ReleaseStore.loseConfig_releases, Function.update_apply] at hconfig
  split_ifs at hconfig with hother
  · obtain rfl := Option.some.inj hconfig
    exact hother ▸ hlost
  · exact hkind other config hconfig

/-- Remove what a release would replace. -/
theorem ensures_clearRelease
    (hwork : EmptyWorkDir start runner.workDir W)
    (h : Layout start runner.workDir W s.disk st) (hkind : st.OfKind kind)
    (hlost : LosesConfig ok → kind id none) (hid : Normal id) :
    Local.Ensures outcomes ok (HoldsKind start runner.workDir W kind)
      (Local.when (Local.exists (releasePath runner.workDir id))
        (Local.removeDirAll (releasePath runner.workDir id)))
      (fun r s' => s'.loaded = s.loaded ∧
        match r with
        | .ok () => ∃ st', Layout start runner.workDir W s'.disk st' ∧
            st'.OfKind kind ∧ st'.staged = st.staged ∧
            st'.release id = st.release id ∧
            (st'.releases id = none ∨ Faulty ok)
        | .error _ => Faulty ok ∧ HoldsKind start runner.workDir W kind s') s := by
  have hinv : HoldsKind start runner.workDir W kind s := ⟨st, h, hkind⟩
  refine Local.Ensures.when
    (Q := fun r s' => s' = s ∧ ∃ b, r = .ok b ∧
      Local.Answers ok (st.releases id).isSome b)
    (Local.ensures_exists hinv ?_) ?_ ?_ ?_
  · rw [h.exists_release hwork hid]
    exact fun b hb => ⟨rfl, b, rfl, hb⟩
  · rintro s' ⟨rfl, b, hb, hanswer⟩
    obtain rfl := Except.ok.inj hb
    have hrelease : st.releases id ≠ none :=
      Option.isSome_iff_ne_none.mp (hanswer.1 rfl)
    obtain ⟨d, hremove, hlayout⟩ := h.removeRelease hwork hid hrelease
    have hkind' : (st.removeRelease id).OfKind kind := by
      intro other config hconfig
      rw [ReleaseStore.removeRelease_releases, Function.update_apply] at hconfig
      split_ifs at hconfig
      exact hkind other config hconfig
    refine Local.ensures_change (d := d) ?_ ⟨_, hlayout, hkind'⟩ ?_ ?_
    · exact hremove
    · refine ⟨rfl, _, hlayout, hkind', rfl, ?_, Or.inl (by simp)⟩
      simp [ReleaseStore.release, ReleaseStore.removeRelease,
        Function.update_idem]
    · intro s₁ hstops
      obtain ⟨t, fault, ht, hfault, hpart⟩ := hstops
      have hholds : HoldsKind start runner.workDir W kind s₁ := by
        rw [hpart]
        refine ⟨_, h.removeReleaseUntil hwork hid hrelease fault.progress, ?_⟩
        split
        · rename_i hremoved
          exact ofKind_loseConfig hkind (hlost ⟨t, fault, ht, hfault, hremoved⟩)
        · exact hkind
      refine ⟨hholds, fun _ => ⟨?_, ?_, hholds⟩⟩
      · rw [hpart]
      · exact ⟨t, ht, by simp [hfault]⟩
  · rintro s' ⟨rfl, b, hb, hanswer⟩
    obtain rfl := Except.ok.inj hb
    refine ⟨rfl, st, h, hkind, rfl, rfl, ?_⟩
    by_cases hfaulty : Faulty ok
    · exact Or.inr hfaulty
    · have hnone := hanswer.2 hfaulty
      exact Or.inl (by simpa using hnone.symm)
  · rintro e s' ⟨-, b, hb, -⟩
    cases hb

theorem ensures_installRelease
    (hwork : EmptyWorkDir start runner.workDir W)
    (h : Layout start runner.workDir W s.disk st) (hkind : st.OfKind kind)
    (hlost : LosesConfig ok → kind id none)
    (hid : Normal id) (hstaged : st.staged id ≠ none)
    (hgood : ∀ config, st.staged id = some config → kind id config) :
    Local.Ensures outcomes ok (HoldsKind start runner.workDir W kind)
      (runner.installRelease id)
      (fun r s' => HoldsKind start runner.workDir W kind s' ∧
        Completes ok start runner.workDir W s (st.release id) r s') s := by
  have hstop : ∀ {e s'}, s'.loaded = s.loaded → Faulty ok →
      HoldsKind start runner.workDir W kind s' →
      HoldsKind start runner.workDir W kind s' ∧
        Completes ok start runner.workDir W s (st.release id) (.error e) s' :=
    fun hloaded hfaulty hholds => ⟨hholds, hfaulty, hloaded, hholds.shape⟩
  have hreleased : (st.release id).OfKind kind := by
    intro other config hconfig
    rw [ReleaseStore.release_releases, Function.update_apply] at hconfig
    split_ifs at hconfig with hother
    · exact hother ▸ hgood config hconfig
    · exact hkind other config hconfig
  have hparent :
      (releasePath runner.workDir id).parent =
        runner.workDir.child "releases" :=
    Path.child_parent _ _
  unfold installRelease
  simp only [releaseDir_eq runner hid, tmpDir_eq runner hid, hparent]
  refine (ensures_clearRelease hwork h hkind hlost hid).bind ?_ ?_
  · intro _ s₁ hmid
    obtain ⟨hloaded₁, st₁, h₁, hkind₁, hstaged₁, hst₁, hnone₁⟩ := hmid
    obtain ⟨d₂, hmake, h₂, hreleases⟩ := h₁.makeReleasesDir hwork
    refine Local.Ensures.bind (Q := fun r s₂ => s₂.loaded = s.loaded ∧
      match r with
      | .ok () => s₂.disk = d₂
      | .error _ => Faulty ok ∧ HoldsKind start runner.workDir W kind s₂)
      (Local.ensures_change (d := d₂) ?_ ⟨_, h₂, hkind₁⟩ ?_ ?_) ?_ ?_
    · exact hmake
    · exact ⟨hloaded₁, rfl⟩
    · intro s₂ hstops
      obtain ⟨t, fault, ht, hfault, hpart⟩ := hstops
      have hsame : s₂ = s₁ := by
        rw [hpart, DiskChange.cutShort,
          Disk.createDirAllUntil_child (h₁.workDir hwork)]
      subst hsame
      exact ⟨⟨_, h₁, hkind₁⟩, fun _ =>
        ⟨hloaded₁, ⟨t, ht, by simp [hfault]⟩, _, h₁, hkind₁⟩⟩
    · intro _ s₂ hmid
      obtain ⟨hloaded₂, rfl⟩ := hmid
      rcases h₂.release hwork hid (hstaged₁ ▸ hstaged) hreleases with
        ⟨d, hrename, hlayout⟩ | ⟨hrename, hsome⟩
      · rw [hst₁] at hlayout
        refine Local.ensures_singleChange (d := d) ?_ ?_
          ⟨_, h₂, hkind₁⟩ ⟨_, hlayout, hreleased⟩ ?_ ?_
        · exact hrename
        · trivial
        · exact ⟨⟨_, hlayout, hreleased⟩, hloaded₂, hlayout⟩
        · exact fun hfaulty _ => hstop hloaded₂ hfaulty ⟨_, h₂, hkind₁⟩
      · have hfaulty := hnone₁.resolve_left hsome
        refine Local.ensures_singleChange_fails ?_ ?_ ⟨_, h₂, hkind₁⟩ ?_
        · exact hrename
        · trivial
        · exact fun _ => hstop hloaded₂ hfaulty ⟨_, h₂, hkind₁⟩
    · rintro e s₂ ⟨hloaded₂, hfaulty, hholds⟩
      exact hstop hloaded₂ hfaulty hholds
  · rintro e s₁ ⟨hloaded₁, hfaulty, hholds⟩
    exact hstop hloaded₁ hfaulty hholds

/-- The command of a role. -/
def commandOf (runner : LocalRunner) : CoreRole → Option Path
  | .reload => runner.reloadCommand
  | .health => runner.healthCommand

/-- The command of a role is not configured, or it succeeds. -/
def Passes
    (runner : LocalRunner) (outcomes : Outcomes) (role : CoreRole) : Prop :=
  (runner.commandOf role).isSome = true → Succeeds (outcomes.of role)

/-- What a stage leaves the core with. -/
def stageEffect
    (runner : LocalRunner) (outcomes : Outcomes) (role : CoreRole)
    (s : Host) : Host :=
  if (runner.commandOf role).isSome then
    role.effect outcomes (runner.active.join "config.json") s
  else s

theorem ensures_coreStage
    {inv : Host → Prop} (role : CoreRole) {failure : String}
    (hinv : inv (runner.stageEffect outcomes role s)) :
    Local.Ensures outcomes ok inv
      (runner.coreStage role (runner.commandOf role) id failure)
      (fun r s' => s' = runner.stageEffect outcomes role s ∧
        ∃ failure, r = .ok failure ∧
          (failure = none ↔ runner.Passes outcomes role)) s := by
  unfold coreStage
  cases hcommand : runner.commandOf role with
  | none =>
      refine Local.ensures_pure ⟨?_, none, rfl, ?_⟩
      · simp [stageEffect, hcommand]
      · simp [Passes, hcommand]
  | some command =>
      have heffect : runner.stageEffect outcomes role s =
          role.effect outcomes (runner.active.join "config.json") s := by
        simp [stageEffect, hcommand]
      have hpasses : runner.Passes outcomes role ↔
          Succeeds (outcomes.of role) := by
        simp [Passes, hcommand]
      rw [heffect] at hinv ⊢
      refine Local.Ensures.bind (Q := fun r s' =>
        s' = role.effect outcomes (runner.active.join "config.json") s ∧
          ∃ outcome, r = .ok outcome ∧
            ((∃ u, outcome = .ok u) ↔ Succeeds (outcomes.of role)))
        (Local.Ensures.outcome ?_) ?_ ?_
      · unfold runCoreCommand
        refine Local.Ensures.bind
          (Local.ensures_coreCommand hinv (Q := fun r s' =>
            s' = role.effect outcomes (runner.active.join "config.json") s ∧
              r = outcomes.of role) ⟨rfl, rfl⟩) ?_ ?_
        · rintro output s' ⟨rfl, houtput⟩
          by_cases hsuccess : output.success = true
          · simp only [hsuccess, if_true]
            refine Local.ensures_pure ⟨rfl, _, rfl, ?_⟩
            simp [← houtput, Succeeds, hsuccess]
          · simp only [hsuccess, Bool.false_eq_true, if_false]
            refine ⟨rfl, _, rfl, ?_⟩
            simp [← houtput, Succeeds, hsuccess]
        · rintro e s' ⟨rfl, houtput⟩
          refine ⟨rfl, _, rfl, ?_⟩
          simp [← houtput, Succeeds]
      · rintro outcome s' ⟨rfl, outcome', houtcome, hsucceeds⟩
        obtain rfl := Except.ok.inj houtcome
        cases outcome with
        | ok u =>
            refine Local.ensures_pure ⟨rfl, none, rfl, ?_⟩
            exact iff_of_true rfl (hpasses.mpr (hsucceeds.mp ⟨u, rfl⟩))
        | error error =>
            refine Local.ensures_pure ⟨rfl, _, rfl, ?_⟩
            refine iff_of_false (by simp) ?_
            intro hp
            obtain ⟨u, hu⟩ := hsucceeds.mpr (hpasses.mp hp)
            cases hu
      · rintro e s' ⟨-, outcome, houtcome, -⟩
        cases houtcome

/-- The result of a computation that then reports it with a clock reading. -/
theorem ensures_report
    {inv : Host → Prop} (hinv : inv s) {result : DateTime → DeploymentResult}
    {post : Except String DeploymentResult → Host → Prop}
    (h : ∀ now, post (.ok (result now)) s) :
    Local.Ensures outcomes ok inv
      (do return result (← Local.utcNow)) post s := by
  refine Local.Ensures.bind (Local.ensures_utcNow hinv
    (Q := fun r s' => s' = s ∧ ∃ now, r = .ok now)
    (fun now => ⟨rfl, now, rfl⟩)) ?_ ?_
  · rintro now s' ⟨rfl, -⟩
    exact Local.ensures_pure (h now)
  · rintro e s' ⟨-, now, hnow⟩
    cases hnow

/-- No success is reported. -/
def Unsuccessful (r : Except String DeploymentResult) : Prop :=
  ∀ result, r = .ok result → result.status ≠ .succeeded

/-- After a failure the link is what it was before, `previous`. -/
theorem ensures_restoreActive
    (hwork : EmptyWorkDir start runner.workDir W)
    (h : Layout start runner.workDir W s.disk st) (hkind : st.OfKind kind)
    (hnext : st.next = none)
    {previous : Option String} (hprevious : ∀ id ∈ previous, Normal id)
    (failure : String) :
    Local.Ensures outcomes ok (HoldsKind start runner.workDir W kind)
      (runner.restoreActive (previous.map (releasePath runner.workDir))
        failure)
      (fun r s' => s'.loaded = s.loaded ∧
        HoldsKind start runner.workDir W kind s' ∧
        (∀ outcome, r = .ok outcome → outcome.1 ≠ .succeeded) ∧
        (¬ Faulty ok → ∃ message, r =
            .ok (if previous.isSome then .rolledBack else .failed, message) ∧
          Layout start runner.workDir W s'.disk (st.setActive previous)))
      s := by
  cases previous with
  | some id =>
      refine (ensures_switchActive hwork h hkind (hprevious id rfl)).bind ?_ ?_
      · rintro - s' ⟨hholds, hloaded, hlayout⟩
        have hst : st.switchTo id = st.setActive (some id) := by
          simp [ReleaseStore.switchTo, ReleaseStore.setActive,
            ReleaseStore.setNext, hnext]
        rw [hst] at hlayout
        refine Local.ensures_pure
          ⟨hloaded, hholds, ?_, fun _ => ⟨_, rfl, hlayout⟩⟩
        rintro outcome ⟨⟩
        exact DeploymentStatus.noConfusion
      · rintro e s' ⟨hholds, hfaulty, hloaded, -⟩
        refine ⟨hloaded, hholds, ?_, fun hfaultless => absurd hfaulty hfaultless⟩
        rintro outcome ⟨⟩
  | none =>
      have hinv : HoldsKind start runner.workDir W kind s := ⟨st, h, hkind⟩
      refine Local.Ensures.bind (Q := fun r s' => r = .ok () ∧
        s'.loaded = s.loaded ∧ HoldsKind start runner.workDir W kind s' ∧
        (¬ Faulty ok →
          Layout start runner.workDir W s'.disk (st.setActive none)))
        ?_ ?_ ?_
      · rw [active_eq]
        refine Local.Ensures.when
          (Q := fun r s' => s' = s ∧ ∃ b, r = .ok b ∧
            Local.Answers ok st.active.isSome b)
          (Local.ensures_symlinkMetadata hinv ?_) ?_ ?_ ?_
        · rw [h.symlinkMetadata_active hwork]
          exact fun b hb => ⟨rfl, b, rfl, hb⟩
        · rintro s' ⟨rfl, b, hb, hanswer⟩
          obtain rfl := Except.ok.inj hb
          obtain ⟨id, hactive⟩ :=
            Option.isSome_iff_exists.mp (hanswer.1 rfl)
          obtain ⟨d, hremove, hlayout⟩ := h.removeActive hwork hactive
          refine Local.Ensures.ignoreError (Local.ensures_singleChange
            (d := d) ?_ ?_ hinv ⟨_, hlayout, hkind⟩ ?_ ?_)
          · exact hremove
          · trivial
          · exact ⟨rfl, rfl, ⟨_, hlayout, hkind⟩, fun _ => hlayout⟩
          · exact fun hfaulty _ => ⟨rfl, rfl, hinv,
              fun hfaultless => absurd hfaulty hfaultless⟩
        · rintro s' ⟨rfl, b, hb, hanswer⟩
          obtain rfl := Except.ok.inj hb
          refine ⟨rfl, rfl, hinv, fun hfaultless => ?_⟩
          have hnone : st.active = none := by
            simpa using (hanswer.2 hfaultless).symm
          have hst : st.setActive none = st := by
            simp [ReleaseStore.setActive, ← hnone]
          rwa [hst]
        · rintro e s' ⟨-, b, hb, -⟩
          cases hb
      · rintro - s' ⟨-, hloaded, hholds, hlayout⟩
        refine Local.ensures_pure ⟨hloaded, hholds, ?_,
          fun hfaultless => ⟨_, rfl, hlayout hfaultless⟩⟩
        rintro outcome ⟨⟩
        exact DeploymentStatus.noConfusion
      · rintro e s' ⟨he, -⟩
        cases he

theorem ensures_rollbackAfterApplyFailure
    (hwork : EmptyWorkDir start runner.workDir W)
    (h : Layout start runner.workDir W s.disk st) (hkind : st.OfKind kind)
    (hnext : st.next = none)
    {previous : Option String} (hprevious : ∀ id ∈ previous, Normal id)
    (sha256 failure : String) :
    Local.Ensures outcomes ok (HoldsKind start runner.workDir W kind)
      (runner.rollbackAfterApplyFailure id sha256
        (previous.map (releasePath runner.workDir)) failure)
      (fun r s' => s'.loaded = s.loaded ∧
        HoldsKind start runner.workDir W kind s' ∧ Unsuccessful r ∧
        (¬ Faulty ok → ∃ result, r = .ok result ∧
          result.status = (if previous.isSome then .rolledBack else .failed) ∧
          Layout start runner.workDir W s'.disk (st.setActive previous)))
      s := by
  refine (ensures_restoreActive hwork h hkind hnext hprevious failure).bind
    ?_ ?_
  · rintro ⟨status, message⟩ s' ⟨hloaded, hholds, hfails, hlayout⟩
    refine ensures_report hholds (fun now => ⟨hloaded, hholds, ?_, ?_⟩)
    · rintro result ⟨⟩
      exact hfails _ rfl
    · intro hfaultless
      obtain ⟨message', heq, hlayout⟩ := hlayout hfaultless
      obtain ⟨hstatus, -⟩ := Prod.mk.inj (Except.ok.inj heq)
      exact ⟨_, rfl, hstatus, hlayout⟩
  · rintro e s' ⟨hloaded, hholds, -, hlayout⟩
    refine ⟨hloaded, hholds, ?_, fun hfaultless => ?_⟩
    · rintro result ⟨⟩
    · obtain ⟨message, heq, -⟩ := hlayout hfaultless
      cases heq

/-- The answer to a rejected configuration changes nothing. -/
theorem ensures_testFailed
    {inv : Host → Prop} (hinv : inv s) (sha256 : String)
    (output : ProcessOutput) :
    Local.Ensures outcomes ok inv (runner.testFailed id sha256 output)
      (fun r s' => s' = s ∧ ∃ result, r = .ok result ∧
        result.status ≠ .succeeded ∧
        (¬ Faulty ok → result.status =
          if (s.disk.symlinkMetadata runner.active).isSome then .rolledBack
          else .failed)) s := by
  refine Local.Ensures.bind (Local.ensures_symlinkMetadata hinv
    (Q := fun r s' => s' = s ∧ ∃ b, r = .ok b ∧
      Local.Answers ok (s.disk.symlinkMetadata runner.active).isSome b)
    (fun b hb => ⟨rfl, b, rfl, hb⟩)) ?_ ?_
  · rintro b s' ⟨rfl, b', hb, hanswer⟩
    obtain rfl := Except.ok.inj hb
    refine ensures_report hinv (fun now => ⟨rfl, _, rfl, ?_, ?_⟩)
    · cases b <;> simp
    · intro hfaultless
      rw [← hanswer.2 hfaultless]
  · rintro e s' ⟨-, b, hb, -⟩
    cases hb

/-- What the core has loaded once the reload stage is passed. -/
def loadedAfterReload
    (runner : LocalRunner) (reached loaded : Option Bytes) : Option Bytes :=
  if runner.reloadCommand.isSome then reached else loaded

/--
How the deployment of a rendered configuration ends without faults: its status,
the store it leaves, and the configuration that the core has loaded.  A reload
reaches the deployed configuration if the link leads to where it should.
-/
inductive Ends
    (start : Disk) (W : Loc) (runner : LocalRunner) (outcomes : Outcomes)
    (st : ReleaseStore) (id : String) (rendered : Bytes)
    (loaded : Option Bytes) :
    DeploymentStatus → ReleaseStore → Option Bytes → Prop
  | rejected
      (htest : ¬ Succeeds outcomes.test) :
      Ends start W runner outcomes st id rendered loaded
        st.undoneStatus (st.prepare id rendered) loaded
  | reloadFailed
      (htest : Succeeds outcomes.test)
      (hreload : ¬ runner.Passes outcomes .reload) :
      Ends start W runner outcomes st id rendered loaded
        st.undoneStatus ((st.deploy id rendered).setActive st.active) loaded
  | healthFailed {reached : Option Bytes}
      (htest : Succeeds outcomes.test)
      (hreload : runner.Passes outcomes .reload)
      (hhealth : ¬ runner.Passes outcomes .health)
      (hreached : LeadsBack start runner.workDir W → reached = some rendered) :
      Ends start W runner outcomes st id rendered loaded
        st.undoneStatus ((st.deploy id rendered).setActive st.active)
        (runner.loadedAfterReload reached loaded)
  | succeeded {reached : Option Bytes}
      (htest : Succeeds outcomes.test)
      (hreload : runner.Passes outcomes .reload)
      (hhealth : runner.Passes outcomes .health)
      (hreached : LeadsBack start runner.workDir W → reached = some rendered) :
      Ends start W runner outcomes st id rendered loaded
        .succeeded (st.deploy id rendered)
        (runner.loadedAfterReload reached loaded)

/-- The deployed configuration is the one that `active` names. -/
theorem deploy_activeConfig
    (st : ReleaseStore) (id : String) (rendered : Bytes) :
    (st.deploy id rendered).activeConfig = some rendered := by
  simp [ReleaseStore.activeConfig, ReleaseStore.deploy,
    ReleaseStore.switchTo, ReleaseStore.config, ReleaseStore.prepare]

/-- The stages after the switch leave the disk alone. -/
theorem stageEffect_disk
    (role : CoreRole) (s : Host) :
    (runner.stageEffect outcomes role s).disk = s.disk := by
  unfold stageEffect CoreRole.effect
  cases role <;> split_ifs <;> rfl

theorem stageEffect_health
    (s : Host) :
    runner.stageEffect outcomes .health s = s := by
  unfold stageEffect CoreRole.effect
  split_ifs <;> rfl

/-- What is read through `active` is the configuration of the active release. -/
theorem activeConfig_of_layout
    (hwork : EmptyWorkDir start runner.workDir W)
    (hback : LeadsBack start runner.workDir W)
    (h : Layout start runner.workDir W s.disk st) :
    runner.activeConfig s.disk = st.activeConfig := by
  have hconfig : Normal "config.json" := by decide
  rw [activeConfig, active_eq, hconfig.join, h.readFile_active hwork hback]

theorem stageEffect_reload_passed
    (hpasses : runner.Passes outcomes .reload) (s : Host) :
    (runner.stageEffect outcomes .reload s).loaded =
      runner.loadedAfterReload (runner.activeConfig s.disk) s.loaded := by
  unfold stageEffect loadedAfterReload
  by_cases hcommand : runner.reloadCommand.isSome = true
  · have hsucceeds : Succeeds outcomes.reload := hpasses hcommand
    simp [commandOf, hcommand, CoreRole.effect, hsucceeds, activeConfig]
  · simp [commandOf, hcommand]

theorem stageEffect_reload_failed
    (hfails : ¬ runner.Passes outcomes .reload) (s : Host) :
    runner.stageEffect outcomes .reload s = s := by
  obtain ⟨hcommand, hsucceeds⟩ := Classical.not_imp.mp hfails
  have hsucceeds : ¬ Succeeds outcomes.reload := hsucceeds
  simp [stageEffect, hcommand, CoreRole.effect, hsucceeds]

/-- Without faults the deployment has ended in one of the known ways. -/
def Deployed
    (ok : Moment → Prop) (start : Disk) (W : Loc)
    (runner : LocalRunner) (outcomes : Outcomes) (st : ReleaseStore)
    (id : String) (rendered : Bytes) (loaded : Option Bytes)
    (r : Except String DeploymentResult) (s' : Host) : Prop :=
  Shape start runner.workDir W s' ∧
    (¬ Faulty ok → ∃ result st', r = .ok result ∧
      Layout start runner.workDir W s'.disk st' ∧
      Ends start W runner outcomes st id rendered loaded
        result.status st' s'.loaded)

/-- A success leaves this store. -/
def LeavesIfSucceeded
    (start : Disk) (work : Path) (W : Loc) (st : ReleaseStore)
    (r : Except String DeploymentResult) (s' : Host) : Prop :=
  ∀ result, r = .ok result → result.status = .succeeded →
    Layout start work W s'.disk st

/-- A failure after the switch ends a deployment as undone. -/
theorem ensures_undo
    (hwork : EmptyWorkDir start runner.workDir W) {rendered : Bytes}
    {st₀ : ReleaseStore} {loaded : Option Bytes}
    (h : Layout start runner.workDir W s.disk (st₀.deploy id rendered))
    (hkind : (st₀.deploy id rendered).OfKind kind)
    {previous : Option String} (hprevious : ∀ id ∈ previous, Normal id)
    (hsame : ¬ Faulty ok → previous = st₀.active)
    (hends : Ends start W runner outcomes st₀ id rendered loaded
      st₀.undoneStatus ((st₀.deploy id rendered).setActive st₀.active)
      s.loaded)
    (sha256 failure : String) :
    Local.Ensures outcomes ok (HoldsKind start runner.workDir W kind)
      (runner.rollbackAfterApplyFailure id sha256
        (previous.map (releasePath runner.workDir)) failure)
      (fun r s' => HoldsKind start runner.workDir W kind s' ∧
        Unsuccessful r ∧
        Deployed ok start W runner outcomes st₀ id rendered loaded r s') s := by
  refine (ensures_rollbackAfterApplyFailure hwork h hkind rfl hprevious sha256
    failure).mono ?_
  rintro r s' ⟨hloaded, hholds, hfails, hlayout⟩
  refine ⟨hholds, hfails, hholds.shape, fun hfaultless => ?_⟩
  obtain ⟨result, hr, hstatus, hlayout⟩ := hlayout hfaultless
  obtain rfl := hsame hfaultless
  refine ⟨result, _, hr, hlayout, ?_⟩
  rw [hstatus, hloaded]
  exact hends

/-- The part of a deployment after the switch. -/
theorem ensures_finishDeployment
    (hwork : EmptyWorkDir start runner.workDir W) {rendered : Bytes}
    {st₀ : ReleaseStore}
    (htest : Succeeds outcomes.test)
    (h : Layout start runner.workDir W s.disk (st₀.deploy id rendered))
    (hkind : (st₀.deploy id rendered).OfKind kind)
    {previous : Option String} (hprevious : ∀ id ∈ previous, Normal id)
    (hsame : ¬ Faulty ok → previous = st₀.active)
    (sha256 : String) :
    Local.Ensures outcomes ok (HoldsKind start runner.workDir W kind)
      (runner.finishDeployment id sha256
        (previous.map (releasePath runner.workDir)))
      (fun r s' => HoldsKind start runner.workDir W kind s' ∧
        LeavesIfSucceeded start runner.workDir W (st₀.deploy id rendered) r
          s' ∧
        Deployed ok start W runner outcomes st₀ id rendered s.loaded r s')
      s := by
  have hundone : ∀ {r s'}, HoldsKind start runner.workDir W kind s' ∧
      Unsuccessful r ∧
        Deployed ok start W runner outcomes st₀ id rendered s.loaded r s' →
      HoldsKind start runner.workDir W kind s' ∧
        LeavesIfSucceeded start runner.workDir W (st₀.deploy id rendered) r
          s' ∧
        Deployed ok start W runner outcomes st₀ id rendered s.loaded r s' :=
    fun ⟨hholds, hfails, hdeployed⟩ => ⟨hholds,
      fun result hr hstatus => absurd hstatus (hfails result hr), hdeployed⟩
  have hholds : ∀ role, HoldsKind start runner.workDir W kind
      (runner.stageEffect outcomes role s) :=
    fun role => ⟨_, (stageEffect_disk role s).symm ▸ h, hkind⟩
  refine (ensures_coreStage .reload (hholds _)).bind ?_ ?_
  · rintro failure s₁ ⟨rfl, failure', hfailure, hreload⟩
    obtain rfl := Except.ok.inj hfailure
    cases failure with
    | some failure =>
        have hfails : ¬ runner.Passes outcomes .reload :=
          fun hp => by cases hreload.mpr hp
        rw [stageEffect_reload_failed hfails s]
        exact (ensures_undo hwork h hkind hprevious hsame
          (.reloadFailed htest hfails) sha256 failure).mono
            (fun _ _ => hundone)
    | none =>
        have hpasses : runner.Passes outcomes .reload := hreload.mp rfl
        have hloaded := stageEffect_reload_passed hpasses s
        have hreached (hback : LeadsBack start runner.workDir W) :
            runner.activeConfig s.disk = some rendered := by
          rw [activeConfig_of_layout hwork hback h, deploy_activeConfig]
        have hlayout : Layout start runner.workDir W
            (runner.stageEffect outcomes .reload s).disk
            (st₀.deploy id rendered) :=
          (stageEffect_disk .reload s).symm ▸ h
        generalize runner.stageEffect outcomes .reload s = s₁
          at hloaded hlayout
        have hinv : HoldsKind start runner.workDir W kind
            (runner.stageEffect outcomes .health s₁) :=
          ⟨_, (stageEffect_disk .health s₁).symm ▸ hlayout, hkind⟩
        refine (ensures_coreStage .health hinv).bind ?_ ?_
        · rintro failure s₂ ⟨rfl, failure', hfailure', hhealth⟩
          obtain rfl := Except.ok.inj hfailure'
          rw [stageEffect_health]
          cases failure with
          | some failure =>
              have hfails : ¬ runner.Passes outcomes .health :=
                fun hp => by cases hhealth.mpr hp
              refine (ensures_undo hwork hlayout hkind hprevious hsame ?_
                sha256 failure).mono (fun _ _ => hundone)
              rw [hloaded]
              exact .healthFailed htest hpasses hfails hreached
          | none =>
              refine ensures_report ⟨_, hlayout, hkind⟩ (fun now =>
                ⟨⟨_, hlayout, hkind⟩, fun _ _ _ => hlayout, ⟨_, hlayout⟩,
                  fun _ => ?_⟩)
              refine ⟨_, _, rfl, hlayout, ?_⟩
              rw [hloaded]
              exact .succeeded htest hpasses (hhealth.mp rfl) hreached
        · rintro e s₂ ⟨-, failure, hfailure', -⟩
          cases hfailure'
  · rintro e s₁ ⟨-, failure, hfailure, -⟩
    cases hfailure

/--
What `applyDeployment` ensures: with a rendered configuration and an xray that
runs, it ends in one of the known ways, and else with an error.
-/
def Applied
    (crates : Crates) (ok : Moment → Prop) (start : Disk) (W : Loc)
    (runner : LocalRunner) (outcomes : Outcomes) (st : ReleaseStore)
    (id : String) (configJson : Json.Value) (loaded : Option Bytes)
    (r : Except String DeploymentResult) (s' : Host) : Prop :=
  Shape start runner.workDir W s' ∧
    (¬ Faulty ok →
      match crates.toVecPretty configJson, outcomes.test with
      | .ok rendered, .ok _ => ∃ result st', r = .ok result ∧
          Layout start runner.workDir W s'.disk st' ∧
          Ends start W runner outcomes st id rendered loaded
            result.status st' s'.loaded
      | _, _ => ∃ e, r = .error e)

/--
What a deployment leaves whatever faults occur: releases of a kind, and after a
success the store with the release.
-/
structure Keeps
    (crates : Crates) (start : Disk) (W : Loc) (runner : LocalRunner)
    (st : ReleaseStore) (id : String) (configJson : Json.Value)
    (kind : String → Option Bytes → Prop)
    (r : Except String DeploymentResult) (s' : Host) : Prop where
  holds : HoldsKind start runner.workDir W kind s'
  succeeded : ∀ result, r = .ok result → result.status = .succeeded →
    ∃ rendered, crates.toVecPretty configJson = .ok rendered ∧
      Layout start runner.workDir W s'.disk (st.deploy id rendered)

theorem Keeps.of_error
    {crates : Crates} {configJson : Json.Value} {e : String} {s' : Host}
    (h : HoldsKind start runner.workDir W kind s') :
    Keeps crates start W runner st id configJson kind (.error e) s' where
  holds := h
  succeeded := by
    rintro result ⟨⟩

/-- A release of the kind may take the place of another. -/
theorem ofKind_deploy
    (hkind : st.OfKind kind) {rendered : Bytes}
    (hgood : kind id (some rendered)) :
    (st.deploy id rendered).OfKind kind := by
  intro other config hconfig
  have hreleases : (st.deploy id rendered).releases other =
      if other = id then some (some rendered) else st.releases other := by
    simp [ReleaseStore.deploy, ReleaseStore.switchTo, ReleaseStore.prepare,
      Function.update_apply]
  rw [hreleases] at hconfig
  split_ifs at hconfig with hother
  · obtain rfl := Option.some.inj hconfig
    exact hother ▸ hgood
  · exact hkind other config hconfig

/-- The part of a deployment that depends on the verdict of xray. -/
theorem ensures_tested
    {crates : Crates} (hwork : EmptyWorkDir start runner.workDir W)
    {configJson : Json.Value} {rendered : Bytes} {output : ProcessOutput}
    (h : Layout start runner.workDir W s.disk (st.prepare id rendered))
    (hkind : st.OfKind kind) (hlost : LosesConfig ok → kind id none)
    (hgood : kind id (some rendered)) (hid : Normal id)
    (hrender : crates.toVecPretty configJson = .ok rendered)
    (htest : outcomes.test = .ok output) (sha256 : String) :
    Local.Ensures outcomes ok (HoldsKind start runner.workDir W kind)
      (if ¬ output.success then runner.testFailed id sha256 output
      else do
        runner.installRelease id
        let previousActive ←
          Local.readLink (runner.workDir.child "active")
        runner.switchActive (releasePath runner.workDir id)
        runner.finishDeployment id sha256 previousActive)
      (fun r s' => Keeps crates start W runner st id configJson kind r s' ∧
        Applied crates ok start W runner outcomes st id configJson s.loaded
          r s') s := by
  have hstop : ∀ {e s'}, Faulty ok →
      HoldsKind start runner.workDir W kind s' →
      Keeps crates start W runner st id configJson kind (.error e) s' ∧
        Applied crates ok start W runner outcomes st id configJson s.loaded
          (.error e) s' :=
    fun hfaulty hholds => ⟨.of_error hholds, hholds.shape,
      fun hfaultless => absurd hfaulty hfaultless⟩
  by_cases hsuccess : output.success = true
  · rw [if_neg (by simpa using hsuccess)]
    have hsucceeds : Succeeds outcomes.test := by
      rw [htest]
      exact hsuccess
    have hdeploy := ofKind_deploy hkind hgood
    refine (ensures_installRelease hwork h hkind hlost hid
      (by simp [ReleaseStore.prepare]) ?_).bind ?_
      (fun e s₁ hQ => hstop hQ.2.1 hQ.1)
    · intro config hconfig
      have hstaged : some rendered = config := by
        simpa [ReleaseStore.prepare] using hconfig
      exact hstaged ▸ hgood
    rintro - s₁ ⟨-, hloaded₁, h₁⟩
    refine Local.Ensures.bind (Local.ensures_readLink ⟨_, h₁, hdeploy⟩
      (Q := fun r s' => s' = s₁ ∧ ∃ previous,
        r = .ok (previous.map (releasePath runner.workDir)) ∧
          (∀ id ∈ previous, Normal id) ∧
          (¬ Faulty ok → previous = st.active)) ?_ ?_) ?_ ?_
    · refine ⟨rfl, st.active, ?_, ?_, fun _ => rfl⟩
      · rw [h₁.readLink_active hwork]
        rfl
      · exact fun id' hid' => h₁.normal id' (Or.inr hid')
    · exact fun hfaulty => ⟨rfl, none, rfl, by simp,
        fun hfaultless => absurd hfaulty hfaultless⟩
    · rintro previousActive s₂ ⟨rfl, previous, heq, hnormal, hsame⟩
      obtain rfl := Except.ok.inj heq
      refine (ensures_switchActive hwork h₁ hdeploy hid).bind ?_
        (fun e s₃ hQ => hstop hQ.2.1 hQ.1)
      rintro - s₃ ⟨-, hloaded₃, h₃⟩
      refine (ensures_finishDeployment hwork hsucceeds h₃ hdeploy hnormal
        hsame sha256).mono ?_
      rintro r s' ⟨hholds, hleaves, hshape, hends⟩
      refine ⟨⟨hholds, fun result hr hstatus =>
        ⟨rendered, hrender, hleaves result hr hstatus⟩⟩, hshape,
        fun hfaultless => ?_⟩
      rw [hrender, htest]
      rw [hloaded₃, hloaded₁] at hends
      exact hends hfaultless
    · rintro e s₂ ⟨-, previous, he, -⟩
      cases he
  · rw [if_pos (by simpa using hsuccess)]
    have hfails : ¬ Succeeds outcomes.test := by
      rw [htest]
      exact hsuccess
    have hinv : HoldsKind start runner.workDir W kind s := ⟨_, h, hkind⟩
    refine (ensures_testFailed hinv sha256 output).mono ?_
    rintro r s' ⟨rfl, result, rfl, hunsuccessful, hstatus⟩
    refine ⟨⟨hinv, ?_⟩, hinv.shape, fun hfaultless => ?_⟩
    · rintro result' ⟨⟩ hsucceeded
      exact absurd hsucceeded hunsuccessful
    · rw [hrender, htest]
      refine ⟨result, _, rfl, h, ?_⟩
      rw [hstatus hfaultless, active_eq, h.symlinkMetadata_active hwork]
      exact .rejected hfails

theorem ensures_applyDeployment
    (crates : Crates) (hwork : EmptyWorkDir start runner.workDir W)
    (h : Layout start runner.workDir W s.disk st) (hkind : st.OfKind kind)
    (hlost : LosesConfig ok → kind id none)
    (hid : Normal id) (sha256 : String) (configJson : Json.Value)
    (hgood : ∀ rendered, crates.toVecPretty configJson = .ok rendered →
      kind id (some rendered)) :
    Local.Ensures outcomes ok (HoldsKind start runner.workDir W kind)
      (runner.applyDeployment crates id sha256 configJson)
      (fun r s' => Keeps crates start W runner st id configJson kind r s' ∧
        Applied crates ok start W runner outcomes st id configJson s.loaded
          r s') s := by
  have hconfig : Normal "config.json" := by decide
  unfold applyDeployment
  simp only [releaseDir_eq runner hid, tmpDir_eq runner hid, hconfig.join]
  have hstop : ∀ {e s'}, Faulty ok →
      HoldsKind start runner.workDir W kind s' →
      Keeps crates start W runner st id configJson kind (.error e) s' ∧
        Applied crates ok start W runner outcomes st id configJson s.loaded
          (.error e) s' :=
    fun hfaulty hholds => ⟨.of_error hholds, hholds.shape,
      fun hfaultless => absurd hfaulty hfaultless⟩
  obtain ⟨d₁, hstage, h₁⟩ := h.stage hwork hid
  have hinv₁ : HoldsKind start runner.workDir W kind { s with disk := d₁ } :=
    ⟨_, h₁, hkind⟩
  refine Local.Ensures.change_bind (d := d₁) ?_ hinv₁ ?_ ?_
  · exact hstage
  swap
  · intro s' hstops
    have hfaulty := hstops.faulty
    obtain ⟨t, fault, -, -, hpart⟩ := hstops
    have hholds : HoldsKind start runner.workDir W kind s' := by
      rw [hpart]
      exact ⟨st, h.stageUntil hwork id fault.progress, hkind⟩
    exact ⟨hholds, fun _ => hstop hfaulty hholds⟩
  cases hrender : crates.toVecPretty configJson with
  | error e =>
      refine ⟨.of_error hinv₁, hinv₁.shape, fun _ => ?_⟩
      rw [hrender]
      exact ⟨e, rfl⟩
  | ok rendered =>
      refine Local.Ensures.ofExcept_bind ?_
      obtain ⟨d₂, hwrite, h₂⟩ := h₁.writeStaged hwork hid (by simp) rendered
      have h₂ : Layout start runner.workDir W d₂ (st.prepare id rendered) :=
        h₂
      have hinv₂ : HoldsKind start runner.workDir W kind
          { s with disk := d₂ } :=
        ⟨_, h₂, hkind⟩
      refine Local.Ensures.change_bind (s := { s with disk := d₁ }) (d := d₂)
        ?_ hinv₂ ?_ ?_
      · exact hwrite
      swap
      · intro s' hstops
        have hfaulty := hstops.faulty
        obtain ⟨t, fault, -, -, hpart⟩ := hstops
        obtain ⟨st', hlayout, hreleases, -⟩ :=
          h₁.writeStagedUntil hwork hid (by simp) rendered fault.progress
        have hholds : HoldsKind start runner.workDir W kind s' := by
          rw [hpart]
          refine ⟨st', hlayout, ?_⟩
          unfold ReleaseStore.OfKind
          rw [hreleases]
          exact hkind
        exact ⟨hholds, fun _ => hstop hfaulty hholds⟩
      refine Local.Ensures.bind (Local.ensures_xrayTest hinv₂
        (Q := fun r s' => r = outcomes.test ∧ s' = { s with disk := d₂ })
        ⟨rfl, rfl⟩) ?_ ?_
      · rintro output s₂ ⟨houtput, rfl⟩
        exact ensures_tested (s := { s with disk := d₂ }) hwork h₂ hkind
          hlost (hgood rendered hrender) hid hrender houtput.symm sha256
      · rintro e s₂ ⟨he, rfl⟩
        refine ⟨.of_error hinv₂, hinv₂.shape, fun _ => ?_⟩
        rw [hrender, ← he]
        exact ⟨e, rfl⟩

/-- The target of a rollback is there, and becomes active; or it is missing. -/
def RolledBack
    (ok : Moment → Prop) (start : Disk) (W : Loc)
    (runner : LocalRunner) (st : ReleaseStore) (target : String)
    (loaded : Option Bytes)
    (r : Except String DeploymentResult) (s' : Host) : Prop :=
  Shape start runner.workDir W s' ∧ s'.loaded = loaded ∧
    (¬ Faulty ok → ∃ result, r = .ok result ∧
      if (st.releases target).isSome then
        result.status = .rolledBack ∧
          Layout start runner.workDir W s'.disk (st.switchTo target)
      else
        result.status = .failed ∧ Layout start runner.workDir W s'.disk st)

theorem ensures_rollbackDeployment
    (hwork : EmptyWorkDir start runner.workDir W)
    (h : Layout start runner.workDir W s.disk st) (hkind : st.OfKind kind)
    {target : String} (htarget : Normal target) (sha256 : String) :
    Local.Ensures outcomes ok (HoldsKind start runner.workDir W kind)
      (runner.rollbackDeployment id target sha256)
      (fun r s' => HoldsKind start runner.workDir W kind s' ∧
        (∀ result, r = .ok result → result.status = .failed ∨
          result.status = .rolledBack ∧
            (st.releases target).isSome = true ∧
            Layout start runner.workDir W s'.disk (st.switchTo target)) ∧
        RolledBack ok start W runner st target s.loaded r s') s := by
  have hinv : HoldsKind start runner.workDir W kind s := ⟨st, h, hkind⟩
  unfold rollbackDeployment
  simp only [releaseDir_eq runner htarget]
  refine Local.Ensures.bind (Local.ensures_symlinkMetadata hinv
    (Q := fun r s' => s' = s ∧ ∃ b, r = .ok b ∧
      Local.Answers ok (st.releases target).isSome b) ?_) ?_ ?_
  · rw [h.symlinkMetadata_release hwork htarget]
    exact fun b hb => ⟨rfl, b, rfl, hb⟩
  · rintro b s₁ ⟨rfl, b', hb, hanswer⟩
    obtain rfl := Except.ok.inj hb
    cases b with
    | false =>
        refine ensures_report hinv
          (fun now => ⟨hinv, ?_, hinv.shape, rfl, ?_⟩)
        · rintro result ⟨⟩
          exact .inl rfl
        · intro hfaultless
          refine ⟨_, rfl, ?_⟩
          rw [← hanswer.2 hfaultless]
          exact ⟨rfl, h⟩
    | true =>
        have hsome : (st.releases target).isSome = true := hanswer.1 rfl
        refine (ensures_switchActive hwork h hkind htarget).bind ?_ ?_
        · rintro - s₂ ⟨hholds, hloaded, hlayout⟩
          refine ensures_report hholds
            (fun now => ⟨hholds, ?_, hholds.shape, hloaded, ?_⟩)
          · rintro result ⟨⟩
            exact .inr ⟨rfl, hsome, hlayout⟩
          · intro _
            refine ⟨_, rfl, ?_⟩
            rw [if_pos hsome]
            exact ⟨rfl, hlayout⟩
        · rintro e s₂ ⟨hholds, hfaulty, hloaded, -⟩
          refine ⟨hholds, ?_, hholds.shape, hloaded,
            fun hfaultless => absurd hfaulty hfaultless⟩
          rintro result ⟨⟩
  · rintro e s₁ ⟨-, b, hb, -⟩
    cases hb

/-- Whatever is executed, and whatever faults occur, releases stay of a kind. -/
theorem ensures_execute_kind
    (crates : Crates) (hwork : EmptyWorkDir start runner.workDir W)
    (h : HoldsKind start runner.workDir W kind s)
    {command : RunnerCommandKind} (hplain : command.PlainIds)
    (hlost : LosesConfig ok → ∀ id, kind id none)
    (hgood : ∀ id sha256 configJson rollbackJson rendered,
      command = .applyDeploymentPlan id sha256 configJson rollbackJson →
      crates.toVecPretty configJson = .ok rendered → kind id (some rendered)) :
    Local.Ensures outcomes ok (HoldsKind start runner.workDir W kind)
      (runner.execute crates command)
      (fun _ s' => HoldsKind start runner.workDir W kind s') s := by
  obtain ⟨st, hlayout, hkind⟩ := h
  cases command with
  | applyDeploymentPlan id sha256 configJson rollbackJson =>
      exact (ensures_applyDeployment crates hwork hlayout hkind
        (fun hloses => hlost hloses id) hplain sha256 configJson
        (fun rendered hrender => hgood _ _ _ _ _ rfl hrender)).mono
          (fun _ _ hQ => hQ.1.holds)
  | rollbackDeployment id target sha256 =>
      exact (ensures_rollbackDeployment hwork hlayout hkind hplain sha256).mono
        (fun _ _ hQ => hQ.1)
  | _ => exact ⟨st, hlayout, hkind⟩

/-- Whatever is executed, and whatever faults occur, the shape is kept. -/
theorem ensures_execute
    (crates : Crates) (hwork : EmptyWorkDir start runner.workDir W)
    (h : Shape start runner.workDir W s)
    {command : RunnerCommandKind} (hplain : command.PlainIds) :
    Local.Ensures outcomes ok (Shape start runner.workDir W)
      (runner.execute crates command)
      (fun _ s' => Shape start runner.workDir W s') s := by
  obtain ⟨st, hlayout⟩ := h
  exact Program.Ensures.mono
    (ensures_execute_kind crates hwork ⟨st, hlayout, st.ofKind_any⟩ hplain
      (fun _ _ => trivial) (fun _ _ _ _ _ _ _ => trivial))
    (fun _ h => h.shape) (fun _ _ h => h.shape)

/-- Nothing but the staged configurations has changed. -/
def StagesOnly
    (start : Disk) (work : Path) (W : Loc) (st : ReleaseStore)
    (before : Tree) (s : Host) : Prop :=
  ∃ st', Layout start work W s.disk st' ∧ st'.releases = st.releases ∧
    st'.active = st.active ∧ Tree.Extends before s.disk.tree

/-- A deployment that fails the xray test stages its configuration only. -/
theorem ensures_untested
    {crates : Crates} (hwork : EmptyWorkDir start runner.workDir W)
    (h : Layout start runner.workDir W s.disk st) (hid : Normal id)
    {configJson : Json.Value}
    (htest : ∀ rendered, crates.toVecPretty configJson = .ok rendered →
      ¬ Succeeds outcomes.test)
    (sha256 : String) :
    Local.Ensures outcomes ok
      (StagesOnly start runner.workDir W st s.disk.tree)
      (runner.applyDeployment crates id sha256 configJson)
      (fun _ s' => StagesOnly start runner.workDir W st s.disk.tree s') s := by
  have hconfig : Normal "config.json" := by decide
  unfold applyDeployment
  simp only [releaseDir_eq runner hid, tmpDir_eq runner hid, hconfig.join]
  obtain ⟨d₁, hstage, h₁⟩ := h.stage hwork hid
  have hext₁ : Tree.Extends s.disk.tree d₁.tree :=
    Disk.extends_createDirAll hstage
  have hstaged₁ :
      StagesOnly start runner.workDir W st s.disk.tree
        { s with disk := d₁ } :=
    ⟨_, h₁, rfl, rfl, hext₁⟩
  refine Local.Ensures.change_bind (d := d₁) ?_ hstaged₁ ?_ ?_
  · exact hstage
  swap
  · rintro s' ⟨t, fault, -, -, hpart⟩
    have hstaged : StagesOnly start runner.workDir W st s.disk.tree s' := by
      rw [hpart]
      exact ⟨st, h.stageUntil hwork id fault.progress, rfl, rfl,
        Disk.extends_createDirAllUntil s.disk fault.progress _⟩
    exact ⟨hstaged, fun _ => hstaged⟩
  cases hrender : crates.toVecPretty configJson with
  | error e => exact hstaged₁
  | ok rendered =>
      refine Local.Ensures.ofExcept_bind ?_
      obtain ⟨d₂, hwrite, h₂⟩ := h₁.writeStaged hwork hid (by simp) rendered
      have hstaged₂ :
          StagesOnly start runner.workDir W st s.disk.tree
            { s with disk := d₂ } :=
        ⟨_, h₂, rfl, rfl, hext₁.trans (Disk.extends_write hwrite)⟩
      refine Local.Ensures.change_bind (s := { s with disk := d₁ }) (d := d₂)
        ?_ hstaged₂ ?_ ?_
      · exact hwrite
      swap
      · rintro s' ⟨t, fault, -, -, hpart⟩
        obtain ⟨st', hlayout, hreleases, hactive⟩ :=
          h₁.writeStagedUntil hwork hid (by simp) rendered fault.progress
        have hstaged : StagesOnly start runner.workDir W st s.disk.tree s' := by
          rw [hpart]
          exact ⟨st', hlayout, hreleases, hactive,
            hext₁.trans (Disk.extends_writeUntil d₁ fault.progress _ rendered)⟩
        exact ⟨hstaged, fun _ => hstaged⟩
      refine Local.Ensures.bind (Local.ensures_xrayTest hstaged₂
        (Q := fun r s' => r = outcomes.test ∧ s' = { s with disk := d₂ })
        ⟨rfl, rfl⟩) ?_ ?_
      · rintro output s' ⟨houtput, rfl⟩
        have hfails : ¬ output.success = true := by
          have hrejects := htest rendered hrender
          rw [← houtput] at hrejects
          exact hrejects
        rw [if_pos (by simpa using hfails)]
        refine (ensures_testFailed hstaged₂ sha256 output).mono ?_
        rintro r s' ⟨rfl, -⟩
        exact hstaged₂
      · rintro e s' ⟨-, rfl⟩
        exact hstaged₂

end LocalRunner

/-! ## Deliveries -/

/-- Verification touches the replay state only. -/
theorem LocalRunner.accept_setup
    (crates : Crates) (runner : LocalRunner)
    (envelope : SignedRunnerCommand) (now : DateTime) :
    ∃ lastSequence seenNonces,
      (runner.accept crates envelope now).2 =
        { runner with
          lastSequence := lastSequence, seenNonces := seenNonces } := by
  cases haccept : (runner.accept crates envelope now).1 with
  | ok command =>
      exact ⟨_, _, (accept_eq_ok crates haccept).2.2.2⟩
  | error error =>
      obtain ⟨seenNonces, -, hafter⟩ := accept_eq_error crates haccept
      exact ⟨_, _, hafter⟩

namespace RunnerState

variable {crates : Crates} {start : Disk} {W : Loc}
variable {s : RunnerState} {d : Delivery}

/-- What is ensured of the execution of a command holds of its delivery. -/
theorem deliver_ensures
    (ok : Moment → Prop)
    {command : RunnerCommand} (haccept : s.verdict crates d = .ok command)
    (hok : ∀ n, ok (d.moments n))
    {inv : Host → Prop} (hinv : inv s.host)
    {Q : Except String DeploymentResult → Host → Prop}
    (h : ∀ lastSequence seenNonces,
      Local.Ensures d.outcomes ok inv
        (LocalRunner.execute crates
          { s.runner with
            lastSequence := lastSequence, seenNonces := seenNonces }
          d.envelope.command.kind) Q s.host) :
    Q (s.deliver crates d).1 (s.deliver crates d).2.host ∧
      ∀ host ∈ s.visited crates d, inv host := by
  obtain rfl : command = d.envelope.command :=
    (LocalRunner.accept_eq_ok crates haccept).1
  obtain ⟨lastSequence, seenNonces, hrunner⟩ :=
    LocalRunner.accept_setup crates s.runner d.envelope d.clock
  obtain ⟨hpost, hvisits⟩ :=
    Program.Ensures.run (h lastSequence seenNonces) (fun n => hok (n + 1))
  rw [deliver_of_accepted crates haccept, visited_of_accepted crates haccept,
    hrunner]
  refine ⟨hpost, ?_⟩
  intro host hhost
  rcases List.mem_cons.mp hhost with rfl | hhost
  · exact hinv
  · exact hvisits host hhost

/--
A state that a runner reaches: by deliveries, with faults or without, and by a
start anew after a crash on the way.
-/
inductive Reachable (crates : Crates) (first : RunnerState) :
    RunnerState → Prop
  | first :
      Reachable crates first first
  | deliver {s : RunnerState} (h : Reachable crates first s)
      (d : Delivery) (hd : d.envelope.command.kind.PlainIds) :
      Reachable crates first (s.deliver crates d).2
  | restart {s : RunnerState} (h : Reachable crates first s)
      (d : Delivery) (hd : d.envelope.command.kind.PlainIds)
      (host : Host) (hhost : host ∈ s.visited crates d) :
      Reachable crates first ⟨first.runner, host⟩

/-- The shape of the work directory is kept by a delivery and on its way. -/
theorem deliver_shape
    (hwork : EmptyWorkDir start s.runner.workDir W)
    (h : Shape start s.runner.workDir W s.host)
    (hd : d.envelope.command.kind.PlainIds) :
    Shape start s.runner.workDir W (s.deliver crates d).2.host ∧
      ∀ host ∈ s.visited crates d, Shape start s.runner.workDir W host := by
  cases hverdict : s.verdict crates d with
  | error error =>
      rw [deliver_of_rejected crates hverdict,
        visited_of_rejected crates hverdict]
      refine ⟨h, ?_⟩
      intro host hhost
      rwa [List.mem_singleton.mp hhost]
  | ok command =>
      exact deliver_ensures (fun _ => True) hverdict (fun _ => trivial) h
        (fun _ _ => LocalRunner.ensures_execute crates hwork h hd)

/-- The setup of a runner is what it was started with. -/
structure SameSetup (runner first : LocalRunner) : Prop where
  workDir : runner.workDir = first.workDir
  reloadCommand : runner.reloadCommand = first.reloadCommand
  healthCommand : runner.healthCommand = first.healthCommand

theorem deliver_setup
    (crates : Crates) (d : Delivery)
    {first : LocalRunner} (h : SameSetup s.runner first) :
    SameSetup (s.deliver crates d).2.runner first := by
  obtain ⟨lastSequence, seenNonces, hrunner⟩ :=
    LocalRunner.accept_setup crates s.runner d.envelope d.clock
  rw [deliver_runner, hrunner]
  exact ⟨h.workDir, h.reloadCommand, h.healthCommand⟩

/-- In every reachable state the work directory holds a store. -/
theorem Reachable.holds
    {first : RunnerState}
    (hwork : EmptyWorkDir first.host.disk first.runner.workDir W)
    (h : Reachable crates first s) :
    SameSetup s.runner first.runner ∧
      Shape first.host.disk s.runner.workDir W s.host := by
  induction h with
  | first =>
      exact ⟨⟨rfl, rfl, rfl⟩, _, layout_start hwork⟩
  | @deliver s _ d hd ih =>
      obtain ⟨hsetup, hshape⟩ := ih
      have hsetup' := deliver_setup crates d hsetup
      rw [← hsetup.workDir] at hwork
      refine ⟨hsetup', ?_⟩
      rw [hsetup'.workDir, ← hsetup.workDir]
      exact (deliver_shape hwork hshape hd).1
  | @restart s _ d hd host hhost ih =>
      obtain ⟨hsetup, hshape⟩ := ih
      rw [← hsetup.workDir] at hwork
      refine ⟨⟨rfl, rfl, rfl⟩, ?_⟩
      show Shape first.host.disk first.runner.workDir W host
      rw [← hsetup.workDir]
      exact (deliver_shape hwork hshape hd).2 host hhost

/-- Only the core commands of a runner matter for how a deployment ends. -/
theorem ends_of_setup
    {runner : LocalRunner} {lastSequence : UInt64}
    {seenNonces : Finset String} {outcomes : Outcomes}
    {st st' : ReleaseStore} {id : String} {rendered : Bytes}
    {loaded loaded' : Option Bytes} {status : DeploymentStatus}
    (h : LocalRunner.Ends start W
      { runner with
        lastSequence := lastSequence, seenNonces := seenNonces }
      outcomes st id rendered loaded status st' loaded') :
    LocalRunner.Ends start W runner outcomes st id rendered loaded
      status st' loaded' := by
  cases h with
  | rejected htest => exact .rejected htest
  | reloadFailed htest hreload => exact .reloadFailed htest hreload
  | healthFailed htest hreload hhealth hreached =>
      exact .healthFailed htest hreload hhealth hreached
  | succeeded htest hreload hhealth hreached =>
      exact .succeeded htest hreload hhealth hreached

/-- How an accepted deployment ends without faults. -/
theorem deliver_apply
    {st : ReleaseStore} {id sha256 : String} {configJson : Json.Value}
    {rollbackJson : Option Json.Value}
    (hwork : EmptyWorkDir start s.runner.workDir W)
    (h : Layout start s.runner.workDir W s.host.disk st)
    (haccepts : s.accepts crates d = true)
    (hfaults : ∀ n, Faultless (d.moments n))
    (hkind : d.envelope.command.kind =
      .applyDeploymentPlan id sha256 configJson rollbackJson)
    (hid : Normal id) :
    match crates.toVecPretty configJson, d.outcomes.test with
    | .ok rendered, .ok _ => ∃ result st',
        (s.deliver crates d).1 = .ok result ∧
        Layout start s.runner.workDir W (s.deliver crates d).2.host.disk st' ∧
        LocalRunner.Ends start W s.runner d.outcomes st id rendered
          s.host.loaded result.status st' (s.deliver crates d).2.host.loaded
    | _, _ => ∃ e, (s.deliver crates d).1 = .error e := by
  obtain ⟨command, hverdict⟩ := (accepts_iff crates).mp haccepts
  have hinv : HoldsKind start s.runner.workDir W (fun _ _ => True) s.host :=
    ⟨st, h, st.ofKind_any⟩
  refine (deliver_ensures Faultless (Q := fun r s' =>
    match crates.toVecPretty configJson, d.outcomes.test with
    | .ok rendered, .ok _ => ∃ result st', r = .ok result ∧
        Layout start s.runner.workDir W s'.disk st' ∧
        LocalRunner.Ends start W s.runner d.outcomes st id rendered
          s.host.loaded result.status st' s'.loaded
    | _, _ => ∃ e, r = .error e) hverdict hfaults hinv ?_).1
  intro lastSequence seenNonces
  rw [hkind]
  refine (LocalRunner.ensures_applyDeployment crates hwork h st.ofKind_any
    (fun _ => trivial) hid sha256 configJson (fun _ _ => trivial)).mono ?_
  rintro r s' ⟨-, -, hends⟩
  have hends := hends not_faulty_faultless
  revert hends
  split
  · rintro ⟨result, st', hr, hlayout, hends⟩
    exact ⟨result, st', hr, hlayout, ends_of_setup hends⟩
  · exact fun herror => herror

/-- How an accepted rollback ends without faults. -/
theorem deliver_rollback
    {st : ReleaseStore} {id target sha256 : String}
    (hwork : EmptyWorkDir start s.runner.workDir W)
    (h : Layout start s.runner.workDir W s.host.disk st)
    (haccepts : s.accepts crates d = true)
    (hfaults : ∀ n, Faultless (d.moments n))
    (hkind : d.envelope.command.kind = .rollbackDeployment id target sha256)
    (htarget : Normal target) :
    (s.deliver crates d).2.host.loaded = s.host.loaded ∧
      ∃ result, (s.deliver crates d).1 = .ok result ∧
        if (st.releases target).isSome then
          result.status = .rolledBack ∧
            Layout start s.runner.workDir W (s.deliver crates d).2.host.disk
              (st.switchTo target)
        else
          result.status = .failed ∧
            Layout start s.runner.workDir W (s.deliver crates d).2.host.disk
              st := by
  obtain ⟨command, hverdict⟩ := (accepts_iff crates).mp haccepts
  have hinv : HoldsKind start s.runner.workDir W (fun _ _ => True) s.host :=
    ⟨st, h, st.ofKind_any⟩
  obtain ⟨-, hloaded, hends⟩ :=
    (deliver_ensures Faultless (Q := LocalRunner.RolledBack Faultless start W s.runner st
      target s.host.loaded) hverdict hfaults hinv (fun _ _ => by
        rw [hkind]
        exact (LocalRunner.ensures_rollbackDeployment hwork h st.ofKind_any
          htarget sha256).mono (fun _ _ hQ => hQ.2.2))).1
  exact ⟨hloaded, hends not_faulty_faultless⟩

/-! ### Concrete runs -/

/-- The empty work directory of the concrete runner. -/
theorem referenceState_empty :
    EmptyWorkDir referenceState.host.disk referenceState.runner.workDir
      ["w"] where
  dirAt := ⟨by decide, by decide⟩
  vacant l hl := by
    obtain ⟨hsuffix, hne⟩ := hl
    have hroot : l ≠ [] := by
      rintro rfl
      simp at hsuffix
    refine Tree.get_eq_none ?_
    simpa [referenceState, referenceHost] using ⟨hroot, hne⟩

theorem referenceState_leadsBack :
    LeadsBack referenceState.host.disk referenceState.runner.workDir ["w"] := by
  obtain ⟨k, hk, hleads⟩ := Tree.walk_eq_some.mp
    (show referenceState.host.disk.tree.walk 0 [] ["w"] = some ["w"] by decide)
  exact leadsBack_of_absolute rfl hleads (by omega)

/-- A command that passes verification, carried out. -/
def carryOut
    (s : RunnerState) (command : RunnerCommand) (outcomes : Outcomes) :
    Except String DeploymentResult × RunnerState :=
  let runner :=
    { s.runner with
      lastSequence := command.sequence
      seenNonces := insert command.nonce s.runner.seenNonces }
  let after := (runner.execute referenceCrates command.kind).run.run
    (Host.answer outcomes) (fun _ => ⟨⟨0, 0⟩, none⟩) s.host
  (after.1, ⟨runner, after.2⟩)

theorem deliver_reference
    {s : RunnerState} {command : RunnerCommand} {outcomes : Outcomes}
    (hkey : s.runner.controlPlaneKey =
      referenceCrates.verifyingKey referenceKey)
    (hfresh : ¬ s.runner.FailsEarly
      (referenceEnvelope referenceKey command) ⟨0, 0⟩) :
    s.deliver referenceCrates
        (referenceDelivery referenceKey command outcomes) =
      s.carryOut command outcomes := by
  have haccept :=
    @referenceDelivery_accepted s command outcomes hkey hfresh
  rw [deliver_of_accepted referenceCrates (congrArg Prod.fst haccept),
    haccept]
  rfl

/-- The deployment of a configuration that is no more than a tag. -/
def referenceApply
    (sequence : UInt64) (id tag : String) : RunnerCommand :=
  referenceCommand sequence
    (.applyDeploymentPlan id "sha" (.object [("tag", .string tag)]) none)

/-- The concrete runner with `dep-1` deployed. -/
def deployedOnce : RunnerState :=
  (deliver referenceCrates referenceState
    (referenceDelivery referenceKey (referenceApply 1 "dep-1" "first")
      ⟨exited true, exited true, exited true⟩)).2

theorem deployedOnce_reachable :
    Reachable referenceCrates referenceState deployedOnce :=
  .deliver .first _ (by decide)

theorem deployedOnce_eq :
    deployedOnce =
      (referenceState.carryOut (referenceApply 1 "dep-1" "first")
        ⟨exited true, exited true, exited true⟩).2 := by
  rw [deployedOnce, deliver_reference rfl (by decide)]

end RunnerState
end ProxyControl
