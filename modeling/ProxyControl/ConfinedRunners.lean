import ProxyControl.OpenNetwork

/-!
# Runners keep to their work directories

What a runner does to its file system is named by the deployment ids of the
commands that it carries out.  Over an open network these are commands that the
control plane has queued, whose ids are file names.  So neither the network nor
a crash makes a runner change anything outside its work directory.
-/

namespace ProxyControl

open Effects FileSystem

/-! ## Queued commands -/

section Queue

variable {crates : Crates} {app : AppState}
variable {s : Shared} {threads : List Serving}

/-- The ids of every command that was ever queued are file names. -/
theorem ServingRun.enqueues_plain
    (h : ServingRun crates app s threads) (huuids : (drawnUuids threads).Nodup) :
    ∀ f ∈ threads, ∀ e ∈ f.entries, ∀ nodeId envelope,
      Queues nodeId envelope e → envelope.command.kind.PlainIds := by
  induction h with
  | start =>
      intro f hf
      cases hf
  | @arrive s threads _ request ih =>
      have hdrawn : drawnUuids (threads ++
          [⟨request, [], (app.serve crates request).run⟩]) =
            drawnUuids threads := by
        simp [drawnUuids]
      intro f hf
      rcases List.mem_append.mp hf with hf | hf
      · exact ih (hdrawn ▸ huuids) f hf
      · obtain rfl := List.mem_singleton.mp hf
        intro e he
        cases he
  | @act s before after request entries op next hrun t ih =>
      have hperm := @drawnUuids_act before after request entries
        (.call op next) (next (app.answer crates op t s).1) ⟨op, t, s⟩
      have hbefore := List.Nodup.of_append_right (hperm.nodup_iff.mp huuids)
      refine (Session.forall_entries_act (P := fun _ e => ∀ nodeId envelope,
        Queues nodeId envelope e → envelope.command.kind.PlainIds)).mpr
          ⟨?_, ih hbefore⟩
      intro nodeId envelope hqueues
      obtain rfl : op = .store (.enqueueRunnerCommand nodeId envelope) := hqueues
      -- where it is queued, it is the last of its queue
      refine every_queued_command_plain (hrun.act t) huuids nodeId envelope ?_
      simp [AppState.answer, MemoryStore.exec, MemoryStore.enqueueRunnerCommand,
        MemoryStore.queueOf]

theorem Queued.plainIds
    (hrun : ServingRun crates app s threads) (huuids : (drawnUuids threads).Nodup)
    {nodeId : String} {envelope : SignedRunnerCommand}
    (h : Queued threads nodeId envelope) :
    envelope.command.kind.PlainIds := by
  obtain ⟨f, hf, e, he, hqueues⟩ := h
  exact hrun.enqueues_plain huuids f hf e he nodeId envelope hqueues

end Queue

theorem RunnerCommandKind.plainIds_withoutNull (kind : RunnerCommandKind) :
    kind.withoutNull.PlainIds ↔ kind.PlainIds := by
  cases kind with
  | applyDeploymentPlan deploymentId artifactSha256 configJson rollbackJson =>
      rcases rollbackJson with _ | value
      · rfl
      · cases value <;> rfl
  | _ => rfl

/-! ## Runners -/

/-- A rejected delivery may name anything: it changes nothing. -/
theorem RunnerState.deliver_shape_of_accepted
    {crates : Crates} {start : Disk} {W : Loc} {s : RunnerState} {d : Delivery}
    (hwork : EmptyWorkDir start s.runner.workDir W)
    (h : Shape start s.runner.workDir W s.host)
    (hplain : ∀ command, s.verdict crates d = .ok command →
      command.kind.PlainIds) :
    Shape start s.runner.workDir W (s.deliver crates d).2.host ∧
      ∀ host ∈ s.visited crates d, Shape start s.runner.workDir W host := by
  cases hverdict : s.verdict crates d with
  | error error =>
      rw [deliver_of_rejected crates hverdict,
        visited_of_rejected crates hverdict]
      refine ⟨h, ?_⟩
      intro host hhost
      rwa [List.mem_singleton.mp hhost]
  | ok command =>
      obtain ⟨hcommand, -⟩ := LocalRunner.accept_eq_ok crates hverdict
      exact deliver_shape hwork h (hcommand ▸ hplain command hverdict)

section Network

variable {crates : Crates} {app : AppState}
variable {doubleText : UInt64 → List Char} {first fleet : Fleet}
variable {s : Shared} {threads : List Serving}

/-- The ids of what a runner accepts are file names. -/
theorem NetworkRun.accepted_plain
    (hcrates : SerializesCompactly crates doubleText)
    (hfirst : first.Manned crates app)
    (h : NetworkRun crates app first s threads fleet)
    (hexpires : ∀ nodeId signed, Queued threads nodeId signed →
      signed.command.expiresAt.Representable)
    (huuids : (drawnUuids threads).Nodup)
    {nodeId : String} {d : Delivery} (hwritable : d.envelope.command.Writable)
    (hunforged : Unforged crates app threads d.envelope)
    {command : RunnerCommand}
    (hverdict : (fleet nodeId).state.verdict crates d = .ok command) :
    command.kind.PlainIds := by
  have hqueued := ((h.deliver nodeId d hwritable hunforged).executesQueued
    hcrates hfirst hexpires).2 nodeId
  simp only [Function.update_self, Station.deliver, Station.after, hverdict]
    at hqueued
  obtain ⟨signed, hsigned, hsame⟩ := hqueued _
    (List.mem_append_right _ (List.mem_singleton_self _))
  obtain ⟨-, -, -, -, -, hkind⟩ := hsame
  rw [← RunnerCommandKind.plainIds_withoutNull, ← hkind,
    RunnerCommandKind.plainIds_withoutNull]
  exact hsigned.plainIds h.servingRun huuids

/-- The station works where it has worked from the start, and holds a store. -/
def Station.KeepsTo (self first : Station) (W : Loc) : Prop :=
  self.state.runner.workDir = first.state.runner.workDir ∧
    Shape first.state.host.disk first.state.runner.workDir W self.state.host

theorem NetworkRun.keepsTo
    (hcrates : SerializesCompactly crates doubleText)
    (hfirst : first.Manned crates app) {W : String → Loc}
    (hwork : ∀ nodeId, EmptyWorkDir (first nodeId).state.host.disk
      (first nodeId).state.runner.workDir (W nodeId))
    (h : NetworkRun crates app first s threads fleet)
    (hexpires : ∀ nodeId signed, Queued threads nodeId signed →
      signed.command.expiresAt.Representable)
    (huuids : (drawnUuids threads).Nodup) :
    ∀ nodeId, (fleet nodeId).KeepsTo (first nodeId) (W nodeId) := by
  induction h with
  | start =>
      exact fun nodeId => ⟨rfl, _, layout_start (hwork nodeId)⟩
  | @arrive s threads fleet _ request ih =>
      have hdrawn : drawnUuids (threads ++
          [⟨request, [], (app.serve crates request).run⟩]) =
            drawnUuids threads := by
        simp [drawnUuids]
      exact ih (fun nodeId signed h => hexpires nodeId signed (h.arrive _))
        (hdrawn ▸ huuids)
  | @act s before after fleet request entries op next _ t ih =>
      have hperm := @drawnUuids_act before after request entries
        (.call op next) (next (app.answer crates op t s).1) ⟨op, t, s⟩
      exact ih (fun nodeId signed h => hexpires nodeId signed h.act)
        (List.Nodup.of_append_right (hperm.nodup_iff.mp huuids))
  | @deliver s threads fleet hrun nodeId d hwritable hunforged ih =>
      intro other
      rcases eq_or_ne other nodeId with rfl | hne
      swap
      · rw [Function.update_of_ne hne]
        exact ih hexpires huuids other
      obtain ⟨hdir, hshape⟩ := ih hexpires huuids other
      have hwork' := hwork other
      rw [← hdir] at hwork' hshape
      have hkept := (RunnerState.deliver_shape_of_accepted hwork' hshape
        fun _ hverdict => hrun.accepted_plain hcrates hfirst hexpires huuids
          hwritable hunforged hverdict).1
      have hsetup := RunnerState.deliver_setup crates d
        (s := (fleet other).state) ⟨rfl, rfl, rfl⟩
      rw [Function.update_self]
      refine ⟨hsetup.workDir.trans hdir, ?_⟩
      rw [← hdir]
      exact hkept
  | @crash s threads fleet hrun nodeId d hwritable hunforged host hhost ih =>
      intro other
      rcases eq_or_ne other nodeId with rfl | hne
      swap
      · rw [Function.update_of_ne hne]
        exact ih hexpires huuids other
      obtain ⟨hdir, hshape⟩ := ih hexpires huuids other
      have hwork' := hwork other
      rw [← hdir] at hwork' hshape
      have hkept := (RunnerState.deliver_shape_of_accepted hwork' hshape
        fun _ hverdict => hrun.accepted_plain hcrates hfirst hexpires huuids
          hwritable hunforged hverdict).2 host hhost
      rw [Function.update_self]
      refine ⟨hdir, ?_⟩
      rw [← hdir]
      exact hkept

/--
Whatever the network delivers, and wherever runners crash, nothing outside the
work directory of a runner changes; the links in it name releases, and `active`
is such a link whenever it is there.
-/
theorem runners_keep_to_work_dirs
    (hcrates : SerializesCompactly crates doubleText)
    (hfirst : first.Manned crates app) {W : String → Loc}
    (hwork : ∀ nodeId, EmptyWorkDir (first nodeId).state.host.disk
      (first nodeId).state.runner.workDir (W nodeId))
    (h : NetworkRun crates app first s threads fleet)
    (hexpires : ∀ nodeId signed, Queued threads nodeId signed →
      signed.command.expiresAt.Representable)
    (huuids : (drawnUuids threads).Nodup) (nodeId : String) :
    Tree.AgreeOutside (W nodeId) (first nodeId).state.host.disk.tree
        (fleet nodeId).state.host.disk.tree ∧
      LinksInPlace (fleet nodeId).state.host.disk
        (first nodeId).state.runner.workDir (W nodeId) ∧
      ∀ node, (fleet nodeId).state.host.disk.get ("active" :: W nodeId) =
          some node →
        ∃ id, Normal id ∧
          node = .link (releasePath (first nodeId).state.runner.workDir id) := by
  obtain ⟨-, st, hlayout⟩ :=
    h.keepsTo hcrates hfirst hwork hexpires huuids nodeId
  refine ⟨hlayout.outside, hlayout.links, ?_⟩
  intro node hnode
  rw [hlayout.active] at hnode
  obtain ⟨id, hactive, rfl⟩ := Option.map_eq_some_iff.mp hnode
  exact ⟨id, hlayout.normal id (.inr hactive), rfl⟩

end Network

/-- A runner that has deployed a release has changed its directory only. -/
theorem runners_keep_to_work_dirs_deployed :
    (deployedFleet "node").Reports networkResult ∧
      Tree.AgreeOutside ["w"] (freshFleet "node").state.host.disk.tree
        (deployedFleet "node").state.host.disk.tree := by
  have huuids : (drawnUuids compiledOnNetwork.2).Nodup := by
    decide +kernel
  obtain ⟨houtside, -⟩ := runners_keep_to_work_dirs networkCrates_serializes
    freshFleet_manned (W := fun _ => ["w"])
    (fun _ => RunnerState.referenceState_empty) deployedOnNetwork_run
    compiledOnNetwork_expires huuids "node"
  exact ⟨(deployedFleet_reports_iff _).mpr rfl, houtside⟩

end ProxyControl
