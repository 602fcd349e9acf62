import ProxyControl.ControlPlane.CommandDelivery
import ProxyControl.ControlPlane.SignedCommands
import ProxyControl.RecordedReleases

/-!
# Queued commands are executed

Requests of any kind and number are interleaved while a runner polls its node.
What the polls return reaches the runner over the wire, before it expires.

The runner then carries out every command that it has polled, in the order in
which they were polled, and passes the highest sequence with its next poll.  If
the commands were enqueued in the order of their sequences, the others are still
in the queue.
-/

namespace ProxyControl

open Effects
open MemoryStore (queueOf)

section Signatures

variable {crates : Crates} {app : AppState} {nodeId : String}
variable {envelope : SignedRunnerCommand}

/-- What the key signs is valid under its public key, in 64 bytes. -/
structure SignsAndVerifies (crates : Crates) (key : SigningKey) : Prop where
  length : ∀ message, (crates.sign key message).length = 64
  verify : ∀ message,
    crates.verify (crates.verifyingKey key) message (crates.sign key message) =
      true

theorem SignedFor.validlySigned
    (h : SignedFor crates app nodeId envelope)
    (hsigns : SignsAndVerifies crates app.signingKey) :
    envelope.ValidlySigned crates (crates.verifyingKey app.signingKey) := by
  obtain ⟨command, -, -, hsign⟩ := h
  unfold SignedRunnerCommand.sign at hsign
  cases hbytes : canonicalBytes crates (command.toJson crates) with
  | error e =>
      rw [hbytes] at hsign
      cases hsign
  | ok bytes =>
      rw [hbytes] at hsign
      obtain rfl := Except.ok.inj hsign
      simp only [SignedRunnerCommand.ValidlySigned, verifySignature,
        parseSignature, Hex.decode_encode, hsigns.length, if_true, hbytes]
      simp [bind, Except.bind, hsigns.verify]
      rfl

end Signatures

/-! ## What runners accept -/

namespace RunnerState

variable {crates : Crates}

theorem accepts_of_genuine
    {s : RunnerState} {d : Delivery} (hfresh : s.Fresh d)
    (hgenuine : Genuine crates s.runner.nodeId s.runner.controlPlaneKey d) :
    s.accepts crates d = true := by
  obtain ⟨hsequence, hnonce⟩ := hfresh
  obtain ⟨hnode, hclock, hsigned⟩ := hgenuine
  have hearly : ¬ s.runner.FailsEarly d.envelope d.clock := by
    rintro (h | h | h | h)
    · exact h hnode
    · exact not_le.mpr hclock h
    · exact UInt64.not_le.mpr hsequence h
    · exact hnonce h
  exact accepts_of_accept crates
    (LocalRunner.accept_of_validlySigned crates hearly hsigned)

/-- What an accepted delivery leaves behind. -/
theorem runner_of_accepts
    {s : RunnerState} {d : Delivery} (h : s.accepts crates d = true) :
    (s.deliver crates d).2.runner =
      { s.runner with
        lastSequence := d.envelope.command.sequence
        seenNonces :=
          insert d.envelope.command.nonce s.runner.seenNonces } := by
  obtain ⟨command, hverdict⟩ := (accepts_iff crates).mp h
  obtain ⟨-, -, -, hafter⟩ := LocalRunner.accept_eq_ok crates hverdict
  rw [deliver_runner, hafter]

/--
Genuine deliveries that are new and increasing are all accepted, and the highest
sequence is remembered.
-/
theorem accepted_eq_self
    {s : RunnerState} {ds : List Delivery}
    (hgenuine : ∀ d ∈ ds,
      Genuine crates s.runner.nodeId s.runner.controlPlaneKey d)
    (hfresh : ∀ d ∈ ds, s.Fresh d)
    (hpair : ds.Pairwise (fun d d' =>
      d.envelope.command.sequence < d'.envelope.command.sequence ∧
        d.envelope.command.nonce ≠ d'.envelope.command.nonce)) :
    s.accepted crates ds = ds ∧
      (s.deliverAll crates ds).runner.lastSequence.toNat =
        max s.runner.lastSequence.toNat
          (Mailbox.highest SignedRunnerCommand.sequenceNumber
            (ds.map (fun d => d.envelope))) := by
  induction ds generalizing s with
  | nil => exact ⟨rfl, (max_eq_left (Nat.zero_le _)).symm⟩
  | cons d ds ih =>
      rw [List.forall_mem_cons] at hgenuine hfresh
      obtain ⟨hfirst, hrest⟩ := List.pairwise_cons.mp hpair
      have haccepts := accepts_of_genuine hfresh.1 hgenuine.1
      have hrunner := runner_of_accepts haccepts
      obtain ⟨hall, hhighest⟩ := @ih (s.deliver crates d).2
        (by rw [hrunner]; exact hgenuine.2)
        (by
          intro d' hd'
          obtain ⟨hsequence, hnonce⟩ := hfirst d' hd'
          rw [Fresh, hrunner]
          refine ⟨hsequence, fun hmem => ?_⟩
          rcases Finset.mem_insert.mp hmem with heq | hseen
          · exact hnonce heq.symm
          · exact (hfresh.2 d' hd').2 hseen)
        hrest
      refine ⟨by rw [accepted, if_pos haccepts, hall], ?_⟩
      have hlt : s.runner.lastSequence.toNat <
          d.envelope.command.sequence.toNat :=
        UInt64.lt_iff_toNat_lt.mp hfresh.1.1
      have hrest : (s.deliverAll crates (d :: ds)).runner.lastSequence.toNat =
          max d.envelope.command.sequence.toNat
            (Mailbox.highest SignedRunnerCommand.sequenceNumber
              (ds.map (fun d => d.envelope))) := by
        rw [hrunner] at hhighest
        exact hhighest
      rw [hrest, Mailbox.highest, Mailbox.highest, List.map_cons, List.map_cons,
        List.foldr_cons, SignedRunnerCommand.sequenceNumber, ← max_assoc,
        max_eq_right hlt.le]

end RunnerState

/-! ## What polls return -/

section Polls

variable {crates : Crates} {app : AppState} {nodeId : String}
variable {requests : List Request}
variable {pool : Pool Call Call.Ret Unit Shared} {trace : Trace}

/-- Every command that a run enqueues is signed for its node. -/
theorem Run.enqueues_signed
    (h : Run crates app nodeId requests pool trace) :
    ∀ envelope ∈ enqueuedFor nodeId trace,
      SignedFor crates app nodeId envelope := by
  suffices hall : (∀ served ∈ trace, QueuesSigned crates app served.op) ∧
      ∀ thread ∈ pool.threads, thread.All (QueuesSigned crates app) by
    intro envelope henvelope
    obtain ⟨⟨op, result⟩, hserved, hby⟩ := List.mem_filterMap.mp henvelope
    have hsigned := hall.1 _ hserved
    unfold enqueuedBy at hby
    split at hby
    · rename_i node command _ heq
      cases heq
      split_ifs at hby with hnode
      obtain rfl := Option.some.inj hby
      exact hnode ▸ hsigned
    · cases hby
  induction h with
  | start =>
      refine ⟨fun served hserved => ?_, fun thread hthread => ?_⟩
      · cases hserved
      obtain ⟨request, -, rfl⟩ := List.mem_map.mp hthread
      exact Program.All.bind (AppState.serve_queuesSigned crates app request)
        fun _ => trivial
  | step _ hstep _ ih =>
      obtain ⟨hmade, hthreads⟩ := ih
      obtain ⟨hop, hthreads⟩ := hstep.all hthreads
      refine ⟨fun served hserved => ?_, hthreads⟩
      rcases List.mem_append.mp hserved with hserved | hserved
      · exact hmade served hserved
      · exact List.mem_singleton.mp hserved ▸ hop

/-- What is delivered has been enqueued, and its sequences increase. -/
theorem Run.delivered
    (h : Run crates app nodeId requests pool trace) :
    (deliveredTo nodeId trace).Sublist (enqueuedFor nodeId trace) ∧
      ((deliveredTo nodeId trace).map
        SignedRunnerCommand.sequenceNumber).Pairwise (· < ·) ∧
      (∀ envelope ∈ deliveredTo nodeId trace, 0 < envelope.sequenceNumber) ∧
      (EnqueuedInOrder nodeId trace →
        deliveredTo nodeId trace ++ queueOf nodeId pool.world.store =
          enqueuedFor nodeId trace) := by
  obtain ⟨events, hevents⟩ := h.mailbox
  have hqueue := congrArg Mailbox.State.queue hevents
  have hpushed := congrArg Mailbox.State.pushed hevents
  have hdelivered := congrArg Mailbox.State.delivered hevents
  simp only [mailboxOf] at hqueue hpushed hdelivered
  have hsublist :=
    Mailbox.sublist_pushed SignedRunnerCommand.sequenceNumber events
  have hincreasing :=
    Mailbox.delivered_increasing SignedRunnerCommand.sequenceNumber events
  have hpos :=
    Mailbox.bot_lt_of_delivered SignedRunnerCommand.sequenceNumber events
  rw [hdelivered, hqueue, hpushed] at hsublist
  rw [hdelivered] at hincreasing hpos
  refine ⟨(List.sublist_append_left _ _).trans hsublist, hincreasing, hpos,
    fun horder => ?_⟩
  have hall := Mailbox.delivered_append_queue
    SignedRunnerCommand.sequenceNumber events (hpushed ▸ horder)
  rwa [hdelivered, hqueue, hpushed] at hall

end Polls

/-- What was read in time, one for one. -/
theorem received_in_time
    {envelopes : List SignedRunnerCommand} {ds : List Delivery}
    (h : List.Forall₂
      (fun envelope d => some envelope = some d.envelope ∧
        d.clock < envelope.command.expiresAt) envelopes ds) :
    ds.map (fun d => d.envelope) = envelopes ∧
      ∀ d ∈ ds, d.clock < d.envelope.command.expiresAt := by
  induction h with
  | nil => exact ⟨rfl, fun d hd => by cases hd⟩
  | cons hd _ ih =>
      obtain ⟨heq, hclock⟩ := hd
      obtain rfl := Option.some.inj heq
      obtain ⟨henvelopes, hclocks⟩ := ih
      exact ⟨by rw [List.map_cons, henvelopes],
        List.forall_mem_cons.mpr ⟨hclock, hclocks⟩⟩

/--
A runner that starts afresh carries out all that it polls before it expires, and
then passes the highest sequence of them; nothing is lost if the commands were
enqueued in the order of their sequences.
-/
theorem polled_commands_are_executed
    {crates : Crates} {app : AppState} {nodeId : String}
    {requests : List Request}
    {pool : Pool Call Call.Ret Unit Shared} {trace : Trace}
    {instant : String → Option Calendar.DateTime}
    {carrier : Json.Value → Json.Value} {first : RunnerState}
    (hsigns : SignsAndVerifies crates app.signingKey)
    (hinstant : ReadsInstants crates instant) (hcarrier : Json.Carries carrier)
    (h : Run crates app nodeId requests pool trace)
    (hexpires : ∀ envelope ∈ enqueuedFor nodeId trace,
      envelope.command.expiresAt.Representable)
    (hnonces : ((enqueuedFor nodeId trace).map
      (fun envelope => envelope.command.nonce)).Nodup)
    (hnode : first.runner.nodeId = nodeId)
    (hkey : first.runner.controlPlaneKey = crates.verifyingKey app.signingKey)
    (hstart : first.runner.lastSequence = 0 ∧ first.runner.seenNonces = ∅)
    {ds : List Delivery}
    (hds : List.Forall₂
      (fun envelope d =>
        SignedRunnerCommand.ofJson instant (carrier (envelope.toJson crates)) =
          some d.envelope ∧
        d.clock < envelope.command.expiresAt)
      (deliveredTo nodeId trace) ds) :
    first.accepted crates ds = ds ∧
      ds.map (fun d => d.envelope) = deliveredTo nodeId trace ∧
      (first.deliverAll crates ds).runner.lastSequence.toNat =
        Mailbox.highest SignedRunnerCommand.sequenceNumber
          (deliveredTo nodeId trace) ∧
      (EnqueuedInOrder nodeId trace →
        ds.map (fun d => d.envelope) ++ queueOf nodeId pool.world.store =
          enqueuedFor nodeId trace) := by
  obtain ⟨hsublist, hincreasing, hpos, horder⟩ := h.delivered
  have hsigned : ∀ envelope ∈ deliveredTo nodeId trace,
      SignedFor crates app nodeId envelope ∧
        envelope.command.expiresAt.Representable :=
    fun envelope henvelope =>
      ⟨h.enqueues_signed envelope (hsublist.subset henvelope),
        hexpires envelope (hsublist.subset henvelope)⟩
  -- the wire does not change what was polled
  obtain ⟨henvelopes, hclocks⟩ := received_in_time
    (((List.forall₂_and_left _ _).mpr ⟨hsigned, hds⟩).imp
      fun envelope d hd => by
        obtain ⟨⟨hsigned, hexpires⟩, hjson, hclock⟩ := hd
        rw [hsigned.ofJson_carried hinstant hcarrier hexpires] at hjson
        exact ⟨hjson, hclock⟩)
  have hgenuine : ∀ d ∈ ds, RunnerState.Genuine crates first.runner.nodeId
      first.runner.controlPlaneKey d := by
    intro d hd
    have hmem : d.envelope ∈ deliveredTo nodeId trace :=
      henvelopes ▸ List.mem_map_of_mem hd
    obtain ⟨hsigned, -⟩ := hsigned _ hmem
    rw [hnode, hkey]
    exact ⟨hsigned.nodeId, hclocks d hd, hsigned.validlySigned hsigns⟩
  have hfresh : ∀ d ∈ ds, first.Fresh d := by
    intro d hd
    have hmem : d.envelope ∈ deliveredTo nodeId trace :=
      henvelopes ▸ List.mem_map_of_mem hd
    rw [RunnerState.Fresh, hstart.1, hstart.2]
    exact ⟨UInt64.lt_iff_toNat_lt.mpr (hpos _ hmem), Finset.notMem_empty _⟩
  have hpair : ds.Pairwise (fun d d' =>
      d.envelope.command.sequence < d'.envelope.command.sequence ∧
        d.envelope.command.nonce ≠ d'.envelope.command.nonce) := by
    have hdistinct := hnonces.sublist (hsublist.map _)
    rw [← henvelopes, List.map_map, List.pairwise_map] at hincreasing
    rw [← henvelopes, List.map_map, List.Nodup, List.pairwise_map] at hdistinct
    refine (hincreasing.and hdistinct).imp fun hboth => ?_
    exact ⟨UInt64.lt_iff_toNat_lt.mpr hboth.1, hboth.2⟩
  obtain ⟨haccepted, hhighest⟩ :=
    RunnerState.accepted_eq_self hgenuine hfresh hpair
  rw [henvelopes, hstart.1] at hhighest
  refine ⟨haccepted, henvelopes, ?_, ?_⟩
  · rw [hhighest]
    exact max_eq_right (Nat.zero_le _)
  · rw [henvelopes]
    exact horder

/-! ### Two deployments -/

/-- A node and a profile, two compilations for them, and two polls. -/
def twoDeployments : List Request :=
  [ registration "dev-registration-token" "node" 1,
    .createVlessRealityProfile "profile" "example.com",
    .compileDeployment [] ⟨"profile", "node"⟩,
    .compileDeployment [] ⟨"profile", "node"⟩,
    .nextRunnerCommand "node" none runnerHeaders,
    .nextRunnerCommand "node" (some 1) runnerHeaders ]

/-- The requests are served one after the other. -/
def twoDeploymentsRun : Option (Pool Call Call.Ret Unit Shared × Trace) :=
  runSchedule compactCrates referenceApp "node"
    ((List.replicate 4 0 ++ List.replicate 2 1 ++ List.replicate 15 2 ++
      List.replicate 15 3 ++ [4, 5]).zipIdx.map
        (fun next : ℕ × ℕ => (next.1, referenceEnv 1700000000 "id" next.2)))
    (⟨.new, twoDeployments.map (referenceApp.thread compactCrates)⟩, [])

/-- Sequence, nonce and expiry of a command. -/
def commandStamp (envelope : SignedRunnerCommand) :
    ℕ × String × Calendar.DateTime :=
  (envelope.sequenceNumber, envelope.command.nonce, envelope.command.expiresAt)

theorem twoDeploymentsRun_stamps :
    twoDeploymentsRun.map (fun w =>
      ((enqueuedFor "node" w.2).map commandStamp,
        (deliveredTo "node" w.2).map commandStamp)) =
      some
        ([(1, "id17-0", ⟨1700000076, 0⟩), (2, "id32-0", ⟨1700000091, 0⟩)],
          [(1, "id17-0", ⟨1700000076, 0⟩), (2, "id32-0", ⟨1700000091, 0⟩)]) := by
  decide +kernel

theorem compactCrates_signsAndVerifies
    {key : SigningKey} (hkey : key.seed.length = 32) :
    SignsAndVerifies compactCrates key := by
  obtain ⟨seed⟩ := key
  constructor
  · intro message
    change (Reference.signature _ message).length = 64
    rw [Reference.signature, List.length_append, hkey, Reference.digest,
      Reference.lowBytes_length]
  · intro message
    simp [compactCrates, referenceCrates, Reference.signature,
      Reference.publicKey]

theorem polled_commands_are_executed_twice :
    ∃ (pool : Pool Call Call.Ret Unit Shared) (trace : Trace)
      (ds : List Delivery),
      Run compactCrates referenceApp "node" twoDeployments pool trace ∧
      ds.map (fun d => commandStamp d.envelope) =
        [(1, "id17-0", ⟨1700000076, 0⟩), (2, "id32-0", ⟨1700000091, 0⟩)] ∧
      freshRunner.accepted compactCrates ds = ds := by
  obtain ⟨⟨pool, trace⟩, hrun, hstamps⟩ :=
    Option.map_eq_some_iff.mp twoDeploymentsRun_stamps
  obtain ⟨henqueued, hdelivered⟩ := Prod.mk.inj hstamps
  have hrun : Run compactCrates referenceApp "node" twoDeployments pool trace :=
    Run.start.schedule _ hrun
  have hexpiry : ∀ envelope ∈ enqueuedFor "node" trace,
      envelope.command.expiresAt.Representable ∧
        (⟨1700000000, 0⟩ : Calendar.DateTime) < envelope.command.expiresAt := by
    intro envelope henvelope
    have hmem := henqueued ▸ List.mem_map_of_mem (f := commandStamp) henvelope
    simp only [List.mem_cons, List.not_mem_nil, or_false, commandStamp,
      Prod.mk.injEq] at hmem
    rcases hmem with ⟨-, -, hexpires⟩ | ⟨-, -, hexpires⟩
    · rw [hexpires]
      decide
    · rw [hexpires]
      decide
  have hnonces : ((enqueuedFor "node" trace).map
      (fun envelope => envelope.command.nonce)).Nodup := by
    have hmap : (enqueuedFor "node" trace).map
        (fun envelope => envelope.command.nonce) =
        ((enqueuedFor "node" trace).map commandStamp).map
          (fun stamp => stamp.2.1) := by
      rw [List.map_map]
      rfl
    rw [hmap, henqueued]
    decide
  have hinstant := compactCrates_serializes.readsInstants
  refine ⟨pool, trace, (deliveredTo "node" trace).map (fun envelope =>
    ⟨envelope, ⟨exited true, exited true, exited true⟩,
      fun _ => ⟨⟨1700000000, 0⟩, none⟩⟩), hrun, ?_, ?_⟩
  · rw [List.map_map, ← hdelivered]
    rfl
  · refine (polled_commands_are_executed
      (compactCrates_signsAndVerifies (by decide)) hinstant Json.carries_id hrun
      (fun envelope henvelope => (hexpiry envelope henvelope).1) hnonces rfl rfl
      ⟨rfl, rfl⟩ ?_).1
    rw [List.forall₂_map_right_iff, List.forall₂_same]
    intro envelope henvelope
    have hmem := hrun.delivered.1.subset henvelope
    refine ⟨?_, (hexpiry envelope hmem).2⟩
    exact (hrun.enqueues_signed envelope hmem).ofJson_carried hinstant
      Json.carries_id (hexpiry envelope hmem).1

end ProxyControl
