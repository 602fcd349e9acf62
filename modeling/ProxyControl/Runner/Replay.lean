import ProxyControl.ReferenceCrates
import ProxyControl.Runner.LocalRunner

/-!
# Replay protection of the runner

The runner remembers the last sequence it has accepted and the nonces it has
seen.  Over any life of a runner the accepted commands have increasing
sequences and distinct nonces, so no envelope is accepted twice.

A rejection should leave this memory alone.  It does when the envelope fails a
check that comes before the nonce is recorded; the signature is checked after
that, so a forged envelope uses up its nonce, and the genuine command with that
nonce is then refused.
-/

namespace ProxyControl

open Calendar Effects FileSystem

/-- The signature of the envelope is valid under the key. -/
def SignedRunnerCommand.ValidlySigned
    (crates : Crates)
    (self : SignedRunnerCommand) (verifyingKey : VerifyingKey) : Prop :=
  verifySignature crates verifyingKey self.signatureHex
    (self.command.toJson crates) = .ok ()

/-- The envelope fails a check that comes before the nonce is recorded. -/
def LocalRunner.FailsEarly
    (self : LocalRunner) (envelope : SignedRunnerCommand)
    (now : DateTime) : Prop :=
  envelope.command.nodeId ≠ self.nodeId ∨
    envelope.command.expiresAt ≤ now ∨
    envelope.command.sequence ≤ self.lastSequence ∨
    envelope.command.nonce ∈ self.seenNonces

instance
    (runner : LocalRunner) (envelope : SignedRunnerCommand)
    (now : DateTime) : Decidable (runner.FailsEarly envelope now) :=
  inferInstanceAs (Decidable (_ ∨ _ ∨ _ ∨ _))

namespace LocalRunner

variable (crates : Crates)

/-- An envelope that fails early is rejected without a trace. -/
theorem accept_of_failsEarly
    {runner : LocalRunner} {envelope : SignedRunnerCommand} {now : DateTime}
    (h : runner.FailsEarly envelope now) :
    ∃ error, runner.accept crates envelope now = (.error error, runner) := by
  unfold accept SignedRunnerCommand.verify
  by_cases hnode : envelope.command.nodeId ≠ runner.nodeId
  · exact ⟨.nodeScope, by simp only [if_pos hnode]⟩
  by_cases hexpired : envelope.command.expiresAt ≤ now
  · exact ⟨.commandExpired, by simp only [if_neg hnode, if_pos hexpired]⟩
  by_cases hsequence : envelope.command.sequence ≤ runner.lastSequence
  · refine ⟨.sequence, ?_⟩
    simp only [if_neg hnode, if_neg hexpired, if_pos hsequence]
  by_cases hnonce : envelope.command.nonce ∈ runner.seenNonces
  · refine ⟨.nonceReplay, ?_⟩
    simp only [if_neg hnode, if_neg hexpired, if_neg hsequence, if_pos hnonce]
  · rcases h with h | h | h | h
    · exact absurd h hnode
    · exact absurd h hexpired
    · exact absurd h hsequence
    · exact absurd h hnonce

/-- Past the early checks the nonce is recorded, and the signature decides. -/
theorem accept_of_not_failsEarly
    {runner : LocalRunner} {envelope : SignedRunnerCommand} {now : DateTime}
    (h : ¬ runner.FailsEarly envelope now) :
    runner.accept crates envelope now =
      match verifySignature crates runner.controlPlaneKey
          envelope.signatureHex (envelope.command.toJson crates) with
      | .ok () =>
          (.ok envelope.command,
            { runner with
              lastSequence := envelope.command.sequence
              seenNonces := insert envelope.command.nonce runner.seenNonces })
      | .error error =>
          (.error error,
            { runner with
              seenNonces :=
                insert envelope.command.nonce runner.seenNonces }) := by
  obtain ⟨hnode, hexpired, hsequence, hnonce⟩ :
      ¬ envelope.command.nodeId ≠ runner.nodeId ∧
        ¬ envelope.command.expiresAt ≤ now ∧
        ¬ envelope.command.sequence ≤ runner.lastSequence ∧
        envelope.command.nonce ∉ runner.seenNonces := by
    simpa only [FailsEarly, not_or] using h
  unfold accept SignedRunnerCommand.verify
  simp only [if_neg hnode, if_neg hexpired, if_neg hsequence, if_neg hnonce]
  cases verifySignature crates runner.controlPlaneKey
    envelope.signatureHex (envelope.command.toJson crates) <;> rfl

/-- A fresh envelope with a valid signature is accepted. -/
theorem accept_of_validlySigned
    {runner : LocalRunner} {envelope : SignedRunnerCommand} {now : DateTime}
    (hearly : ¬ runner.FailsEarly envelope now)
    (hsigned : envelope.ValidlySigned crates runner.controlPlaneKey) :
    runner.accept crates envelope now =
      (.ok envelope.command,
        { runner with
          lastSequence := envelope.command.sequence
          seenNonces :=
            insert envelope.command.nonce runner.seenNonces }) := by
  rw [accept_of_not_failsEarly crates hearly, hsigned]

/-- A fresh envelope with a bad signature is rejected; its nonce stays. -/
theorem accept_of_badSignature
    {runner : LocalRunner} {envelope : SignedRunnerCommand} {now : DateTime}
    (hearly : ¬ runner.FailsEarly envelope now)
    (hsigned : ¬ envelope.ValidlySigned crates runner.controlPlaneKey) :
    ∃ error, runner.accept crates envelope now =
      (.error error,
        { runner with
          seenNonces :=
            insert envelope.command.nonce runner.seenNonces }) := by
  rw [accept_of_not_failsEarly crates hearly]
  cases hverify : verifySignature crates runner.controlPlaneKey
      envelope.signatureHex (envelope.command.toJson crates) with
  | ok => exact absurd hverify hsigned
  | error error => exact ⟨error, rfl⟩

/-- What acceptance says about the envelope, and does to the runner. -/
theorem accept_eq_ok
    {runner : LocalRunner} {envelope : SignedRunnerCommand} {now : DateTime}
    {command : RunnerCommand}
    (h : (runner.accept crates envelope now).1 = .ok command) :
    command = envelope.command ∧
      ¬ runner.FailsEarly envelope now ∧
      envelope.ValidlySigned crates runner.controlPlaneKey ∧
      (runner.accept crates envelope now).2 =
        { runner with
          lastSequence := envelope.command.sequence
          seenNonces :=
            insert envelope.command.nonce runner.seenNonces } := by
  by_cases hearly : runner.FailsEarly envelope now
  · obtain ⟨error, haccept⟩ := accept_of_failsEarly crates hearly
    rw [haccept] at h
    cases h
  by_cases hsigned : envelope.ValidlySigned crates runner.controlPlaneKey
  · rw [accept_of_validlySigned crates hearly hsigned] at h ⊢
    exact ⟨(Except.ok.inj h).symm, hearly, hsigned, rfl⟩
  · obtain ⟨error, haccept⟩ := accept_of_badSignature crates hearly hsigned
    rw [haccept] at h
    cases h

/-- A rejection changes no more than the set of nonces. -/
theorem accept_eq_error
    {runner : LocalRunner} {envelope : SignedRunnerCommand} {now : DateTime}
    {error : DomainError}
    (h : (runner.accept crates envelope now).1 = .error error) :
    ∃ seenNonces, runner.seenNonces ⊆ seenNonces ∧
      (runner.accept crates envelope now).2 =
        { runner with seenNonces := seenNonces } := by
  by_cases hearly : runner.FailsEarly envelope now
  · obtain ⟨error, haccept⟩ := accept_of_failsEarly crates hearly
    exact ⟨runner.seenNonces, subset_rfl, by rw [haccept]⟩
  by_cases hsigned : envelope.ValidlySigned crates runner.controlPlaneKey
  · rw [accept_of_validlySigned crates hearly hsigned] at h
    cases h
  · obtain ⟨error, haccept⟩ := accept_of_badSignature crates hearly hsigned
    exact ⟨_, Finset.subset_insert _ _, by rw [haccept]⟩

end LocalRunner

namespace RunnerState

variable (crates : Crates)

def accepts (self : RunnerState) (d : Delivery) : Bool :=
  (self.verdict crates d).isOk

/-- The deliveries of a run whose envelopes are accepted. -/
def accepted : RunnerState → List Delivery → List Delivery
  | _, [] => []
  | s, d :: ds =>
      if s.accepts crates d then
        d :: accepted (s.deliver crates d).2 ds
      else
        accepted (s.deliver crates d).2 ds

theorem accepts_iff
    {s : RunnerState} {d : Delivery} :
    s.accepts crates d = true ↔
      ∃ command, s.verdict crates d = .ok command := by
  unfold accepts
  cases s.verdict crates d <;> simp [Except.isOk, Except.toBool]

theorem not_accepts_iff
    {s : RunnerState} {d : Delivery} :
    ¬ s.accepts crates d = true ↔
      ∃ error, s.verdict crates d = .error error := by
  unfold accepts
  cases s.verdict crates d <;> simp [Except.isOk, Except.toBool]

theorem accepts_of_accept
    {s : RunnerState} {d : Delivery} {command : RunnerCommand}
    {runner : LocalRunner}
    (h : s.runner.accept crates d.envelope d.clock = (.ok command, runner)) :
    s.accepts crates d = true := by
  rw [accepts, verdict, h]
  rfl

theorem not_accepts_of_accept
    {s : RunnerState} {d : Delivery} {error : DomainError}
    {runner : LocalRunner}
    (h : s.runner.accept crates d.envelope d.clock =
      (.error error, runner)) :
    ¬ s.accepts crates d = true := by
  rw [accepts, verdict, h]
  exact Bool.false_ne_true

/-! ## No envelope is accepted twice -/

/-- The sequence and nonce of a delivery are new to the runner. -/
def Fresh (s : RunnerState) (d : Delivery) : Prop :=
  s.runner.lastSequence < d.envelope.command.sequence ∧
    d.envelope.command.nonce ∉ s.runner.seenNonces

/-- The envelope is for the node, in time and signed by the control plane. -/
def Genuine
    (nodeId : String) (controlPlaneKey : VerifyingKey) (d : Delivery) :
    Prop :=
  d.envelope.command.nodeId = nodeId ∧
    d.clock < d.envelope.command.expiresAt ∧
    d.envelope.ValidlySigned crates controlPlaneKey

theorem accepts_fresh
    {s : RunnerState} {d : Delivery} (h : s.accepts crates d = true) :
    s.Fresh d ∧
      Genuine crates s.runner.nodeId s.runner.controlPlaneKey d := by
  obtain ⟨command, hverdict⟩ := (accepts_iff crates).mp h
  obtain ⟨-, hearly, hsigned, -⟩ :=
    LocalRunner.accept_eq_ok crates hverdict
  simp only [LocalRunner.FailsEarly, not_or, ne_eq, not_not, not_le] at hearly
  obtain ⟨hnode, hexpired, hsequence, hnonce⟩ := hearly
  exact ⟨⟨UInt64.not_le.mp hsequence, hnonce⟩, hnode, hexpired, hsigned⟩

/-- The runner never forgets a nonce, and its last sequence never falls. -/
theorem deliver_remembers
    (s : RunnerState) (d : Delivery) :
    let s' := (s.deliver crates d).2
    s'.runner.nodeId = s.runner.nodeId ∧
      s'.runner.controlPlaneKey = s.runner.controlPlaneKey ∧
      s.runner.lastSequence ≤ s'.runner.lastSequence ∧
      s.runner.seenNonces ⊆ s'.runner.seenNonces ∧
      (s.accepts crates d = true →
        s'.runner.lastSequence = d.envelope.command.sequence ∧
          d.envelope.command.nonce ∈ s'.runner.seenNonces) := by
  intro s'
  have hrunner : s'.runner = _ := deliver_runner crates s d
  by_cases haccepts : s.accepts crates d = true
  · obtain ⟨⟨hsequence, -⟩, -⟩ := accepts_fresh crates haccepts
    obtain ⟨command, hverdict⟩ := (accepts_iff crates).mp haccepts
    obtain ⟨-, -, -, hafter⟩ := LocalRunner.accept_eq_ok crates hverdict
    rw [hrunner, hafter]
    exact ⟨rfl, rfl, UInt64.le_of_lt hsequence, Finset.subset_insert _ _,
      fun _ => ⟨rfl, Finset.mem_insert_self _ _⟩⟩
  · obtain ⟨error, hverdict⟩ := (not_accepts_iff crates).mp haccepts
    obtain ⟨seenNonces, hsubset, hafter⟩ :=
      LocalRunner.accept_eq_error crates hverdict
    rw [hrunner, hafter]
    exact ⟨rfl, rfl, UInt64.le_refl _, hsubset, fun h => absurd h haccepts⟩

/-- Whatever a run accepts is new to the runner it starts from. -/
theorem accepted_fresh
    {ds : List Delivery} {s : RunnerState} {d : Delivery}
    (h : d ∈ s.accepted crates ds) :
    s.Fresh d ∧
      Genuine crates s.runner.nodeId s.runner.controlPlaneKey d := by
  induction ds generalizing s with
  | nil =>
      cases h
  | cons e ds ih =>
      have hlater :
          d ∈ accepted crates (s.deliver crates e).2 ds →
            s.Fresh d ∧
              Genuine crates s.runner.nodeId s.runner.controlPlaneKey d := by
        intro hmem
        obtain ⟨hnode, hkey, hsequence, hseen, -⟩ :=
          deliver_remembers crates s e
        obtain ⟨⟨hlast, hnonce⟩, hgenuine⟩ := ih hmem
        rw [hnode, hkey] at hgenuine
        exact ⟨⟨UInt64.lt_of_le_of_lt hsequence hlast,
          fun hs => hnonce (hseen hs)⟩, hgenuine⟩
      rw [accepted] at h
      split at h
      · rename_i haccepts
        rcases List.mem_cons.mp h with rfl | hmem
        · exact accepts_fresh crates haccepts
        · exact hlater hmem
      · exact hlater h

/-- A later acceptance has a larger sequence and another nonce. -/
theorem accepted_pairwise
    (s : RunnerState) (ds : List Delivery) :
    (s.accepted crates ds).Pairwise (fun d d' =>
      d.envelope.command.sequence < d'.envelope.command.sequence ∧
        d.envelope.command.nonce ≠ d'.envelope.command.nonce) := by
  induction ds generalizing s with
  | nil =>
      exact List.Pairwise.nil
  | cons e ds ih =>
      rw [accepted]
      split
      · rename_i haccepts
        refine List.pairwise_cons.mpr ⟨?_, ih _⟩
        intro d hd
        obtain ⟨-, -, -, -, hmemory⟩ := deliver_remembers crates s e
        obtain ⟨hsequence, hnonce⟩ := hmemory haccepts
        obtain ⟨⟨hlast, hfresh⟩, -⟩ := accepted_fresh crates hd
        refine ⟨hsequence ▸ hlast, ?_⟩
        intro heq
        exact hfresh (heq ▸ hnonce)
      · exact ih _

/--
Over the whole life of a runner, whatever it is sent, whenever, and however its
commands end.
-/
theorem no_envelope_accepted_twice
    (nodeId : String) (workDir xrayBin : Path)
    (controlPlaneKey : VerifyingKey)
    (reloadCommand healthCommand : Option Path)
    (host : Host) (ds : List Delivery) :
    let runner := LocalRunner.configured nodeId workDir xrayBin
      controlPlaneKey reloadCommand healthCommand
    let history := accepted crates ⟨runner, host⟩ ds
    history.Pairwise (fun d d' =>
        d.envelope.command.sequence < d'.envelope.command.sequence) ∧
      (history.map (fun d => d.envelope.command.nonce)).Nodup ∧
      (∀ d ∈ history, Genuine crates nodeId controlPlaneKey d) ∧
      (history.map Delivery.envelope).Nodup := by
  intro runner history
  have hpairwise := accepted_pairwise crates ⟨runner, host⟩ ds
  refine ⟨hpairwise.imp And.left, ?_, ?_, ?_⟩
  · exact List.pairwise_map.mpr (hpairwise.imp And.right)
  · intro d hd
    have hgenuine := (accepted_fresh crates hd).2
    have hrunner :
        runner.nodeId = nodeId ∧
          runner.controlPlaneKey = controlPlaneKey := by
      cases reloadCommand <;> cases healthCommand <;> exact ⟨rfl, rfl⟩
    rwa [hrunner.1, hrunner.2] at hgenuine
  · refine List.pairwise_map.mpr (hpairwise.imp ?_)
    rintro d d' ⟨-, hnonce⟩ heq
    exact hnonce (by rw [heq])

/-! ## Rejections -/

/-- If the envelope is rejected, the memory of the runner stays as it was. -/
def RejectionHasNoEffect (s : RunnerState) (d : Delivery) : Prop :=
  s.accepts crates d = false →
    (s.deliver crates d).2.runner.lastSequence = s.runner.lastSequence ∧
      (s.deliver crates d).2.runner.seenNonces = s.runner.seenNonces

/-- The envelope fails a check before the nonce is recorded, or none at all. -/
def Harmless (s : RunnerState) (d : Delivery) : Prop :=
  s.runner.FailsEarly d.envelope d.clock ∨
    d.envelope.ValidlySigned crates s.runner.controlPlaneKey

/-- Every delivery of a run is harmless to the runner it reaches. -/
def AllHarmless : RunnerState → List Delivery → Prop
  | _, [] => True
  | s, d :: ds =>
      s.Harmless crates d ∧ AllHarmless (s.deliver crates d).2 ds

/-- A harmless rejection leaves no trace at all. -/
theorem deliver_of_harmless
    {s : RunnerState} {d : Delivery}
    (hharmless : s.Harmless crates d)
    (hrejected : ¬ s.accepts crates d = true) :
    (s.deliver crates d).2 = s := by
  obtain ⟨error, hverdict⟩ := (not_accepts_iff crates).mp hrejected
  rw [deliver_of_rejected crates hverdict]
  by_cases hearly : s.runner.FailsEarly d.envelope d.clock
  · obtain ⟨error', haccept⟩ :=
      LocalRunner.accept_of_failsEarly crates hearly
    rw [haccept]
  · have haccept :=
      LocalRunner.accept_of_validlySigned crates hearly
        (hharmless.resolve_left hearly)
    have hok : s.verdict crates d = .ok d.envelope.command :=
      congrArg Prod.fst haccept
    cases hok.symm.trans hverdict

theorem rejectionHasNoEffect_iff
    (s : RunnerState) (d : Delivery) :
    s.RejectionHasNoEffect crates d ↔ s.Harmless crates d := by
  constructor
  · intro h
    by_contra hharmful
    obtain ⟨hearly, hsigned⟩ := not_or.mp hharmful
    obtain ⟨error, haccept⟩ :=
      LocalRunner.accept_of_badSignature crates hearly hsigned
    have hrejected : s.accepts crates d = false := by
      rw [accepts, verdict, haccept]
      rfl
    have hseen := (h hrejected).2
    rw [deliver_runner, haccept] at hseen
    refine hearly (Or.inr (Or.inr (Or.inr ?_)))
    rw [← hseen]
    exact Finset.mem_insert_self _ _
  · intro hharmless hrejected
    rw [deliver_of_harmless crates hharmless (by simp [hrejected])]
    exact ⟨rfl, rfl⟩

/-- Without harmful envelopes, the rejected ones might as well not be there. -/
theorem accepted_of_allHarmless
    {s : RunnerState} {ds : List Delivery}
    (h : AllHarmless crates s ds) :
    s.accepted crates (s.accepted crates ds) = s.accepted crates ds := by
  induction ds generalizing s with
  | nil =>
      rfl
  | cons d ds ih =>
      obtain ⟨hharmless, hrest⟩ := h
      by_cases haccepts : s.accepts crates d = true
      · have hcons :
            s.accepted crates (d :: ds) =
              d :: accepted crates (s.deliver crates d).2 ds := by
          rw [accepted, if_pos haccepts]
        rw [hcons, accepted, if_pos haccepts, ih hrest]
      · have hsame := deliver_of_harmless crates hharmless haccepts
        have hcons :
            s.accepted crates (d :: ds) = s.accepted crates ds := by
          rw [accepted, if_neg haccepts, hsame]
        rw [hsame] at hrest
        rw [hcons, ih hrest]

/--
A rejection has no effect exactly if the envelope is harmless; over a run of
harmless envelopes, removing the rejected ones changes nothing for the others.
-/
theorem rejection_has_no_effect_iff :
    (∀ (s : RunnerState) (d : Delivery),
        s.RejectionHasNoEffect crates d ↔ s.Harmless crates d) ∧
      ∀ (s : RunnerState) (ds : List Delivery),
        AllHarmless crates s ds →
          s.accepted crates (s.accepted crates ds) =
            s.accepted crates ds :=
  ⟨rejectionHasNoEffect_iff crates,
    fun _ _ h => accepted_of_allHarmless crates h⟩

end RunnerState

/-! ## Concrete deliveries -/

def referenceKey : SigningKey :=
  ⟨List.replicate 32 11⟩

/-- A runner with both core commands, working in `/w`. -/
def referenceRunner : LocalRunner :=
  LocalRunner.configured "node-1" ⟨true, ["w"]⟩ ⟨true, ["xray"]⟩
    (referenceCrates.verifyingKey referenceKey)
    (some ⟨true, ["reload"]⟩) (some ⟨true, ["health"]⟩)

/-- A disk with an empty directory `/w`. -/
def referenceHost : Host where
  disk := ⟨⟨[([], .dir), (["w"], .dir)]⟩, []⟩
  loaded := none

/-- What a command prints that ends well, or not. -/
def exited (success : Bool) : Except String ProcessOutput :=
  .ok ⟨success, if success then "exit status: 0" else "exit status: 1", ""⟩

def referenceCommand
    (sequence : UInt64) (kind : RunnerCommandKind) : RunnerCommand where
  tenantId := "tenant-1"
  nodeId := "node-1"
  sequence := sequence
  nonce := "nonce-" ++ toString sequence
  expiresAt := ⟨60, 0⟩
  kind := kind

/-- The envelope of a command, signed by the holder of a key. -/
def referenceEnvelope
    (key : SigningKey) (command : RunnerCommand) : SignedRunnerCommand where
  command := command
  signatureHex := Hex.encode (Reference.signature key
    (Reference.text false 0 (command.toJson referenceCrates) []))

/-- A delivery without faults, at the second 0. -/
def referenceDelivery
    (key : SigningKey) (command : RunnerCommand) (outcomes : Outcomes) :
    Delivery where
  envelope := referenceEnvelope key command
  outcomes := outcomes
  moments _ := ⟨⟨0, 0⟩, none⟩

namespace Reference

theorem lowBytes_length
    (n m : Nat) :
    (lowBytes n m).length = n := by
  induction n generalizing m with
  | zero =>
      rfl
  | succ n ih =>
      simp [lowBytes, ih]

/-- An envelope is valid under the key it was signed with, and no other. -/
theorem envelope_validlySigned
    {key : SigningKey} (hkey : key.seed.length = 32) (key' : SigningKey)
    (command : RunnerCommand) :
    (referenceEnvelope key command).ValidlySigned referenceCrates
        (referenceCrates.verifyingKey key') ↔ key = key' := by
  have hlength : ∀ message, (signature key message).length = 64 := by
    intro message
    rw [signature, List.length_append, hkey, digest, lowBytes_length]
  have hverify : ∀ message,
      referenceCrates.verify (referenceCrates.verifyingKey key') message
        (signature key message) = decide (key = key') := by
    intro message
    obtain ⟨seed⟩ := key
    obtain ⟨seed'⟩ := key'
    simp [referenceCrates, signature, publicKey]
  simp only [SignedRunnerCommand.ValidlySigned, verifySignature,
    parseSignature, referenceEnvelope, Hex.decode_encode, hlength, if_true]
  show (if referenceCrates.verify _ _ (signature key _) = true then
    Except.ok () else Except.error DomainError.signature) = _ ↔ _
  rw [hverify]
  by_cases heq : key = key' <;> simp [heq]

end Reference

namespace RunnerState

/-- A fresh command of the control plane is accepted. -/
theorem referenceDelivery_accepted
    {s : RunnerState} {command : RunnerCommand} {outcomes : Outcomes}
    (hkey : s.runner.controlPlaneKey =
      referenceCrates.verifyingKey referenceKey)
    (hfresh : ¬ s.runner.FailsEarly
      (referenceEnvelope referenceKey command) ⟨0, 0⟩) :
    s.runner.accept referenceCrates
        (referenceDelivery referenceKey command outcomes).envelope
        (referenceDelivery referenceKey command outcomes).clock =
      (.ok command,
        { s.runner with
          lastSequence := command.sequence
          seenNonces := insert command.nonce s.runner.seenNonces }) := by
  refine LocalRunner.accept_of_validlySigned referenceCrates hfresh ?_
  rw [hkey]
  exact (Reference.envelope_validlySigned rfl referenceKey command).mpr rfl

/-- The first state of the concrete runner. -/
def referenceState : RunnerState where
  runner := referenceRunner
  host := referenceHost

/-- The first command of a node, signed by somebody else. -/
def forgedDelivery : Delivery :=
  referenceDelivery ⟨List.replicate 32 7⟩
    (referenceCommand 1 .collectMetrics)
    ⟨exited true, exited true, exited true⟩

/-- The same command, signed by the control plane. -/
def genuineDelivery : Delivery :=
  referenceDelivery referenceKey (referenceCommand 1 .collectMetrics)
    ⟨exited true, exited true, exited true⟩

/-- A forged envelope makes the runner refuse the genuine one. -/
theorem forged_envelope_blocks_genuine :
    ¬ RejectionHasNoEffect referenceCrates referenceState forgedDelivery ∧
      accepted referenceCrates referenceState [genuineDelivery] =
        [genuineDelivery] ∧
      accepted referenceCrates referenceState
        [forgedDelivery, genuineDelivery] = [] := by
  have hforged :
      ¬ forgedDelivery.envelope.ValidlySigned referenceCrates
        referenceState.runner.controlPlaneKey := by
    intro hsigned
    have hkeys :=
      (Reference.envelope_validlySigned rfl referenceKey _).mp hsigned
    exact absurd hkeys (by decide)
  have hearly :
      ¬ referenceState.runner.FailsEarly forgedDelivery.envelope
        forgedDelivery.clock := by
    decide
  obtain ⟨error, hrejected⟩ :=
    LocalRunner.accept_of_badSignature referenceCrates hearly hforged
  refine ⟨?_, ?_, ?_⟩
  · rw [rejectionHasNoEffect_iff]
    exact not_or.mpr ⟨hearly, hforged⟩
  · have haccept :=
      @referenceDelivery_accepted referenceState
        (referenceCommand 1 .collectMetrics)
        ⟨exited true, exited true, exited true⟩ rfl (by decide)
    have haccepts :
        referenceState.accepts referenceCrates genuineDelivery = true :=
      accepts_of_accept referenceCrates haccept
    rw [accepted, if_pos haccepts, accepted]
  · have hfirst :
        ¬ referenceState.accepts referenceCrates forgedDelivery = true :=
      not_accepts_of_accept referenceCrates hrejected
    rw [accepted, if_neg hfirst]
    have hnonce :
        (referenceState.deliver referenceCrates
          forgedDelivery).2.runner.FailsEarly genuineDelivery.envelope
            genuineDelivery.clock := by
      rw [deliver_runner, hrejected]
      exact Or.inr (Or.inr (Or.inr (Finset.mem_insert_self _ _)))
    obtain ⟨error', haccept⟩ :=
      LocalRunner.accept_of_failsEarly referenceCrates hnonce
    have hsecond := not_accepts_of_accept referenceCrates haccept
    rw [accepted, if_neg hsecond, accepted]

/-- The genuine envelope, sent twice: the second one is refused in passing. -/
theorem rejection_has_no_effect_iff_resent :
    accepted referenceCrates referenceState
        (accepted referenceCrates referenceState
          [genuineDelivery, genuineDelivery]) =
      accepted referenceCrates referenceState
        [genuineDelivery, genuineDelivery] := by
  refine (rejection_has_no_effect_iff referenceCrates).2 _ _ ?_
  refine ⟨Or.inr ?_, Or.inl ?_, trivial⟩
  · exact (Reference.envelope_validlySigned rfl referenceKey _).mpr rfl
  · have haccept :=
      @referenceDelivery_accepted referenceState
        (referenceCommand 1 .collectMetrics)
        ⟨exited true, exited true, exited true⟩ rfl (by decide)
    refine Or.inr (Or.inr (Or.inl ?_))
    rw [deliver_runner, genuineDelivery, haccept]
    decide

end RunnerState
end ProxyControl
