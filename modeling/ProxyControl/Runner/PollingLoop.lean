import Mathlib.Data.List.ReduceOption
import ProxyControl.Runner.Releases

/-!
# The polling loop

`OutboundRunner` polls a command source, applies what it gets and submits the
result; the loop of `main` polls until a poll fails, and the process ends then.

Delivered one after the other to the local runner, the envelopes have their
results: these are what the loop should submit (`SurvivesBadCommands`).  A
rejected or unsupported envelope has an error for a result, and an error ends
the loop.
-/

namespace ProxyControl

open Effects FileSystem

/-- What a command source answers to the requests of one poll. -/
structure Poll where
  nextCommand : (nodeId : String) → (lastSequence : UInt64) →
    Except String (Option Delivery)
  submitResult : DeploymentResult → Except String Unit

/-- The source works, and has an envelope or none. -/
def Poll.working (delivery : Option Delivery) : Poll where
  nextCommand _ _ := .ok delivery
  submitResult _ := .ok ()

/-- The local runner with its host, and the results that the source has taken. -/
structure OutboundRunner where
  state : RunnerState
  submitted : List DeploymentResult

namespace OutboundRunner

variable (crates : Crates)

def pollApplyOnce (self : OutboundRunner) (poll : Poll) :
    Except String (Option DeploymentResult) × OutboundRunner :=
  let nodeId := self.state.runner.nodeId
  let lastSequence := self.state.runner.lastSequence
  match poll.nextCommand nodeId lastSequence with
  | .error error => (.error error, self)
  | .ok none => (.ok none, self)
  | .ok (some command) =>
      match self.state.deliver crates command with
      | (.error error, state) => (.error error, { self with state := state })
      | (.ok result, state) =>
          match poll.submitResult result with
          | .error error => (.error error, { self with state := state })
          | .ok () =>
              (.ok (some result), ⟨state, self.submitted ++ [result]⟩)

/-- The loop of `main`, for as long as there are polls. -/
def mainLoop (once : Bool) :
    OutboundRunner → List Poll → Except String Unit × OutboundRunner
  | self, [] => (.ok (), self)
  | self, poll :: polls =>
      match self.pollApplyOnce crates poll with
      | (.error error, self) => (.error error, self)
      | (.ok _, self) =>
          if once then (.ok (), self) else mainLoop once self polls

end OutboundRunner

/-! ## What the loop should do -/

/-- The commands that the local runner supports. -/
def RunnerCommandKind.isSupported : RunnerCommandKind → Bool
  | .applyDeploymentPlan .. => true
  | .rollbackDeployment .. => true
  | _ => false

namespace RunnerState

variable (crates : Crates)

/-- The deliveries of a run, each with the state that it reaches. -/
def trace : RunnerState → List Delivery → List (RunnerState × Delivery)
  | _, [] => []
  | s, d :: ds => (s, d) :: trace (s.deliver crates d).2 ds

/-- The envelope is accepted, and of a supported kind. -/
def isDue (s : RunnerState) (d : Delivery) : Bool :=
  s.accepts crates d && d.envelope.command.kind.isSupported

/-- The deliveries of a run that are to be applied. -/
def due (s : RunnerState) (ds : List Delivery) : List (RunnerState × Delivery) :=
  (s.trace crates ds).filter (fun p => p.1.isDue crates p.2)

/-- The file operations of a delivery succeed. -/
def FilesSucceed (s : RunnerState) (d : Delivery) : Prop :=
  ∀ e ∈ s.calls crates d, ∀ op, e.op = .change op →
    (e.before.change op e.choice).1 = .ok ()

/-- A configuration to be applied can be written out, and its test started. -/
def TestStarts (d : Delivery) : Prop :=
  ∀ id sha256 configJson rollbackJson,
    d.envelope.command.kind =
        .applyDeploymentPlan id sha256 configJson rollbackJson →
      (∃ rendered, crates.toVecPretty configJson = .ok rendered) ∧
        ∃ output, d.outcomes.test = .ok output

end RunnerState

namespace OutboundRunner

variable (crates : Crates)

/--
The loop applies the deliveries that are due, and submits the result of each, in
order.
-/
def SurvivesBadCommands
    (self : OutboundRunner) (deliveries : List (Option Delivery)) : Prop :=
  let after := (self.mainLoop crates false (deliveries.map Poll.working)).2
  let ds := deliveries.reduceOption
  after.state.host = (self.state.deliverAll crates ds).host ∧
    ∃ results, after.submitted = self.submitted ++ results ∧
      List.Forall₂ (fun p result => (p.1.deliver crates p.2).1 = .ok result)
        (self.state.due crates ds) results

end OutboundRunner

/-! ## When a delivery has a result -/

namespace Local

variable {α β : Type} {outcomes : Outcomes}

/-- Where the changes are made, the part has a result. -/
def HasResult (outcomes : Outcomes) (part : Local α) : Prop :=
  ∀ env s, (∀ e ∈ part.run.entries (Host.answer outcomes) env s,
      ∀ op, e.op = .change op → (e.before.change op e.choice).1 = .ok ()) →
    ∃ a, (part.run.run (Host.answer outcomes) env s).1 = .ok a

theorem hasResult_pure (a : α) : HasResult outcomes (pure a : Local α) :=
  fun _ _ _ => ⟨a, rfl⟩

theorem hasResult_perform (op : SystemCall) : HasResult outcomes (perform op) :=
  fun _ _ _ => ⟨_, rfl⟩

theorem hasResult_change (op : DiskChange) : HasResult outcomes (change op) :=
  fun _ _ hchanges => ⟨(), hchanges _ (List.mem_singleton_self _) op rfl⟩

theorem hasResult_xrayTest
    {output : ProcessOutput} (h : outcomes.test = .ok output)
    (xrayBin config : Path) :
    HasResult outcomes (xrayTest xrayBin config) :=
  fun _ _ _ => ⟨output, h⟩

theorem hasResult_ofExcept
    {value : Except String α} {a : α} (h : value = .ok a) :
    HasResult outcomes (ofExcept value) :=
  fun _ _ _ => ⟨a, h⟩

theorem HasResult.bind
    {part : Local α} {next : α → Local β} (h : HasResult outcomes part)
    (hnext : ∀ a, HasResult outcomes (next a)) :
    HasResult outcomes (part >>= next) := by
  intro env s hchanges
  rw [ExceptT.run_bind, Program.entries_bind] at hchanges
  rw [ExceptT.run_bind, Program.run_bind]
  obtain ⟨a, ha⟩ := h env s
    (fun e he => hchanges e (List.mem_append_left _ he))
  rw [ha] at hchanges ⊢
  exact hnext a _ _ (fun e he => hchanges e (List.mem_append_right _ he))

/-- An error that is dropped, or kept as a value, stops nothing. -/
theorem hasResult_ignoreError (action : Local Unit) :
    HasResult outcomes (ignoreError action) := by
  intro env s _
  unfold ignoreError
  rw [ExceptT.run_mk, Program.run_bind]
  exact ⟨(), rfl⟩

theorem hasResult_outcome (action : Local α) :
    HasResult outcomes (outcome action) := by
  intro env s _
  unfold outcome
  rw [ExceptT.run_mk, Program.run_bind]
  exact ⟨_, rfl⟩

theorem HasResult.when
    {condition : Local Bool} {action : Local Unit}
    (hcondition : HasResult outcomes condition)
    (haction : HasResult outcomes action) :
    HasResult outcomes (when condition action) := by
  refine hcondition.bind ?_
  rintro (_ | _)
  · exact hasResult_pure ()
  · exact haction

theorem hasResult_present (path : Path) : HasResult outcomes (present path) := by
  refine (hasResult_perform (.exists path)).bind ?_
  rintro (_ | _)
  · exact hasResult_perform (.symlinkMetadata path)
  · exact hasResult_pure true

/-- A sequence that has a result has one of its first part. -/
theorem ok_of_bind
    {part : Local α} {next : α → Local β} {env : ℕ → Moment} {s : Host} {b : β}
    (h : ((part >>= next).run.run (Host.answer outcomes) env s).1 = .ok b) :
    ∃ a, (part.run.run (Host.answer outcomes) env s).1 = .ok a ∧
      ∃ env' s', ((next a).run.run (Host.answer outcomes) env' s').1 =
        .ok b := by
  rw [ExceptT.run_bind, Program.run_bind] at h
  cases hpart : (part.run.run (Host.answer outcomes) env s).1 with
  | error error =>
      rw [hpart] at h
      cases h
  | ok a =>
      rw [hpart] at h
      exact ⟨a, rfl, _, _, h⟩

end Local

namespace LocalRunner

open Local

variable {crates : Crates} {outcomes : Outcomes} (runner : LocalRunner)

theorem hasResult_switchActive (releaseDir : Path) :
    HasResult outcomes (runner.switchActive releaseDir) := by
  unfold switchActive
  refine ((hasResult_present _).when (hasResult_ignoreError _)).bind fun _ => ?_
  refine (hasResult_change _).bind fun _ => ?_
  refine ((hasResult_present _).when (hasResult_change _)).bind fun _ => ?_
  exact hasResult_change _

theorem hasResult_restoreActive
    (previousActive : Option Path) (failure : String) :
    HasResult outcomes (runner.restoreActive previousActive failure) := by
  cases previousActive with
  | some previousActive =>
      exact (runner.hasResult_switchActive previousActive).bind
        fun _ => hasResult_pure _
  | none =>
      exact ((hasResult_perform _).when (hasResult_ignoreError _)).bind
        fun _ => hasResult_pure _

theorem hasResult_rollbackAfterApplyFailure
    (deploymentId artifactSha256 : String) (previousActive : Option Path)
    (failure : String) :
    HasResult outcomes (runner.rollbackAfterApplyFailure deploymentId
      artifactSha256 previousActive failure) := by
  refine (runner.hasResult_restoreActive previousActive failure).bind
    fun _ => ?_
  exact (hasResult_perform _).bind fun _ => hasResult_pure _

theorem hasResult_coreStage
    (role : CoreRole) (command : Option Path) (deploymentId failure : String) :
    HasResult outcomes (runner.coreStage role command deploymentId failure) := by
  cases command with
  | none => exact hasResult_pure none
  | some command =>
      refine (hasResult_outcome _).bind ?_
      rintro (_ | _)
      · exact hasResult_pure _
      · exact hasResult_pure _

theorem hasResult_finishDeployment
    (deploymentId artifactSha256 : String) (previousActive : Option Path) :
    HasResult outcomes (runner.finishDeployment deploymentId artifactSha256
      previousActive) := by
  refine (runner.hasResult_coreStage _ _ _ _).bind ?_
  rintro (_ | _)
  · refine (runner.hasResult_coreStage _ _ _ _).bind ?_
    rintro (_ | _)
    · exact (hasResult_perform _).bind fun _ => hasResult_pure _
    · exact runner.hasResult_rollbackAfterApplyFailure _ _ _ _
  · exact runner.hasResult_rollbackAfterApplyFailure _ _ _ _

theorem hasResult_testFailed
    (deploymentId artifactSha256 : String) (output : ProcessOutput) :
    HasResult outcomes (runner.testFailed deploymentId artifactSha256 output) := by
  refine (hasResult_perform _).bind fun _ => ?_
  exact (hasResult_perform _).bind fun _ => hasResult_pure _

theorem hasResult_installRelease (deploymentId : String) :
    HasResult outcomes (runner.installRelease deploymentId) := by
  refine ((hasResult_perform _).when (hasResult_change _)).bind fun _ => ?_
  exact (hasResult_change _).bind fun _ => hasResult_change _

theorem hasResult_applyDeployment
    {configJson : Json.Value} {rendered : Bytes} {output : ProcessOutput}
    (hrender : crates.toVecPretty configJson = .ok rendered)
    (htest : outcomes.test = .ok output) (deploymentId artifactSha256 : String) :
    HasResult outcomes (runner.applyDeployment crates deploymentId artifactSha256
      configJson) := by
  refine (hasResult_change _).bind fun _ => ?_
  refine (hasResult_ofExcept hrender).bind fun _ => ?_
  refine (hasResult_change _).bind fun _ => ?_
  refine (hasResult_xrayTest htest _ _).bind fun output => ?_
  split_ifs
  · refine (runner.hasResult_installRelease deploymentId).bind fun _ => ?_
    refine (hasResult_perform _).bind fun _ => ?_
    refine (runner.hasResult_switchActive _).bind fun _ => ?_
    exact runner.hasResult_finishDeployment _ _ _
  · exact runner.hasResult_testFailed _ _ output

theorem hasResult_rollbackDeployment
    (deploymentId rollbackToDeploymentId artifactSha256 : String) :
    HasResult outcomes (runner.rollbackDeployment deploymentId
      rollbackToDeploymentId artifactSha256) := by
  refine (hasResult_perform _).bind ?_
  rintro (_ | _)
  · exact (hasResult_perform _).bind fun _ => hasResult_pure _
  · refine (runner.hasResult_switchActive _).bind fun _ => ?_
    exact (hasResult_perform _).bind fun _ => hasResult_pure _

/-- A deployment that has a result has been rendered, and its test started. -/
theorem test_of_applyDeployment
    {deploymentId artifactSha256 : String} {configJson : Json.Value}
    {env : ℕ → Moment} {s : Host} {result : DeploymentResult}
    (h : ((runner.applyDeployment crates deploymentId artifactSha256
      configJson).run.run (Host.answer outcomes) env s).1 = .ok result) :
    (∃ rendered, crates.toVecPretty configJson = .ok rendered) ∧
      ∃ output, outcomes.test = .ok output := by
  obtain ⟨-, -, _, _, h⟩ := ok_of_bind h
  obtain ⟨rendered, hrender, _, _, h⟩ := ok_of_bind h
  obtain ⟨-, -, _, _, h⟩ := ok_of_bind h
  obtain ⟨output, htest, -⟩ := ok_of_bind h
  exact ⟨⟨rendered, hrender⟩, output, htest⟩

end LocalRunner

namespace RunnerState

variable {crates : Crates} {s : RunnerState} {d : Delivery}

/-- With its files in order, a delivery has a result if it is due and tested. -/
theorem deliver_ok_iff
    (hfiles : s.FilesSucceed crates d) :
    (∃ result, (s.deliver crates d).1 = .ok result) ↔
      s.isDue crates d = true ∧ TestStarts crates d := by
  by_cases haccepts : s.accepts crates d = true
  swap
  · obtain ⟨error, hverdict⟩ := (not_accepts_iff crates).mp haccepts
    rw [deliver_of_rejected crates hverdict]
    exact iff_of_false (by rintro ⟨_, h⟩; cases h) (by simp [isDue, haccepts])
  obtain ⟨command, hverdict⟩ := (accepts_iff crates).mp haccepts
  obtain rfl : command = d.envelope.command :=
    (LocalRunner.accept_eq_ok crates hverdict).1
  rw [deliver_of_accepted crates hverdict]
  have hchanges := hfiles
  rw [FilesSucceed, calls_of_accepted hverdict] at hchanges
  replace hchanges := fun e he => hchanges e (List.mem_cons_of_mem _ he)
  generalize (s.runner.accept crates d.envelope d.clock).2 = runner at *
  unfold TestStarts
  cases hkind : d.envelope.command.kind with
  | applyDeploymentPlan id sha256 configJson rollbackJson =>
      rw [hkind] at hchanges
      constructor
      · rintro ⟨result, hresult⟩
        refine ⟨by simp [isDue, haccepts, hkind,
          RunnerCommandKind.isSupported], ?_⟩
        intro _ _ _ _ heq
        cases heq
        exact runner.test_of_applyDeployment hresult
      · rintro ⟨-, hstarts⟩
        obtain ⟨⟨rendered, hrender⟩, output, htest⟩ := hstarts _ _ _ _ rfl
        exact runner.hasResult_applyDeployment hrender htest id sha256 _ _
          hchanges
  | rollbackDeployment id target sha256 =>
      rw [hkind] at hchanges
      refine iff_of_true ?_ ⟨by simp [isDue, haccepts, hkind,
        RunnerCommandKind.isSupported], by simp⟩
      exact runner.hasResult_rollbackDeployment id target sha256 _ _ hchanges
  | _ =>
      refine iff_of_false (by rintro ⟨_, h⟩; cases h) ?_
      simp [isDue, hkind, RunnerCommandKind.isSupported]

/-- What is not due leaves the host alone. -/
theorem deliver_host_of_not_due
    (h : ¬ s.isDue crates d = true) :
    (s.deliver crates d).2.host = s.host := by
  by_cases haccepts : s.accepts crates d = true
  · refine (deliver_unsupported haccepts ?_ ?_).2
    · intro _ _ _ _ hkind
      simp [isDue, haccepts, hkind, RunnerCommandKind.isSupported] at h
    · intro _ _ _ hkind
      simp [isDue, haccepts, hkind, RunnerCommandKind.isSupported] at h
  · obtain ⟨error, hverdict⟩ := (not_accepts_iff crates).mp haccepts
    rw [deliver_of_rejected crates hverdict]

theorem deliverAll_host_of_none_due
    {ds : List Delivery} (h : ∀ p ∈ s.trace crates ds,
      ¬ p.1.isDue crates p.2 = true) :
    (s.deliverAll crates ds).host = s.host := by
  induction ds generalizing s with
  | nil => rfl
  | cons d ds ih =>
      rw [trace, List.forall_mem_cons] at h
      exact (ih h.2).trans (deliver_host_of_not_due h.1)

theorem due_cons
    (s : RunnerState) (d : Delivery) (ds : List Delivery) :
    s.due crates (d :: ds) =
      if s.isDue crates d = true then
        (s, d) :: (s.deliver crates d).2.due crates ds
      else
        (s.deliver crates d).2.due crates ds := by
  rw [due, trace, List.filter_cons]
  rfl

theorem due_eq_nil
    {ds : List Delivery} :
    s.due crates ds = [] ↔
      ∀ p ∈ s.trace crates ds, ¬ p.1.isDue crates p.2 = true :=
  List.filter_eq_nil_iff

end RunnerState

/-! ## The loop -/

namespace OutboundRunner

open RunnerState

variable {crates : Crates} {self : OutboundRunner} {d : Delivery}

/-- A delivery with a result is submitted, and the loop goes on. -/
theorem mainLoop_of_ok
    {result : DeploymentResult}
    (h : (self.state.deliver crates d).1 = .ok result)
    (deliveries : List (Option Delivery)) :
    self.mainLoop crates false ((some d :: deliveries).map Poll.working) =
      mainLoop crates false ⟨(self.state.deliver crates d).2,
        self.submitted ++ [result]⟩ (deliveries.map Poll.working) := by
  rw [List.map_cons, mainLoop, pollApplyOnce]
  simp only [Poll.working]
  rw [← Prod.mk.eta (p := self.state.deliver crates d), h]
  rfl

/-- A delivery without a result ends the loop. -/
theorem mainLoop_of_error
    {error : String} (h : (self.state.deliver crates d).1 = .error error)
    (deliveries : List (Option Delivery)) :
    self.mainLoop crates false ((some d :: deliveries).map Poll.working) =
      (.error error, { self with state := (self.state.deliver crates d).2 }) := by
  rw [List.map_cons, mainLoop, pollApplyOnce]
  simp only [Poll.working]
  rw [← Prod.mk.eta (p := self.state.deliver crates d), h]

/-- What is due can be tested, and comes before everything that is not due. -/
structure DueFirst
    (crates : Crates) (s : RunnerState) (ds : List Delivery) : Prop where
  first : (s.trace crates ds).Pairwise (fun p p' =>
    p'.1.isDue crates p'.2 = true → p.1.isDue crates p.2 = true)
  starts : ∀ p ∈ s.trace crates ds, p.1.isDue crates p.2 = true →
    TestStarts crates p.2

theorem dueFirst_cons
    {s : RunnerState} {ds : List Delivery} :
    DueFirst crates s (d :: ds) ↔
      if s.isDue crates d = true then
        TestStarts crates d ∧ DueFirst crates (s.deliver crates d).2 ds
      else
        ∀ p ∈ (s.deliver crates d).2.trace crates ds,
          ¬ p.1.isDue crates p.2 = true := by
  split_ifs with hdue
  · constructor
    · rintro ⟨hfirst, hstarts⟩
      rw [trace, List.pairwise_cons] at hfirst
      rw [trace, List.forall_mem_cons] at hstarts
      exact ⟨hstarts.1 hdue, hfirst.2, hstarts.2⟩
    · rintro ⟨hstart, hfirst, hstarts⟩
      refine ⟨?_, ?_⟩
      · rw [trace, List.pairwise_cons]
        exact ⟨fun _ _ _ => hdue, hfirst⟩
      · rw [trace, List.forall_mem_cons]
        exact ⟨fun _ => hstart, hstarts⟩
  · constructor
    · rintro ⟨hfirst, -⟩ p hp hlater
      rw [trace, List.pairwise_cons] at hfirst
      exact hdue (hfirst.1 p hp hlater)
    · intro hnone
      refine ⟨?_, ?_⟩
      · rw [trace, List.pairwise_cons]
        refine ⟨fun p hp hlater => absurd hlater (hnone p hp), ?_⟩
        refine List.pairwise_of_forall_mem_list ?_
        exact fun _ _ p hp hlater => absurd hlater (hnone p hp)
      · rw [trace, List.forall_mem_cons]
        exact ⟨fun h => absurd h hdue, fun p hp hlater =>
          absurd hlater (hnone p hp)⟩

/-- The loop serves what is due as long as nothing else has come before. -/
theorem polling_loop_survives_iff
    (self : OutboundRunner) (deliveries : List (Option Delivery))
    (hfiles : ∀ p ∈ self.state.trace crates deliveries.reduceOption,
      p.1.FilesSucceed crates p.2) :
    self.SurvivesBadCommands crates deliveries ↔
      DueFirst crates self.state deliveries.reduceOption := by
  induction deliveries generalizing self with
  | nil =>
      refine iff_of_true ⟨rfl, [], by simp [mainLoop], .nil⟩ ⟨.nil, ?_⟩
      intro p hp
      cases hp
  | cons delivery deliveries ih =>
      cases delivery with
      | none => exact ih self hfiles
      | some d =>
          rw [List.reduceOption_cons_of_some] at hfiles
          rw [trace, List.forall_mem_cons] at hfiles
          have hok := deliver_ok_iff hfiles.1
          simp only [SurvivesBadCommands, List.reduceOption_cons_of_some,
            dueFirst_cons, due_cons]
          cases hresult : (self.state.deliver crates d).1 with
          | ok result =>
              -- the loop goes on in the state that the delivery leaves
              obtain ⟨hdue, hstart⟩ := hok.mp ⟨result, hresult⟩
              rw [mainLoop_of_ok hresult, if_pos hdue, if_pos hdue,
                and_iff_right hstart, ← ih ⟨_, self.submitted ++ [result]⟩
                  hfiles.2]
              refine and_congr_right fun _ => ?_
              constructor
              · rintro ⟨results, hsubmitted, hresults⟩
                obtain ⟨_, rest, hfirst, hrest, rfl⟩ :=
                  List.forall₂_cons_left_iff.mp hresults
                obtain rfl := Except.ok.inj (hresult.symm.trans hfirst)
                exact ⟨rest, by simp [hsubmitted], hrest⟩
              · rintro ⟨rest, hsubmitted, hrest⟩
                exact ⟨result :: rest, by simp [hsubmitted],
                  .cons hresult hrest⟩
          | error error =>
              -- the loop ends, and has submitted nothing for the delivery
              rw [mainLoop_of_error hresult]
              split_ifs with hdue
              · refine iff_of_false ?_ ?_
                · rintro ⟨-, results, -, hresults⟩
                  obtain ⟨_, _, hfirst, -⟩ :=
                    List.forall₂_cons_left_iff.mp hresults
                  cases hresult.symm.trans hfirst
                · rintro ⟨hstart, -⟩
                  obtain ⟨_, hfirst⟩ := hok.mpr ⟨hdue, hstart⟩
                  cases hresult.symm.trans hfirst
              · rw [← due_eq_nil]
                constructor
                · rintro ⟨-, results, hsubmitted, hresults⟩
                  obtain rfl : results = [] := by simpa using hsubmitted
                  exact List.forall₂_nil_right_iff.mp hresults
                · intro hnone
                  refine ⟨?_, [], by simp, ?_⟩
                  · exact (deliverAll_host_of_none_due
                      (due_eq_nil.mp hnone)).symm
                  · rw [hnone]
                    exact .nil

/-! ### An expired deployment and a valid one -/

/-- A deployment that arrives when it has expired. -/
def expiredDelivery : Delivery :=
  referenceDelivery referenceKey
    { referenceApply 1 "dep-1" "first" with expiresAt := ⟨0, 0⟩ }
    ⟨exited true, exited true, exited true⟩

def validDelivery : Delivery :=
  referenceDelivery referenceKey (referenceApply 2 "dep-2" "second")
    ⟨exited true, exited true, exited true⟩

/-- Whether a call is no change, or one that is made. -/
def changeMade (e : Program.Entry SystemCall Moment Host) : Bool :=
  match e.op with
  | .change op => (e.before.change op e.choice).1.isOk
  | _ => true

theorem filesSucceed_of_check
    {s : RunnerState} (h : (s.calls crates d).all changeMade = true) :
    s.FilesSucceed crates d := by
  intro e he op hop
  have hmade := List.all_eq_true.mp h e he
  rw [changeMade, hop] at hmade
  change (e.before.change op e.choice).1.isOk = true at hmade
  cases hchange : (e.before.change op e.choice).1 with
  | ok => rfl
  | error error =>
      rw [hchange] at hmade
      cases hmade

theorem polling_loop_survives_iff_idle :
    SurvivesBadCommands referenceCrates ⟨referenceState, []⟩
      [none, some validDelivery, some expiredDelivery] := by
  have hfiles : ∀ p ∈ referenceState.trace referenceCrates
      [validDelivery, expiredDelivery],
      (p.1.calls referenceCrates p.2).all changeMade = true := by
    decide +kernel
  have hdue : (referenceState.trace referenceCrates
      [validDelivery, expiredDelivery]).Pairwise (fun p p' =>
        p'.1.isDue referenceCrates p'.2 = true →
          p.1.isDue referenceCrates p.2 = true) := by
    decide +kernel
  refine (polling_loop_survives_iff ⟨referenceState, []⟩
    [none, some validDelivery, some expiredDelivery]
    (fun p hp => filesSucceed_of_check (hfiles p hp))).mpr ⟨hdue, ?_⟩
  intro p hp _ _ _ _ _ _
  rcases List.mem_cons.mp hp with rfl | hp
  · exact ⟨⟨_, rfl⟩, _, rfl⟩
  · obtain rfl := List.mem_singleton.mp hp
    exact ⟨⟨_, rfl⟩, _, rfl⟩

/-- The expired envelope ends the loop, and the valid one is never polled. -/
theorem expired_envelope_ends_loop :
    ¬ ∀ (self : OutboundRunner) (deliveries : List (Option Delivery)),
      (∀ p ∈ self.state.trace referenceCrates deliveries.reduceOption,
        p.1.FilesSucceed referenceCrates p.2) →
        self.SurvivesBadCommands referenceCrates deliveries := by
  intro hclaim
  have hfiles : ∀ p ∈ referenceState.trace referenceCrates
      [expiredDelivery, validDelivery],
      (p.1.calls referenceCrates p.2).all changeMade = true := by
    decide +kernel
  obtain ⟨-, results, hsubmitted, hresults⟩ := hclaim ⟨referenceState, []⟩
    [some expiredDelivery, some validDelivery]
    (fun p hp => filesSucceed_of_check (hfiles p hp))
  have hnone : (mainLoop referenceCrates false ⟨referenceState, []⟩
      ([some expiredDelivery, some validDelivery].map Poll.working)).2.submitted =
        [] := by
    decide +kernel
  have hdue : (referenceState.due referenceCrates
      [expiredDelivery, validDelivery]).length = 1 := by
    decide +kernel
  rw [hnone] at hsubmitted
  obtain rfl : results = [] := by simpa using hsubmitted
  have hlength := hresults.length_eq
  change (referenceState.due referenceCrates
    [expiredDelivery, validDelivery]).length = _ at hlength
  rw [hdue] at hlength
  cases hlength

end OutboundRunner

end ProxyControl
