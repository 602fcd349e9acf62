import ProxyControl.ControlPlane.Footprint
import ProxyControl.Lib.Threads
import ProxyControl.Storage.PostgresFrames

/-!
# The control plane over Postgres

A process keeps its sequences and its results in memory and everything else in
the database.  Its requests interleave at the statements that they send; the
one transaction is a single step.  A restart ends the requests in flight and
empties the memory.

The world of a run also keeps every action since the migration, so that a
thread can be asked what had been done when it acted.
-/

namespace ProxyControl

open Effects PostgresStore

structure PostgresShared where
  database : Database
  nodeSequences : HashTable String UInt64
  runnerResults : List DeploymentResult

/-- A process that has just started over a database. -/
def PostgresShared.over (database : Database) : PostgresShared where
  database := database
  nodeSequences := ∅
  runnerResults := []

/-- The sequence that a node is given next. -/
def PostgresShared.upcoming (nodeId : String) (s : PostgresShared) : UInt64 :=
  (s.nodeSequences.get nodeId).getD 0 + 1

/-- What a request does in one step. -/
inductive Action : Type
  | statement (s : Statement)
  | transaction (op : StoreCall)
  | nextSequence (nodeId : String)
  | pushRunnerResult (result : DeploymentResult)
  | runnerResultCount
  | environment

abbrev Action.Ret : Action → Type
  | statement s => s.Ret
  | transaction op => op.Ret
  | nextSequence _ => UInt64
  | pushRunnerResult _ => Unit
  | runnerResultCount => Nat
  | environment => Tick

/-- A transaction is one of the methods that runs as one. -/
def Action.Wellformed : Action → Prop
  | .transaction op => transactional op = true
  | _ => True

def PostgresShared.act (crates : Crates) :
    (a : Action) → StoreTick → PostgresShared → a.Ret × PostgresShared
  | .statement s, t, w =>
      ((s.exec (t.statement 0) w.database).1,
        { w with database := (s.exec (t.statement 0) w.database).2 })
  | .transaction op, t, w =>
      ((PostgresStore.exec crates op t w.database).1,
        { w with database := (PostgresStore.exec crates op t w.database).2 })
  | .nextSequence nodeId, _, w =>
      (w.upcoming nodeId, { w with
        nodeSequences := w.nodeSequences.insert nodeId (w.upcoming nodeId) })
  | .pushRunnerResult result, _, w =>
      ((), { w with runnerResults := w.runnerResults ++ [result] })
  | .runnerResultCount, _, w => (w.runnerResults.length, w)
  | .environment, t, w => (t.tick, w)

/-- The actions of one call. -/
def actions (crates : Crates) :
    (op : Call) → Program Action Action.Ret op.Ret
  | .store op =>
      if transactional op then
        .call (.transaction op) .done
      else
        .call .environment (fun t =>
          (body crates t op).run.implement
            (fun s => .call (.statement s) .done))
  | .nextSequence nodeId => .call (.nextSequence nodeId) .done
  | .pushRunnerResult result => .call (.pushRunnerResult result) .done
  | .runnerResultCount => .call .runnerResultCount .done
  | .now => .call .environment (fun t => .done t.now)
  | .uuid => .call .environment (fun t => .done (t.uuid 0))

abbrev ActionEntry : Type :=
  Program.Entry Action StoreTick PostgresShared

/-- The actions so far, and what they have left. -/
abbrev PostgresWorld : Type :=
  List ActionEntry × PostgresShared

/-- One action of a thread, in the world that it met. -/
abbrev ThreadEntry : Type :=
  Program.Entry Action StoreTick PostgresWorld

/-- A request, what it has done, and what is left of it. -/
structure InFlight where
  request : Request
  entries : List ThreadEntry
  rest : Program Action Action.Ret (Except HttpError request.Reply)

section Runs

variable (crates : Crates) (app : AppState)

def AppState.actionsOf (request : Request) :
    Program Action Action.Ret (Except HttpError request.Reply) :=
  (app.serve crates request).run.implement (actions crates)

theorem AppState.actionsOf_wellformed
    (request : Request) :
    (app.actionsOf crates request).All Action.Wellformed := by
  have hany :
      Handler.Calls (fun _ => True) (app.serve crates request) :=
    Program.All.mono (serve_makes crates app request) (fun _ _ => trivial)
  refine hany.implement (fun op _ => ?_)
  cases op with
  | store op =>
      simp only [actions]
      split_ifs with htransactional
      · exact ⟨htransactional, fun _ => trivial⟩
      · exact ⟨trivial, fun t => Program.All.implement
          (body_writes crates t op) (fun _ _ => ⟨trivial, fun _ => trivial⟩)⟩
  | _ => exact ⟨trivial, fun _ => trivial⟩

def InFlight.new (request : Request) : InFlight :=
  ⟨request, [], app.actionsOf crates request⟩

/-- A process, with the database that it was started over. -/
structure Process where
  started : Database
  world : PostgresWorld
  threads : List InFlight

def Process.start (database : Database) (log : List ActionEntry) : Process :=
  ⟨database, (log, .over database), []⟩

/-- The runs of processes one after the other over one database. -/
inductive PostgresRun : Process → Prop
  | migrated : PostgresRun (.start .empty [])
  | request {p : Process} (h : PostgresRun p) (request : Request) :
      PostgresRun
        { p with threads := p.threads ++ [.new crates app request] }
  | act
      {started : Database} {world : PostgresWorld}
      {before after : List InFlight} {request : Request}
      {entries : List ThreadEntry} {a : Action}
      {next : a.Ret →
        Program Action Action.Ret (Except HttpError request.Reply)}
      (h : PostgresRun ⟨started, world,
        before ++ ⟨request, entries, .call a next⟩ :: after⟩)
      (t : StoreTick) :
      PostgresRun ⟨started,
        (Program.logged (PostgresShared.act crates) a t world).2,
        before ++ ⟨request, entries ++ [⟨a, t, world⟩],
          next (PostgresShared.act crates a t world.2).1⟩ :: after⟩
  | restart {p : Process} (h : PostgresRun p) :
      PostgresRun (.start p.world.2.database p.world.1)

variable {crates app}

/-- A thread has done what its request does. -/
theorem PostgresRun.reaches
    {p : Process} (h : PostgresRun crates app p) :
    ∀ f ∈ p.threads,
      Program.Reaches (Program.logged (PostgresShared.act crates))
        (app.actionsOf crates f.request) f.entries f.rest := by
  induction h with
  | migrated =>
      intro f hf
      cases hf
  | request _ request ih =>
      intro f hf
      rcases List.mem_append.mp hf with hf | hf
      · exact ih f hf
      · obtain rfl := List.mem_singleton.mp hf
        exact .start
  | @act started world before after request entries a next _ t ih =>
      have hothers : ∀ f ∈ before ++ after, _ := fun f hf => ih f (by
        rcases List.mem_append.mp hf with hf | hf
        · exact List.mem_append_left _ hf
        · exact List.mem_append_right _ (List.mem_cons_of_mem _ hf))
      intro f hf
      rcases List.mem_append.mp hf with hf | hf
      · exact hothers f (List.mem_append_left _ hf)
      · rcases List.mem_cons.mp hf with rfl | hf
        · exact (ih _ (List.mem_append_right _ (List.mem_cons_self ..))).call
            t world
        · exact hothers f (List.mem_append_right _ hf)
  | restart _ _ =>
      intro f hf
      cases hf

/-- What every action keeps that a request may take holds all along. -/
theorem PostgresRun.invariant_of
    {kind : Action → Prop}
    (hkind : ∀ request, (app.actionsOf crates request).All kind)
    {P : PostgresWorld → Prop} {p : Process} (h : PostgresRun crates app p)
    (hmigrated : P ([], .over .empty))
    (hrestart : ∀ w, P w → P (w.1, .over w.2.database))
    (hact : ∀ (a : Action) t w, kind a → P w →
      P (Program.logged (PostgresShared.act crates) a t w).2) :
    P p.world ∧ ∀ f ∈ p.threads, ∀ e ∈ f.entries, P e.before := by
  induction h with
  | migrated =>
      refine ⟨hmigrated, ?_⟩
      intro f hf
      cases hf
  | request _ request ih =>
      refine ⟨ih.1, ?_⟩
      intro f hf
      rcases List.mem_append.mp hf with hf | hf
      · exact ih.2 f hf
      · obtain rfl := List.mem_singleton.mp hf
        intro e he
        cases he
  | @act started world before after request entries a next h t ih =>
      obtain ⟨ha, -⟩ := (h.reaches _ mem_middle).all (hkind request)
      refine ⟨hact a t world ha ih.1, forall_mem_middle ih.2 ?_⟩
      intro e he
      rcases List.mem_append.mp he with he | he
      · exact ih.2 _ mem_middle e he
      · obtain rfl := List.mem_singleton.mp he
        exact ih.1
  | restart _ ih =>
      refine ⟨hrestart _ ih.1, ?_⟩
      intro f hf
      cases hf

/-- What every action keeps holds of the world, and of every world met. -/
theorem PostgresRun.invariant
    {P : PostgresWorld → Prop} {p : Process} (h : PostgresRun crates app p)
    (hmigrated : P ([], .over .empty))
    (hrestart : ∀ w, P w → P (w.1, .over w.2.database))
    (hact : ∀ (a : Action) t w, a.Wellformed → P w →
      P (Program.logged (PostgresShared.act crates) a t w).2) :
    P p.world ∧ ∀ f ∈ p.threads, ∀ e ∈ f.entries, P e.before :=
  h.invariant_of (app.actionsOf_wellformed crates) hmigrated hrestart hact

/-- A thread meets longer and longer logs. -/
theorem PostgresRun.logs_grow
    {p : Process} (h : PostgresRun crates app p) :
    ∀ f ∈ p.threads,
      f.entries.Pairwise (fun e e' => e.before.1 <+: e'.before.1) ∧
        ∀ e ∈ f.entries, e.before.1 <+: p.world.1 := by
  induction h with
  | migrated =>
      intro f hf
      cases hf
  | request _ request ih =>
      intro f hf
      rcases List.mem_append.mp hf with hf | hf
      · exact ih f hf
      · obtain rfl := List.mem_singleton.mp hf
        exact ⟨.nil, fun e he => by cases he⟩
  | @act started world before after request entries a next _ t ih =>
      have hgrown : world.1 <+:
          (Program.logged (PostgresShared.act crates) a t world).2.1 :=
        List.prefix_append _ _
      have hothers := fun f hf => (ih f hf).imp_right
        (fun hbefore e he => (hbefore e he).trans hgrown)
      refine forall_mem_middle hothers ?_
      obtain ⟨hpairwise, hbefore⟩ := ih _ mem_middle
      constructor
      · refine List.pairwise_append.mpr
          ⟨hpairwise, List.pairwise_singleton _ _, ?_⟩
        intro e he last hlast
        obtain rfl := List.mem_singleton.mp hlast
        exact hbefore e he
      · intro e he
        rcases List.mem_append.mp he with he | he
        · exact (hbefore e he).trans hgrown
        · obtain rfl := List.mem_singleton.mp he
          exact hgrown
  | restart _ _ =>
      intro f hf
      cases hf

/-- The action as it stands in the log. -/
def ThreadEntry.action (e : ThreadEntry) : ActionEntry :=
  ⟨e.op, e.choice, e.before.2⟩

/-- Where the actions of a thread stand in the log. -/
def InFlight.positions (f : InFlight) : List ℕ :=
  f.entries.map (fun e => e.before.1.length)

/-- Every action of a thread stands in the log, at a place of its own. -/
theorem PostgresRun.logged
    {p : Process} (h : PostgresRun crates app p) :
    (p.threads.flatMap InFlight.positions).Nodup ∧
      ∀ f ∈ p.threads, ∀ e ∈ f.entries,
        p.world.1[e.before.1.length]? = some (ThreadEntry.action e) := by
  induction h with
  | migrated =>
      refine ⟨List.nodup_nil, ?_⟩
      intro f hf
      cases hf
  | request _ request ih =>
      refine ⟨?_, ?_⟩
      · simpa [InFlight.positions, InFlight.new] using ih.1
      · intro f hf
        rcases List.mem_append.mp hf with hf | hf
        · exact ih.2 f hf
        · obtain rfl := List.mem_singleton.mp hf
          intro e he
          cases he
  | @act started world before after request entries a next _ t ih =>
      obtain ⟨hnodup, hget⟩ := ih
      have hlater : ∀ {e : ThreadEntry},
          world.1[e.before.1.length]? = some (ThreadEntry.action e) →
            (world.1 ++ [⟨a, t, world.2⟩])[e.before.1.length]? =
              some (ThreadEntry.action e) := by
        intro e he
        rw [List.getElem?_append_left (List.getElem?_eq_some_iff.mp he).1, he]
      constructor
      · -- the place of the new action is beyond all others
        have hfresh : world.1.length ∉
            (before ++ ⟨request, entries, .call a next⟩ :: after).flatMap
              InFlight.positions := by
          intro hmem
          obtain ⟨f, hf, hposition⟩ := List.mem_flatMap.mp hmem
          obtain ⟨e, he, heq⟩ := List.mem_map.mp hposition
          have hlt := (List.getElem?_eq_some_iff.mp (hget f hf e he)).1
          exact absurd heq (Nat.ne_of_lt hlt)
        refine (List.Perm.nodup_iff ?_).mp (List.nodup_cons.mpr ⟨hfresh, hnodup⟩)
        simp only [List.flatMap_append, List.flatMap_cons, InFlight.positions,
          List.map_append, List.map_cons, List.map_nil, List.append_assoc,
          List.singleton_append]
        exact List.perm_middle.symm.trans
          (List.Perm.append_left _ List.perm_middle.symm)
      · refine forall_mem_middle (fun f hf e he => hlater (hget f hf e he)) ?_
        intro e he
        rcases List.mem_append.mp he with he | he
        · exact hlater (hget _ mem_middle e he)
        · obtain rfl := List.mem_singleton.mp he
          exact List.getElem?_concat_length
  | restart _ _ =>
      refine ⟨List.nodup_nil, ?_⟩
      intro f hf
      cases hf

theorem PostgresRun.mem_log
    {p : Process} (h : PostgresRun crates app p)
    {f : InFlight} (hf : f ∈ p.threads) {e : ThreadEntry} (he : e ∈ f.entries) :
    ThreadEntry.action e ∈ p.world.1 :=
  List.mem_of_getElem? (h.logged.2 f hf e he)

/-- An action finds the earlier ones of its thread in the log. -/
theorem PostgresRun.entries_logged
    {p : Process} (h : PostgresRun crates app p) {f : InFlight}
    (hf : f ∈ p.threads) :
    f.entries.Pairwise (fun e e' => ThreadEntry.action e ∈ e'.before.1) := by
  obtain ⟨hnodup, hget⟩ := h.logged
  obtain ⟨hgrows, hbegins⟩ := h.logs_grow f hf
  have hplaces : f.entries.Pairwise
      (fun e e' => e.before.1.length ≠ e'.before.1.length) :=
    List.pairwise_map.mp ((List.nodup_flatMap.mp hnodup).1 f hf)
  refine (hgrows.and hplaces).imp_of_mem ?_
  rintro e e' he he' ⟨hgrown, hne⟩
  have hlt := lt_of_le_of_ne hgrown.length_le hne
  have hat := (List.getElem?_eq_some_iff.mp (hget f hf e he)).2
  rw [← (hbegins e' he').getElem hlt] at hat
  exact hat ▸ List.getElem_mem hlt

/-- What tells any two actions of the log apart tells two threads apart. -/
theorem PostgresRun.pairwise_threads
    {p : Process} (h : PostgresRun crates app p)
    {R : ActionEntry → ActionEntry → Prop} (hsymm : ∀ a b, R a b → R b a)
    (hlog : p.world.1.Pairwise R) :
    p.threads.Pairwise (fun f g => ∀ e ∈ f.entries, ∀ e' ∈ g.entries,
      R (ThreadEntry.action e) (ThreadEntry.action e')) := by
  obtain ⟨hnodup, hget⟩ := h.logged
  refine (List.nodup_flatMap.mp hnodup).2.imp_of_mem ?_
  intro f g hf hg hapart e he e' he'
  have hne : e.before.1.length ≠ e'.before.1.length := fun heq =>
    hapart (List.mem_map_of_mem he) (heq ▸ List.mem_map_of_mem he')
  obtain ⟨hlt, hat⟩ := List.getElem?_eq_some_iff.mp (hget f hf e he)
  obtain ⟨hlt', hat'⟩ := List.getElem?_eq_some_iff.mp (hget g hg e' he')
  rw [← hat, ← hat']
  rcases Nat.lt_or_gt_of_ne hne with hbefore | hafter
  · exact List.pairwise_iff_getElem.mp hlog _ _ hlt hlt' hbefore
  · exact hsymm _ _ (List.pairwise_iff_getElem.mp hlog _ _ hlt' hlt hafter)

/-- A request that is served alone, from its arrival to its response. -/
def Process.serveAlone
    (crates : Crates) (app : AppState) (request : Request)
    (env : ℕ → StoreTick) (p : Process) : Process :=
  let answer := Program.logged (PostgresShared.act crates)
  let result := (app.actionsOf crates request).run (Program.logged answer) env
    ([], p.world)
  ⟨p.started, result.2.2, p.threads ++ [⟨request, result.2.1, .done result.1⟩]⟩

theorem PostgresRun.serveAlone
    {p : Process} (h : PostgresRun crates app p)
    (request : Request) (env : ℕ → StoreTick) :
    PostgresRun crates app (p.serveAlone crates app request env) := by
  suffices hrest :
      ∀ (rest : Program Action Action.Ret (Except HttpError request.Reply))
        (entries : List ThreadEntry) (env : ℕ → StoreTick) (world : PostgresWorld),
        PostgresRun crates app
            ⟨p.started, world, p.threads ++ [⟨request, entries, rest⟩]⟩ →
          let result := rest.run
            (Program.logged (Program.logged (PostgresShared.act crates))) env
            (entries, world)
          PostgresRun crates app ⟨p.started, result.2.2,
            p.threads ++ [⟨request, result.2.1, .done result.1⟩]⟩ from
    hrest _ _ _ _ (h.request request)
  intro rest
  induction rest with
  | done reply =>
      intro entries env world hrun
      exact hrun
  | call a next ih =>
      intro entries env world hrun
      exact ih _ _ _ _ (hrun.act (env 0))

end Runs
end ProxyControl
