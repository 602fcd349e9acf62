import ProxyControl.ControlPlane.Footprint

/-!
# Histories of the control plane

An `Exchange` is one request with what the environment supplies to it and the
state that it finds.  A `History` is a sequence of exchanges in a fresh
process, and its calls, with their ticks and the states that they find, are the
log of the run.

`History.invariant` is the induction over a history; `ensures_of_makes` reduces
a request to the calls that its route may make.
-/

namespace ProxyControl

open Calendar Effects

abbrev LogEntry : Type :=
  Program.Entry Call Tick Shared

abbrev Log : Type :=
  List LogEntry

structure Exchange where
  request : Request
  env : ℕ → Tick
  before : Shared

section Histories

variable (crates : Crates) (app : AppState)

/-- The response, as the handler returns it. -/
def Exchange.reply (x : Exchange) : Except HttpError x.request.Reply :=
  ((app.serve crates x.request).runAlone crates app x.env x.before).1

def Exchange.calls (x : Exchange) : Log :=
  (app.serve crates x.request).run.entries (app.answer crates) x.env x.before

/-- Requests served one after the other in a fresh process. -/
inductive History : List Exchange → Shared → Prop
  | new : History [] .new
  | request
      {history : List Exchange} {s : Shared}
      (h : History history s)
      (request : Request) (env : ℕ → Tick) :
      History (history ++ [⟨request, env, s⟩])
        (app.serveAlone crates request env s)

/-- The calls of a history, oldest first. -/
def logOf (history : List Exchange) : Log :=
  history.flatMap (fun x => x.calls crates app)

end Histories

variable {crates : Crates} {app : AppState}

theorem logOf_append
    (history : List Exchange) (x : Exchange) :
    logOf crates app (history ++ [x]) =
      logOf crates app history ++ x.calls crates app := by
  simp [logOf]

theorem History.reachable
    {history : List Exchange} {s : Shared}
    (h : History crates app history s) :
    AppState.Reachable crates app s := by
  induction h with
  | new => exact .new
  | request _ request env ih => exact ih.request request env

/-- The exchanges of a sequence of requests. -/
def exchanges
    (crates : Crates) (app : AppState) :
    List (Request × (ℕ → Tick)) → Shared → List Exchange
  | [], _ => []
  | r :: requests, s =>
      ⟨r.1, r.2, s⟩ ::
        exchanges crates app requests (app.serveAlone crates r.1 r.2 s)

theorem mem_exchanges
    {requests : List (Request × (ℕ → Tick))} {s : Shared} {x : Exchange}
    (h : x ∈ exchanges crates app requests s) :
    (x.request, x.env) ∈ requests := by
  induction requests generalizing s with
  | nil => cases h
  | cons r requests ih =>
      rcases List.mem_cons.mp h with rfl | h
      · exact List.mem_cons_self ..
      · exact List.mem_cons_of_mem _ (ih h)

theorem History.serveAll
    {history : List Exchange} {s : Shared}
    (h : History crates app history s)
    (requests : List (Request × (ℕ → Tick))) :
    History crates app (history ++ exchanges crates app requests s)
      (app.serveAll crates requests s) := by
  induction requests generalizing history s with
  | nil =>
      rw [exchanges, List.append_nil]
      exact h
  | cons r requests ih =>
      have hrest := ih (h.request r.1 r.2)
      rw [List.append_assoc] at hrest
      exact hrest

theorem eq_ok_of_toOption
    {ε α : Type} {value : Except ε α} {a : α} (h : value.toOption = some a) :
    value = .ok a := by
  cases value with
  | ok b => exact congrArg Except.ok (Option.some.inj h)
  | error e => cases h

/-! ## Handlers in the world that keeps a log -/

namespace Handler

variable {α β : Type}

/-- The result, the log and the final state of a handler that runs alone. -/
def runLogged
    (crates : Crates) (app : AppState)
    (handler : Handler α) (env : ℕ → Tick) (log : Log) (s : Shared) :
    Except HttpError α × (Log × Shared) :=
  Program.run (Program.logged (app.answer crates)) handler.run env (log, s)

theorem runLogged_eq
    (handler : Handler α) (env : ℕ → Tick) (log : Log) (s : Shared) :
    handler.runLogged crates app env log s =
      ((handler.runAlone crates app env s).1,
        (log ++ handler.run.entries (app.answer crates) env s,
          (handler.runAlone crates app env s).2)) :=
  Program.run_logged (app.answer crates) handler.run env s log

section RunLogged

variable (env : ℕ → Tick) (log : Log) (s : Shared)

theorem runLogged_perform_bind
    (op : Call) (f : op.Ret → Handler β) :
    (Handler.perform op >>= f).runLogged crates app env log s =
      (f (app.answer crates op (env 0) s).1).runLogged crates app
        (fun n => env (n + 1)) (log ++ [⟨op, env 0, s⟩])
        (app.answer crates op (env 0) s).2 := by
  rfl

theorem runLogged_store_bind
    (op : StoreCall) (f : op.Value → Handler β) :
    (Handler.store op >>= f).runLogged crates app env log s =
      match (MemoryStore.exec crates app.tenantId op (env 0) s.store).1 with
      | .ok a =>
          (f a).runLogged crates app (fun n => env (n + 1))
            (log ++ [⟨.store op, env 0, s⟩])
            { s with store :=
                (MemoryStore.exec crates app.tenantId op (env 0) s.store).2 }
      | .error error =>
          (.error (toHttpError error),
            (log ++ [⟨.store op, env 0, s⟩],
              { s with store :=
                  (MemoryStore.exec crates app.tenantId op (env 0)
                    s.store).2 })) := by
  change Program.run (Program.logged (app.answer crates))
    (ExceptT.bindCont f
      (Except.mapError toHttpError
        (MemoryStore.exec crates app.tenantId op (env 0) s.store).1))
    (fun n => env (n + 1)) _ = _
  cases (MemoryStore.exec crates app.tenantId op (env 0) s.store).1 <;> rfl

/-- A store call that succeeds, and what follows. -/
theorem runLogged_store_bind_ok
    {op : StoreCall} {a : op.Value} {store' : MemoryState}
    (h : MemoryStore.exec crates app.tenantId op (env 0) s.store =
      (.ok a, store'))
    (f : op.Value → Handler β) :
    (Handler.store op >>= f).runLogged crates app env log s =
      (f a).runLogged crates app (fun n => env (n + 1))
        (log ++ [⟨.store op, env 0, s⟩]) { s with store := store' } := by
  rw [runLogged_store_bind, h]

theorem runLogged_orStatus_bind
    (status : Nat) (value : Except String α) (f : α → Handler β) :
    (Handler.orStatus status value >>= f).runLogged crates app env log s =
      match value with
      | .ok a => (f a).runLogged crates app env log s
      | .error message => (.error ⟨status, message⟩, (log, s)) := by
  cases value <;> rfl

end RunLogged

/-- The result, the calls and the final state of one run are as `P` says. -/
def RunsAs
    (crates : Crates) (app : AppState)
    (handler : Handler α)
    (P : Except HttpError α → Log → Shared → Prop)
    (env : ℕ → Tick) (s : Shared) : Prop :=
  P (handler.runAlone crates app env s).1
    (handler.run.entries (app.answer crates) env s)
    (handler.runAlone crates app env s).2

theorem runsAs_of_runLogged
    {handler : Handler α} {P : Except HttpError α → Log → Shared → Prop}
    {env : ℕ → Tick} {log : Log} {s : Shared}
    (h : ∃ calls,
      (handler.runLogged crates app env log s).2.1 = log ++ calls ∧
      P (handler.runLogged crates app env log s).1 calls
        (handler.runLogged crates app env log s).2.2) :
    handler.RunsAs crates app P env s := by
  obtain ⟨calls, hcalls, hP⟩ := h
  rw [runLogged_eq] at hcalls hP
  rw [List.append_cancel_left hcalls.symm] at hP
  exact hP

theorem runsAs_pure
    {a : α} {P : Except HttpError α → Log → Shared → Prop}
    {env : ℕ → Tick} {s : Shared} (h : P (.ok a) [] s) :
    (pure a : Handler α).RunsAs crates app P env s :=
  h

/-- What follows a handler runs where the handler ends. -/
theorem RunsAs.bind
    {m : Handler α} {f : α → Handler β}
    {P : Except HttpError α → Log → Shared → Prop}
    {Q : Except HttpError β → Log → Shared → Prop}
    {env : ℕ → Tick} {s : Shared}
    (hm : m.RunsAs crates app P env s)
    (hok : ∀ a calls s' env', P (.ok a) calls s' →
      (f a).RunsAs crates app
        (fun r calls' s'' => Q r (calls ++ calls') s'') env' s')
    (herror : ∀ error calls s', P (.error error) calls s' →
      Q (.error error) calls s') :
    (m >>= f).RunsAs crates app Q env s := by
  have hrun := Program.run_bind (app.answer crates) m.run
    (ExceptT.bindCont f) env s
  have hentries := Program.entries_bind (app.answer crates) m.run
    (ExceptT.bindCont f) env s
  unfold RunsAs runAlone at hm ⊢
  change Q (Program.run _ (m.run >>= ExceptT.bindCont f) env s).1
    (Program.entries _ (m.run >>= ExceptT.bindCont f) env s)
    (Program.run _ (m.run >>= ExceptT.bindCont f) env s).2
  rw [hrun, hentries]
  rcases hout : Program.run (app.answer crates) m.run env s with ⟨r, s'⟩
  rw [hout] at hm
  cases r with
  | ok a => exact hok a _ s' _ hm
  | error error =>
      have hnil := herror error _ s' hm
      rw [← List.append_nil (Program.entries _ m.run env s)] at hnil
      exact hnil

/-- One store call, and what follows. -/
theorem runsAs_store_bind
    {op : StoreCall} {f : op.Value → Handler β}
    {Q : Except HttpError β → Log → Shared → Prop}
    {env : ℕ → Tick} {s : Shared}
    (hok : ∀ a,
      (MemoryStore.exec crates app.tenantId op (env 0) s.store).1 = .ok a →
      (f a).RunsAs crates app
        (fun r calls s' => Q r (⟨.store op, env 0, s⟩ :: calls) s')
        (fun n => env (n + 1))
        { s with store :=
            (MemoryStore.exec crates app.tenantId op (env 0) s.store).2 })
    (herror : ∀ error,
      (MemoryStore.exec crates app.tenantId op (env 0) s.store).1 =
        .error error →
      Q (.error (toHttpError error)) [⟨.store op, env 0, s⟩]
        { s with store :=
            (MemoryStore.exec crates app.tenantId op (env 0) s.store).2 }) :
    (Handler.store op >>= f).RunsAs crates app Q env s := by
  change Q (Program.run (app.answer crates)
      (ExceptT.bindCont f (Except.mapError toHttpError
        (MemoryStore.exec crates app.tenantId op (env 0) s.store).1))
      (fun n => env (n + 1)) _).1
    (_ :: Program.entries (app.answer crates)
      (ExceptT.bindCont f (Except.mapError toHttpError
        (MemoryStore.exec crates app.tenantId op (env 0) s.store).1))
      (fun n => env (n + 1)) _)
    (Program.run (app.answer crates)
      (ExceptT.bindCont f (Except.mapError toHttpError
        (MemoryStore.exec crates app.tenantId op (env 0) s.store).1))
      (fun n => env (n + 1)) _).2
  cases hexec :
      (MemoryStore.exec crates app.tenantId op (env 0) s.store).1 with
  | ok a => exact hok a hexec
  | error error => exact herror error hexec

/-! ### Each call of one run -/

/-- Each call of one run is as `P` says. -/
def EachCall
    (crates : Crates) (app : AppState)
    (P : LogEntry → Prop) (handler : Handler α)
    (env : ℕ → Tick) (s : Shared) : Prop :=
  ∀ e ∈ handler.run.entries (app.answer crates) env s, P e

section EachCall

variable {P : LogEntry → Prop} {env : ℕ → Tick} {s : Shared}

theorem eachCall_pure (a : α) :
    EachCall crates app P (pure a : Handler α) env s := by
  intro e he
  cases he

theorem eachCall_throw (error : HttpError) :
    EachCall crates app P (throw error : Handler α) env s := by
  intro e he
  cases he

theorem EachCall.bind
    {m : Handler α} {f : α → Handler β}
    (hm : EachCall crates app P m env s)
    (hf : ∀ a env' s', m.runAlone crates app env s = (.ok a, s') →
      EachCall crates app P (f a) env' s') :
    EachCall crates app P (m >>= f) env s := by
  intro e he
  change e ∈ Program.entries _ (m.run >>= ExceptT.bindCont f) env s at he
  rw [Program.entries_bind, List.mem_append] at he
  rcases he with he | he
  · exact hm e he
  · have hrest := hf
    unfold runAlone at hrest
    rcases hout : Program.run (app.answer crates) m.run env s with ⟨r, s'⟩
    rw [hout] at he
    cases r with
    | ok a => exact hrest a _ s' hout e he
    | error error => cases he

theorem eachCall_store
    {op : StoreCall} (h : P ⟨.store op, env 0, s⟩) :
    EachCall crates app P (Handler.store op) env s := by
  intro e he
  obtain rfl := List.mem_singleton.mp he
  exact h

theorem eachCall_perform_bind
    {op : Call} {f : op.Ret → Handler β}
    (h : P ⟨op, env 0, s⟩)
    (hf : EachCall crates app P (f (app.answer crates op (env 0) s).1)
      (fun n => env (n + 1)) (app.answer crates op (env 0) s).2) :
    EachCall crates app P (Handler.perform op >>= f) env s := by
  intro e he
  rcases List.mem_cons.mp he with rfl | he
  · exact h
  · exact hf e he

theorem eachCall_store_bind
    {op : StoreCall} {f : op.Value → Handler β}
    (h : P ⟨.store op, env 0, s⟩)
    (hf : ∀ a env',
      (MemoryStore.exec crates app.tenantId op (env 0) s.store).1 = .ok a →
      EachCall crates app P (f a) env'
        { s with store :=
            (MemoryStore.exec crates app.tenantId op (env 0) s.store).2 }) :
    EachCall crates app P (Handler.store op >>= f) env s := by
  refine (eachCall_store h).bind ?_
  intro a env' s' hrun
  obtain ⟨ha, rfl⟩ := Prod.mk.inj hrun
  exact hf a env' (mapError_eq_ok ha)

theorem eachCall_orStatus_bind
    {status : Nat} {value : Except String α} {f : α → Handler β}
    (hf : ∀ a, value = .ok a → EachCall crates app P (f a) env s) :
    EachCall crates app P (Handler.orStatus status value >>= f) env s := by
  cases value with
  | ok a => exact hf a rfl
  | error message => exact eachCall_throw _

end EachCall

/-- Whatever the environment chooses, the handler ends as `post` says. -/
def Ensures
    (crates : Crates) (app : AppState)
    (handler : Handler α)
    (post : Except HttpError α → Log → Shared → Prop)
    (log : Log) (s : Shared) : Prop :=
  ∀ env,
    post (handler.runAlone crates app env s).1
      (log ++ handler.run.entries (app.answer crates) env s)
      (handler.runAlone crates app env s).2

/-- A property that every call of a kind keeps. -/
theorem Calls.ensures
    {kind : Call → Prop} {handler : Handler α} (h : handler.Calls kind)
    {Inv : Log → Shared → Prop}
    (hstep : ∀ op t log s, kind op → Inv log s →
      Inv (log ++ [⟨op, t, s⟩]) (app.answer crates op t s).2)
    {log : Log} {s : Shared} (hs : Inv log s) :
    handler.Ensures crates app (fun _ log' s' => Inv log' s') log s := by
  intro env
  have hrun :
      Inv (handler.runLogged crates app env log s).2.1
        (handler.runLogged crates app env log s).2.2 :=
    Program.All.run (P := fun w => Inv w.1 w.2) h
      (fun op t w hop hw => hstep op t w.1 w.2 hop hw) env (s := (log, s)) hs
  rw [runLogged_eq] at hrun
  exact hrun

end Handler

/-! ## Induction over a history -/

/-- A property that every request keeps holds of every history. -/
theorem History.invariant
    {Inv : Log → Shared → Prop} (hnew : Inv [] .new)
    (hserve : ∀ request log s, Inv log s →
      (app.serve crates request).Ensures crates app
        (fun _ log' s' => Inv log' s') log s)
    {history : List Exchange} {s : Shared}
    (h : History crates app history s) :
    Inv (logOf crates app history) s := by
  induction h with
  | new => exact hnew
  | request _ request env ih =>
      rw [logOf_append]
      exact hserve request _ _ ih env

/-- A request keeps what the calls of its route keep. -/
theorem ensures_of_makes
    {Inv : Log → Shared → Prop} {request : Request}
    (hcall : ∀ op t log s, request.Makes op → Inv log s →
      Inv (log ++ [⟨op, t, s⟩]) (app.answer crates op t s).2)
    {log : Log} {s : Shared} (hs : Inv log s) :
    (app.serve crates request).Ensures crates app
      (fun _ log' s' => Inv log' s') log s :=
  (AppState.serve_makes crates app request).ensures hcall hs

/-- A request leaves every group of tables alone that its route cannot write. -/
theorem serveAlone_frame
    {g : MemoryStore.TableGroup} {request : Request}
    (h : ∀ op, request.mayMake op = true → MemoryStore.writes g op = false)
    (env : ℕ → Tick) (s : Shared) :
    MemoryStore.SameTables g s.store
      (app.serveAlone crates request env s).store := by
  refine @ensures_of_makes crates app
    (fun _ s' => MemoryStore.SameTables g s.store s'.store) request ?_ [] s
    (MemoryStore.SameTables.refl g s.store) env
  intro op t log s' hop hs'
  cases op with
  | store op =>
      exact MemoryStore.SameTables.trans hs'
        (MemoryStore.exec_frame crates app.tenantId (h op hop) t s'.store)
  | nextSequence | pushRunnerResult | runnerResultCount | now | uuid =>
      exact hs'

end ProxyControl
