import ProxyControl.Lib.Program
import ProxyControl.Storage.ProxyStore

/-!
# The state of the control plane

`AppState` is what every handler is given and nobody changes; `Shared` is what
stands behind its mutexes: the store, the last sequence allocated for each
node, and the results received so far.

A handler is a program over `Call`s.  A call is atomic, and two handlers
interleave at their calls only: these are the points where a handler awaits a
mutex, reads the clock, or draws an identifier.
-/

namespace ProxyControl

open Calendar Effects

structure AppState where
  defaultRegistrationToken : String
  runnerApiToken : String
  tenantId : String
  signingKey : SigningKey
  runnerResultVerifyKey : VerifyingKey
deriving DecidableEq

def devControlPlaneSigningKey : SigningKey :=
  ⟨List.replicate 32 11⟩

def devRunnerResultVerifyKey (crates : Crates) : VerifyingKey :=
  crates.verifyingKey ⟨List.replicate 32 22⟩

def AppState.withStoreAndRunnerToken
    (crates : Crates)
    (registrationToken runnerApiToken tenantId : String) : AppState where
  defaultRegistrationToken := registrationToken
  runnerApiToken := runnerApiToken
  tenantId := tenantId
  signingKey := devControlPlaneSigningKey
  runnerResultVerifyKey := devRunnerResultVerifyKey crates

structure Shared where
  store : MemoryState
  nodeSequences : HashTable String UInt64
  runnerResults : List DeploymentResult

/-- A process that has just started over an empty store. -/
def Shared.new : Shared where
  store := .default
  nodeSequences := ∅
  runnerResults := []

inductive Call : Type
  | store (op : StoreCall)
  | nextSequence (nodeId : String)
  | pushRunnerResult (result : DeploymentResult)
  | runnerResultCount
  | now
  | uuid

abbrev Call.Ret : Call → Type
  | store op => op.Ret
  | nextSequence _ => UInt64
  | pushRunnerResult _ => Unit
  | runnerResultCount => Nat
  | now => DateTime
  | uuid => String

/-- The first sequence of a node is one. -/
def AppState.nextSequence (nodeId : String) (s : Shared) : UInt64 × Shared :=
  let next := (s.nodeSequences.get nodeId).getD 0 + 1
  (next, { s with nodeSequences := s.nodeSequences.insert nodeId next })

/-- One call of a handler against the shared state. -/
def AppState.answer (crates : Crates) (self : AppState) :
    (op : Call) → Tick → Shared → op.Ret × Shared
  | .store op, t, s =>
      ((MemoryStore.exec crates self.tenantId op t s.store).1,
        { s with store := (MemoryStore.exec crates self.tenantId op t s.store).2 })
  | .nextSequence nodeId, _, s => AppState.nextSequence nodeId s
  | .pushRunnerResult result, _, s =>
      ((), { s with runnerResults := s.runnerResults ++ [result] })
  | .runnerResultCount, _, s => (s.runnerResults.length, s)
  | .now, t, s => (t.now, s)
  | .uuid, t, s => (t.uuid 0, s)

/-! ## Handlers -/

/-- An error response; a bare status has an empty message. -/
structure HttpError where
  status : Nat
  message : String
deriving DecidableEq

def toHttpError : StoreError → HttpError
  | .notFound record => ⟨404, record⟩
  | .conflict reason => ⟨409, reason⟩
  | .artifactShaMismatch expected actual =>
      ⟨400, (StoreError.artifactShaMismatch expected actual).message⟩
  | .sqlx message => ⟨500, message⟩
  | .serde message => ⟨500, message⟩
  -- a panicking handler answers nothing; its status is never seen
  | .panicked message => ⟨500, message⟩

abbrev Handler (α : Type) : Type :=
  ExceptT HttpError (Program Call Call.Ret) α

namespace Handler

/-- The answer of one call, errors included. -/
def perform (op : Call) : Handler op.Ret :=
  ExceptT.mk (.call op (fun r => .done (.ok r)))

/-- A store call whose error becomes the response. -/
def store (op : StoreCall) : Handler op.Value :=
  ExceptT.mk (.call (.store op) (fun r => .done (r.mapError toHttpError)))

def now : Handler DateTime :=
  perform .now

def uuid : Handler String :=
  perform .uuid

def nextSequence (nodeId : String) : Handler UInt64 :=
  perform (.nextSequence nodeId)

/-- A domain computation whose error becomes a response of the given status. -/
def orStatus {α : Type}
    (status : Nat) (value : Except String α) : Handler α :=
  ExceptT.mk (.done (value.mapError (HttpError.mk status)))

/-- The result and the final state of a handler that runs alone. -/
def runAlone {α : Type}
    (crates : Crates) (app : AppState)
    (handler : Handler α) (env : ℕ → Tick) (s : Shared) :
    Except HttpError α × Shared :=
  Program.run (app.answer crates) handler.run env s

end Handler
end ProxyControl
