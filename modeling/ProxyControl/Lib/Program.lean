import Mathlib.Logic.Relation
import Mathlib.Data.List.Basic

/-!
# Programs over a shared world

A `Program` is a sequential computation that stops at every call it makes and
resumes with the answer.  The same program is read in three ways:

* `run` executes it to its end against one world, each call atomically;
* `visits` lists the worlds it leaves behind, call after call: these are the
  worlds a crash between two calls exposes;
* `Pool.Step` serves one call of one of many programs over a shared world, so
  that every interleaving at the calls is a sequence of steps.

What the environment decides at a call (a clock reading, a fresh identifier, a
fault) is a value of a type `τ`, one for each call.

`Ensures` is the weakest precondition of a program over all choices of the
environment, together with an invariant of every visited world.  Its rules are
the only way the modules above reason about programs.
-/

namespace Effects

/-- A computation that is finished, or waits for the answer to one call. -/
inductive Program (Op : Type) (Ret : Op → Type) (α : Type) : Type
  | done (a : α)
  | call (op : Op) (next : Ret op → Program Op Ret α)

namespace Program

variable {Op : Type} {Ret : Op → Type} {α β γ : Type}

/-- Sequential composition. -/
def bind :
    Program Op Ret α → (α → Program Op Ret β) → Program Op Ret β
  | done a, f => f a
  | call op next, f => call op (fun r => (next r).bind f)

/-- The program that makes one call and returns its answer. -/
def perform (op : Op) : Program Op Ret (Ret op) :=
  call op done

instance : Monad (Program Op Ret) where
  pure := done
  bind := bind

@[simp] theorem pure_eq
    (a : α) :
    (pure a : Program Op Ret α) = done a := by
  rfl

@[simp] theorem done_bind
    (a : α) (f : α → Program Op Ret β) :
    (done a >>= f : Program Op Ret β) = f a := by
  rfl

@[simp] theorem call_bind
    (op : Op)
    (next : Ret op → Program Op Ret α)
    (f : α → Program Op Ret β) :
    (call op next >>= f : Program Op Ret β) =
      call op (fun r => next r >>= f) := by
  rfl

@[simp] theorem perform_bind
    (op : Op) (f : Ret op → Program Op Ret β) :
    (perform op >>= f : Program Op Ret β) =
      call op f := by
  rfl

theorem bind_done
    (p : Program Op Ret α) :
    (p >>= done : Program Op Ret α) = p := by
  induction p with
  | done a =>
      rfl
  | call op next ih =>
      simp only [call_bind, ih]

theorem bind_assoc
    (p : Program Op Ret α)
    (f : α → Program Op Ret β)
    (g : β → Program Op Ret γ) :
    (p >>= f) >>= g = p >>= fun a => f a >>= g := by
  induction p with
  | done a =>
      rfl
  | call op next ih =>
      simp only [call_bind, ih]

instance : LawfulMonad (Program Op Ret) :=
  LawfulMonad.mk' _ bind_done (fun _ _ => rfl) bind_assoc

/-- Every call that the program can make is of a kind. -/
def All (kind : Op → Prop) : Program Op Ret α → Prop
  | done _ => True
  | call op next => kind op ∧ ∀ r, (next r).All kind

theorem All.bind
    {kind : Op → Prop}
    {p : Program Op Ret α} {f : α → Program Op Ret β}
    (h : p.All kind) (hf : ∀ a, (f a).All kind) :
    (p >>= f).All kind := by
  induction p with
  | done a =>
      exact hf a
  | call op next ih =>
      obtain ⟨hop, hnext⟩ := h
      exact ⟨hop, fun r => ih r (hnext r)⟩

theorem All.mono
    {kind kind' : Op → Prop} {p : Program Op Ret α}
    (h : p.All kind) (hkind : ∀ op, kind op → kind' op) :
    p.All kind' := by
  induction p with
  | done a =>
      trivial
  | call op next ih =>
      obtain ⟨hop, hnext⟩ := h
      exact ⟨hkind op hop, fun r => ih r (hnext r)⟩

section Execution

variable {τ σ : Type}
variable (answer : (op : Op) → τ → σ → Ret op × σ)

/-- Execution to the end: the result and the final world. -/
def run : Program Op Ret α → (ℕ → τ) → σ → α × σ
  | done a, _, s => (a, s)
  | call op next, env, s =>
      run (next (answer op (env 0) s).1)
        (fun n => env (n + 1)) (answer op (env 0) s).2

/-- The worlds left behind by the successive calls of an execution. -/
def visits : Program Op Ret α → (ℕ → τ) → σ → List σ
  | done _, _, _ => []
  | call op next, env, s =>
      (answer op (env 0) s).2 ::
        visits (next (answer op (env 0) s).1)
          (fun n => env (n + 1)) (answer op (env 0) s).2

theorem run_bind_done
    (p : Program Op Ret α) (f : α → β) (env : ℕ → τ) (s : σ) :
    run answer (p >>= fun a => done (f a)) env s =
      (f (run answer p env s).1, (run answer p env s).2) := by
  induction p generalizing env s with
  | done a =>
      rfl
  | call op next ih =>
      exact ih _ _ _

theorem visits_bind_done
    (p : Program Op Ret α) (f : α → β) (env : ℕ → τ) (s : σ) :
    visits answer (p >>= fun a => done (f a)) env s =
      visits answer p env s := by
  induction p generalizing env s with
  | done a =>
      rfl
  | call op next ih =>
      exact congrArg (List.cons _) (ih _ _ _)

/-- A world of a kind is visited when the environment always chooses `t`. -/
def Meets
    (p : Program Op Ret α) (kind : σ → Prop) (t : τ) (s : σ) : Prop :=
  ∃ s' ∈ visits answer p (fun _ => t) s, kind s'

/--
Whatever the environment chooses within `ok`, every world visited satisfies
`inv` and the result satisfies `post`.
-/
def Ensures (ok : τ → Prop) (inv : σ → Prop) :
    Program Op Ret α → (α → σ → Prop) → σ → Prop
  | done a, post, s => post a s
  | call op next, post, s =>
      ∀ t, ok t →
        inv (answer op t s).2 ∧
          Ensures ok inv (next (answer op t s).1) post
            (answer op t s).2

variable {answer} {ok : τ → Prop} {inv inv' : σ → Prop}

@[simp] theorem ensures_done
    (a : α) (post : α → σ → Prop) (s : σ) :
    Ensures answer ok inv (done a : Program Op Ret α) post s ↔
      post a s := by
  rfl

@[simp] theorem ensures_call
    (op : Op)
    (next : Ret op → Program Op Ret α)
    (post : α → σ → Prop) (s : σ) :
    Ensures answer ok inv (call op next) post s ↔
      ∀ t, ok t →
        inv (answer op t s).2 ∧
          Ensures answer ok inv (next (answer op t s).1) post
            (answer op t s).2 := by
  rfl

/-- A composition ensures what its first part leaves to the second. -/
theorem ensures_bind
    (p : Program Op Ret α)
    (f : α → Program Op Ret β)
    (post : β → σ → Prop) (s : σ) :
    Ensures answer ok inv (p >>= f) post s ↔
      Ensures answer ok inv p
        (fun a s' => Ensures answer ok inv (f a) post s') s := by
  induction p generalizing s with
  | done a =>
      rfl
  | call op next ih =>
      simp only [call_bind, ensures_call, ih]

/-- The rule of consequence. -/
theorem Ensures.mono
    {p : Program Op Ret α}
    {post post' : α → σ → Prop} {s : σ}
    (h : Ensures answer ok inv p post s)
    (hinv : ∀ s', inv s' → inv' s')
    (hpost : ∀ a s', post a s' → post' a s') :
    Ensures answer ok inv' p post' s := by
  induction p generalizing s with
  | done a =>
      exact hpost a s h
  | call op next ih =>
      intro t ht
      obtain ⟨hi, hn⟩ := h t ht
      exact ⟨hinv _ hi, ih _ hn⟩

/-- An invariant need only be kept by the calls that the program can make. -/
theorem All.ensures
    {kind : Op → Prop} {p : Program Op Ret α}
    (h : p.All kind)
    (hstep : ∀ op t s, kind op → ok t → inv s → inv (answer op t s).2)
    {s : σ} (hs : inv s) :
    Ensures answer ok inv p (fun _ s' => inv s') s := by
  induction p generalizing s with
  | done a =>
      exact hs
  | call op next ih =>
      obtain ⟨hop, hnext⟩ := h
      intro t ht
      have hs' := hstep op t s hop ht hs
      exact ⟨hs', ih _ (hnext _) hs'⟩

/-- What is ensured holds of every execution and of every world on its way. -/
theorem Ensures.run
    {p : Program Op Ret α}
    {post : α → σ → Prop} {s : σ}
    (h : Ensures answer ok inv p post s)
    {env : ℕ → τ} (henv : ∀ n, ok (env n)) :
    post (p.run answer env s).1 (p.run answer env s).2 ∧
      ∀ s' ∈ p.visits answer env s, inv s' := by
  induction p generalizing s env with
  | done a =>
      exact ⟨h, by simp [visits]⟩
  | call op next ih =>
      obtain ⟨hi, hn⟩ := h (env 0) (henv 0)
      obtain ⟨hpost, hvisits⟩ :=
        ih _ hn (fun n => henv (n + 1))
      refine ⟨hpost, ?_⟩
      intro s' hs'
      rcases List.mem_cons.mp hs' with rfl | hs'
      · exact hi
      · exact hvisits s' hs'

/-- What every call of a program keeps holds at the end of its executions. -/
theorem All.run
    {kind : Op → Prop} {P : σ → Prop} {p : Program Op Ret α}
    (h : p.All kind)
    (hstep : ∀ op t s, kind op → P s → P (answer op t s).2)
    (env : ℕ → τ) {s : σ} (hs : P s) :
    P (p.run answer env s).2 := by
  have hensures : Ensures answer (fun _ => True) P p (fun _ s' => P s') s :=
    h.ensures (fun op t s hop _ => hstep op t s hop) hs
  exact (hensures.run (fun _ => trivial)).1

theorem Meets.bind_left
    {p : Program Op Ret α} {f : α → Program Op Ret β}
    {kind : σ → Prop} {t : τ} {s : σ}
    (h : Meets answer p kind t s) :
    Meets answer (p >>= f) kind t s := by
  induction p generalizing s with
  | done a =>
      obtain ⟨s', hs', -⟩ := h
      cases hs'
  | call op next ih =>
      obtain ⟨s', hs', hkind⟩ := h
      rcases List.mem_cons.mp hs' with rfl | hlater
      · exact ⟨_, List.mem_cons_self .., hkind⟩
      · obtain ⟨s'', hs'', hkind'⟩ := ih _ ⟨s', hlater, hkind⟩
        exact ⟨s'', List.mem_cons_of_mem _ hs'', hkind'⟩

/-- What the second part meets in every state that the first part ensures. -/
theorem Ensures.meets_bind
    {p : Program Op Ret α} {f : α → Program Op Ret β}
    {post : α → σ → Prop} {kind : σ → Prop} {t : τ} {s : σ}
    (h : Ensures answer ok inv p post s) (ht : ok t)
    (hmeets : ∀ a s', post a s' → Meets answer (f a) kind t s') :
    Meets answer (p >>= f) kind t s := by
  induction p generalizing s with
  | done a =>
      exact hmeets a s h
  | call op next ih =>
      obtain ⟨-, hnext⟩ := h t ht
      obtain ⟨s', hs', hkind⟩ := ih _ hnext
      exact ⟨s', List.mem_cons_of_mem _ hs', hkind⟩

end Execution

/-! ### Calls that clash -/

theorem all_of_forall
    {kind : Op → Prop} (h : ∀ op, kind op) (p : Program Op Ret α) :
    p.All kind := by
  induction p with
  | done a => trivial
  | call op next ih => exact ⟨h op, ih⟩

/-- No call of an execution clashes with one before it. -/
def Apart (clash : Op → Op → Prop) : Program Op Ret α → Prop
  | done _ => True
  | call op next =>
      ∀ r, (next r).All (fun later => ¬ clash op later) ∧ (next r).Apart clash

variable {clash : Op → Op → Prop}

theorem Apart.bind
    {p : Program Op Ret α} {f : α → Program Op Ret β} (h : p.Apart clash)
    (hf : ∀ a, (f a).Apart clash)
    (hbetween : p.All (fun op => ∀ a, (f a).All (fun later => ¬ clash op later))) :
    (p >>= f).Apart clash := by
  induction p with
  | done a => exact hf a
  | call op next ih =>
      obtain ⟨hop, hnext⟩ := hbetween
      intro r
      exact ⟨(h r).1.bind hop, ih r (h r).2 (hnext r)⟩

/-- Calls that clash with none are apart. -/
theorem All.apart
    {p : Program Op Ret α} (h : p.All (fun op => ∀ later, ¬ clash op later)) :
    p.Apart clash := by
  induction p with
  | done a => trivial
  | call op next ih =>
      obtain ⟨hop, hnext⟩ := h
      exact fun r => ⟨(hnext r).mono (fun later _ => hop later), ih r (hnext r)⟩

end Program

/-- Programs in flight over one shared world. -/
structure Pool (Op : Type) (Ret : Op → Type) (α σ : Type) where
  world : σ
  threads : List (Program Op Ret α)

namespace Pool

variable {Op : Type} {Ret : Op → Type} {α τ σ : Type}
variable (answer : (op : Op) → τ → σ → Ret op × σ)

/-- A call that was served, with its answer. -/
structure Served (Op : Type) (Ret : Op → Type) where
  op : Op
  result : Ret op

/-- One call of one thread is served; the other threads wait. -/
inductive Step :
    Pool Op Ret α σ → Served Op Ret → Pool Op Ret α σ → Prop
  | serve
      (world : σ)
      (before after : List (Program Op Ret α))
      (op : Op) (next : Ret op → Program Op Ret α) (t : τ) :
      Step
        ⟨world, before ++ .call op next :: after⟩
        ⟨op, (answer op t world).1⟩
        ⟨(answer op t world).2,
          before ++ next (answer op t world).1 :: after⟩

variable {answer}

/-- A pool that makes calls of a kind only goes on to do so. -/
theorem Step.all
    {p p' : Pool Op Ret α σ} {e : Served Op Ret} {kind : Op → Prop}
    (hstep : Step answer p e p') (h : ∀ thread ∈ p.threads, thread.All kind) :
    kind e.op ∧ ∀ thread ∈ p'.threads, thread.All kind := by
  obtain ⟨world, before, after, op, next, t⟩ := hstep
  obtain ⟨hop, hnext⟩ := h (.call op next) (by simp)
  refine ⟨hop, fun thread hthread => ?_⟩
  rcases List.mem_append.mp hthread with hbefore | hthread
  · exact h thread (List.mem_append_left _ hbefore)
  rcases List.mem_cons.mp hthread with rfl | hafter
  · exact hnext _
  · exact h thread (List.mem_append_right _ (List.mem_cons_of_mem _ hafter))

/-- Serve the next call of the thread at a position. -/
def serve
    (answer : (op : Op) → τ → σ → Ret op × σ)
    (i : ℕ) (t : τ) (p : Pool Op Ret α σ) :
    Option (Served Op Ret × Pool Op Ret α σ) :=
  match p.threads[i]? with
  | some (.call op next) =>
      some (⟨op, (answer op t p.world).1⟩,
        ⟨(answer op t p.world).2,
          p.threads.set i (next (answer op t p.world).1)⟩)
  | _ => none

theorem serve_step
    {i : ℕ} {t : τ} {p p' : Pool Op Ret α σ} {e : Served Op Ret}
    (h : serve answer i t p = some (e, p')) :
    Step answer p e p' := by
  unfold serve at h
  split at h
  · rename_i op next hget
    obtain ⟨rfl, rfl⟩ := Prod.mk.inj (Option.some.inj h)
    obtain ⟨hi, hthread⟩ := List.getElem?_eq_some_iff.mp hget
    have hsplit :
        p.threads =
          p.threads.take i ++ .call op next :: p.threads.drop (i + 1) := by
      rw [← hthread, List.getElem_cons_drop, List.take_append_drop]
    have hstep :
        Step answer
          ⟨p.world, p.threads.take i ++ .call op next :: p.threads.drop (i + 1)⟩
          ⟨op, (answer op t p.world).1⟩
          ⟨(answer op t p.world).2,
            p.threads.take i ++ next (answer op t p.world).1 ::
              p.threads.drop (i + 1)⟩ :=
      .serve p.world _ _ op next t
    rw [← hsplit] at hstep
    rw [List.set_eq_take_append_cons_drop, if_pos hi]
    exact hstep
  · cases h

/-- The runs from `p₀` in which every call is allowed when it is served. -/
inductive Run
    (answer : (op : Op) → τ → σ → Ret op × σ)
    (allowed : Pool Op Ret α σ → Op → Bool) (p₀ : Pool Op Ret α σ) :
    Pool Op Ret α σ → List (Served Op Ret) → Prop
  | start : Run answer allowed p₀ p₀ []
  | step
      {p p' : Pool Op Ret α σ} {trace : List (Served Op Ret)}
      {e : Served Op Ret}
      (h : Run answer allowed p₀ p trace)
      (hstep : Step answer p e p') (hallowed : allowed p e.op = true) :
      Run answer allowed p₀ p' (trace ++ [e])

/-- Serve the calls of threads as a schedule says, while they are allowed. -/
def serveAll
    (answer : (op : Op) → τ → σ → Ret op × σ)
    (allowed : Pool Op Ret α σ → Op → Bool) :
    List (ℕ × τ) → Pool Op Ret α σ × List (Served Op Ret) →
      Option (Pool Op Ret α σ × List (Served Op Ret))
  | [], state => some state
  | (i, t) :: schedule, (p, trace) =>
      match serve answer i t p with
      | none => none
      | some (e, p') =>
          if allowed p e.op then
            serveAll answer allowed schedule (p', trace ++ [e])
          else
            none

theorem Run.serveAll
    {allowed : Pool Op Ret α σ → Op → Bool} {p₀ p p' : Pool Op Ret α σ}
    {trace trace' : List (Served Op Ret)} (schedule : List (ℕ × τ))
    (h : Run answer allowed p₀ p trace)
    (hserve : Pool.serveAll answer allowed schedule (p, trace) =
      some (p', trace')) :
    Run answer allowed p₀ p' trace' := by
  induction schedule generalizing p trace with
  | nil =>
      obtain ⟨rfl, rfl⟩ := Prod.mk.inj (Option.some.inj hserve)
      exact h
  | cons next schedule ih =>
      obtain ⟨i, t⟩ := next
      simp only [Pool.serveAll] at hserve
      split at hserve
      · cases hserve
      · rename_i e p'' hstep
        split at hserve
        · rename_i hallowed
          exact ih (h.step (serve_step hstep) hallowed) hserve
        · cases hserve

/-- A step serves the thread in a given place, or another one. -/
theorem Step.at_or_beside
    {world : σ} {before after : List (Program Op Ret α)}
    {q : Program Op Ret α} {e : Served Op Ret} {p' : Pool Op Ret α σ}
    (h : Step answer ⟨world, before ++ q :: after⟩ e p') :
    (∃ next t, q = .call e.op next ∧ e.result = (answer e.op t world).1 ∧
        p' = ⟨(answer e.op t world).2,
          before ++ next (answer e.op t world).1 :: after⟩) ∨
      ∃ next, Program.call e.op next ∈ before ++ after := by
  generalize hp : (⟨world, before ++ q :: after⟩ : Pool Op Ret α σ) = p at h
  obtain ⟨world', before', after', op, next, t⟩ := h
  obtain ⟨rfl, hthreads⟩ := Pool.mk.inj hp
  rcases List.append_eq_append_iff.mp hthreads with
    ⟨l, rfl, hl⟩ | ⟨l, rfl, hl⟩
  · cases l with
    | nil =>
        obtain ⟨rfl, rfl⟩ := List.cons.inj hl
        exact .inl ⟨next, t, rfl, rfl, by simp⟩
    | cons r l =>
        obtain ⟨rfl, rfl⟩ := List.cons.inj hl
        exact .inr ⟨next, by simp⟩
  · cases l with
    | nil =>
        obtain ⟨rfl, rfl⟩ := List.cons.inj hl
        exact .inl ⟨next, t, rfl, rfl, by simp⟩
    | cons r l =>
        obtain ⟨rfl, rfl⟩ := List.cons.inj hl
        exact .inr ⟨next, by simp⟩

end Pool

namespace Program

variable {Op : Type} {Ret : Op → Type} {α β τ σ : Type}

/-- One call of an execution: what was chosen for it, and the world before. -/
structure Entry (Op τ σ : Type) where
  op : Op
  choice : τ
  before : σ

variable (answer : (op : Op) → τ → σ → Ret op × σ)

/-- The calls of an execution, oldest first. -/
def entries : Program Op Ret α → (ℕ → τ) → σ → List (Entry Op τ σ)
  | done _, _, _ => []
  | call op next, env, s =>
      ⟨op, env 0, s⟩ ::
        entries (next (answer op (env 0) s).1)
          (fun n => env (n + 1)) (answer op (env 0) s).2

/-- A composition runs its second part where the first one ends. -/
theorem run_bind
    (p : Program Op Ret α) (f : α → Program Op Ret β)
    (env : ℕ → τ) (s : σ) :
    run answer (p >>= f) env s =
      run answer (f (run answer p env s).1)
        (fun n => env (n + (p.entries answer env s).length))
        (run answer p env s).2 := by
  induction p generalizing env s with
  | done a =>
      rfl
  | call op next ih =>
      exact ih _ _ _

theorem entries_bind
    (p : Program Op Ret α) (f : α → Program Op Ret β)
    (env : ℕ → τ) (s : σ) :
    entries answer (p >>= f) env s =
      entries answer p env s ++
        entries answer (f (run answer p env s).1)
          (fun n => env (n + (p.entries answer env s).length))
          (run answer p env s).2 := by
  induction p generalizing env s with
  | done a =>
      rfl
  | call op next ih =>
      exact congrArg (List.cons _) (ih _ _ _)

/-- The world together with the calls it has answered. -/
def logged
    (op : Op) (t : τ) (w : List (Entry Op τ σ) × σ) :
    Ret op × (List (Entry Op τ σ) × σ) :=
  ((answer op t w.2).1, (w.1 ++ [⟨op, t, w.2⟩], (answer op t w.2).2))

/-- The world that keeps a log ends with the entries appended. -/
theorem run_logged
    (p : Program Op Ret α) (env : ℕ → τ) (s : σ)
    (log : List (Entry Op τ σ)) :
    p.run (logged answer) env (log, s) =
      ((p.run answer env s).1,
        (log ++ p.entries answer env s, (p.run answer env s).2)) := by
  induction p generalizing env s log with
  | done a =>
      simp [run, entries]
  | call op next ih =>
      have hlog :
          (log ++ [⟨op, env 0, s⟩]) ++
              entries answer (next (answer op (env 0) s).1)
                (fun n => env (n + 1)) (answer op (env 0) s).2 =
            log ++ entries answer (call op next) env s :=
        List.append_assoc ..
      rw [← hlog]
      exact ih _ _ _ _

/-- Every entry of an execution is a call that the program can make. -/
theorem All.entries
    {kind : Op → Prop} {p : Program Op Ret α} (h : p.All kind)
    (env : ℕ → τ) (s : σ) :
    ∀ e ∈ p.entries answer env s, kind e.op := by
  induction p generalizing env s with
  | done a =>
      intro e he
      cases he
  | call op next ih =>
      obtain ⟨hop, hnext⟩ := h
      intro e he
      rcases List.mem_cons.mp he with rfl | he
      · exact hop
      · exact ih _ (hnext _) _ _ e he

/-! ## Sequences of calls -/

/-- Calls made one after the other, oldest first, and the world after them. -/
inductive Sequence (s₀ : σ) : List (Entry Op τ σ) → σ → Prop
  | start : Sequence s₀ [] s₀
  | call
      {log : List (Entry Op τ σ)} {s : σ}
      (h : Sequence s₀ log s) (op : Op) (t : τ) :
      Sequence s₀ (log ++ [⟨op, t, s⟩]) (answer op t s).2

/-- The entries of given calls. -/
def entriesFrom : List (Op × τ) → σ → List (Entry Op τ σ)
  | [], _ => []
  | (op, t) :: calls, s => ⟨op, t, s⟩ :: entriesFrom calls (answer op t s).2

variable {answer} {s₀ s : σ} {log : List (Entry Op τ σ)}

theorem Sequence.callAll
    (h : Sequence answer s₀ log s) (calls : List (Op × τ)) :
    Sequence answer s₀ (log ++ entriesFrom answer calls s)
      (calls.foldl (fun s call => (answer call.1 call.2 s).2) s) := by
  induction calls generalizing log s with
  | nil =>
      rw [entriesFrom, List.append_nil]
      exact h
  | cons c calls ih =>
      have hrest := ih (h.call c.1 c.2)
      rw [List.append_assoc] at hrest
      exact hrest

/-- A property that every call keeps holds before each call and at the end. -/
theorem Sequence.invariant
    {P : σ → Prop} (h : Sequence answer s₀ log s) (hstart : P s₀)
    (hstep : ∀ op t s, P s → P (answer op t s).2) :
    P s ∧ ∀ e ∈ log, P e.before := by
  induction h with
  | start => exact ⟨hstart, by simp⟩
  | call _ op t ih =>
      obtain ⟨hs, hlog⟩ := ih
      refine ⟨hstep op t _ hs, ?_⟩
      simp only [List.forall_mem_append, List.forall_mem_singleton]
      exact ⟨hlog, hs⟩

/-- What every call does to the world, a sequence has done since each call. -/
theorem Sequence.since
    {R : σ → σ → Prop} (h : Sequence answer s₀ log s)
    (hrefl : ∀ s, R s s) (htrans : ∀ s s' s'', R s s' → R s' s'' → R s s'')
    (hstep : ∀ op t s, R s (answer op t s).2) :
    ∀ e ∈ log, R e.before (answer e.op e.choice e.before).2 ∧
      R (answer e.op e.choice e.before).2 s := by
  induction h with
  | start =>
      intro e he
      cases he
  | call _ op t ih =>
      intro e he
      rcases List.mem_append.mp he with he | he
      · exact ⟨(ih e he).1, htrans _ _ _ (ih e he).2 (hstep op t _)⟩
      · obtain rfl := List.mem_singleton.mp he
        exact ⟨hstep op t _, hrefl _⟩

/-- A property that is kept by exactly the calls that satisfy `Q`. -/
theorem Sequence.forall_iff
    {P : σ → Prop} {Q : Entry Op τ σ → Prop}
    (h : Sequence answer s₀ log s) (hstart : P s₀)
    (hstep : ∀ op t s, P s → (P (answer op t s).2 ↔ Q ⟨op, t, s⟩)) :
    (P s ∧ ∀ e ∈ log, P e.before) ↔ ∀ e ∈ log, Q e := by
  induction h with
  | start => simpa using hstart
  | @call log s _ op t ih =>
      simp only [List.forall_mem_append, List.forall_mem_singleton]
      rw [← ih]
      constructor
      · rintro ⟨hafter, hlog, hs⟩
        exact ⟨⟨hs, hlog⟩, (hstep op t s hs).mp hafter⟩
      · rintro ⟨⟨hs, hlog⟩, hQ⟩
        exact ⟨(hstep op t s hs).mpr hQ, hlog, hs⟩

/-- What holds after a call, in every later world, of the calls that satisfy `Q`. -/
theorem Sequence.afterwards_iff
    {P : Entry Op τ σ → σ → Prop} {Q : Entry Op τ σ → Prop}
    (h : Sequence answer s₀ log s)
    (hinit : ∀ log' s', log' <+: log → Sequence answer s₀ log' s' →
      ∀ e ∈ log', P e s' ↔ Q e) :
    (log.Pairwise (fun e e' => P e e'.before) ∧ ∀ e ∈ log, P e s) ↔
      ∀ e ∈ log, Q e := by
  constructor
  · rintro ⟨-, hnow⟩ e he
    exact (hinit log s (List.prefix_refl _) h e he).mp (hnow e he)
  · intro hQ
    refine ⟨?_, fun e he =>
      (hinit log s (List.prefix_refl _) h e he).mpr (hQ e he)⟩
    induction h with
    | start => exact .nil
    | @call log s h op t ih =>
        have hlog := List.prefix_append log [(⟨op, t, s⟩ : Entry Op τ σ)]
        have hearlier : ∀ e ∈ log, Q e := fun e he =>
          hQ e (List.mem_append_left _ he)
        rw [List.pairwise_append]
        refine ⟨ih (fun log' s' hlog' => hinit log' s' (hlog'.trans hlog))
          hearlier, List.pairwise_singleton _ _, ?_⟩
        intro e he last hlast
        obtain rfl := List.mem_singleton.mp hlast
        exact (hinit log s hlog h e he).mpr (hearlier e he)

end Program

/-! ## The last of two kinds -/

/-- An element satisfies `P`, and none after it satisfies `Q`. -/
def Since (P Q : α → Prop) (l : List α) : Prop :=
  ∃ before a later, l = before ++ a :: later ∧ P a ∧ ∀ b ∈ later, ¬ Q b

theorem since_append
    {P Q : α → Prop} {l : List α} {a : α} :
    Since P Q (l ++ [a]) ↔ P a ∨ Since P Q l ∧ ¬ Q a := by
  constructor
  · rintro ⟨before, b, later, h, hb, hlater⟩
    rcases List.eq_nil_or_concat later with rfl | ⟨later, last, rfl⟩
    · obtain ⟨-, hlast⟩ := List.append_inj' h rfl
      obtain rfl := List.singleton_inj.mp hlast
      exact .inl hb
    · rw [List.concat_eq_append, ← List.cons_append, ← List.append_assoc] at h
      obtain ⟨rfl, hlast⟩ := List.append_inj' h rfl
      obtain rfl := List.singleton_inj.mp hlast
      refine .inr ⟨⟨before, b, later, rfl, hb, ?_⟩, ?_⟩
      · intro c hc
        exact hlater c (by simp [hc])
      · exact hlater a (by simp)
  · rintro (ha | ⟨⟨before, b, later, rfl, hb, hlater⟩, ha⟩)
    · exact ⟨l, a, [], rfl, ha, fun c hc => absurd hc List.not_mem_nil⟩
    · refine ⟨before, b, later ++ [a], by simp, hb, ?_⟩
      intro c hc
      rcases List.mem_append.mp hc with hc | hc
      · exact hlater c hc
      · rwa [List.mem_singleton.mp hc]

end Effects
