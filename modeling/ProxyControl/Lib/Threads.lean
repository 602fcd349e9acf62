import Mathlib.Data.List.Induction
import Mathlib.Data.List.Nodup
import ProxyControl.Lib.Program

/-!
# Threads of finer calls

`implement` replaces every call of a program by a program of its own, so that
threads interleave at the finer calls.

A thread meets a world that the other threads have changed since its last call.
`Reaches` are its executions, with no assumption on what the others do;
`Accounts` is the weakest precondition for them, and speaks of the calls made
and the worlds they met.  `Promises` is the one for threads that rely on an
invariant of the world and keep it.  `Guarantees` also keeps what a thread has
learnt of the world, as far as the others may not undo it.

`Affords` is a discipline on values that calls yield and later calls use up:
a program uses only what it has drawn, and uses it once.  If no value is drawn
twice in a run, what is used is new to the world.
-/

namespace Effects

namespace Program

variable {Op Op' : Type} {Ret : Op → Type} {Ret' : Op' → Type} {α β : Type}

/-- Every call carried out by a program of finer calls. -/
def implement (impl : (op : Op) → Program Op' Ret' (Ret op)) :
    Program Op Ret α → Program Op' Ret' α
  | done a => done a
  | call op next => impl op >>= fun r => implement impl (next r)

theorem implement_bind
    (impl : (op : Op) → Program Op' Ret' (Ret op))
    (p : Program Op Ret α) (f : α → Program Op Ret β) :
    implement impl (p >>= f) =
      implement impl p >>= fun a => implement impl (f a) := by
  induction p with
  | done a =>
      rfl
  | call op next ih =>
      simp only [call_bind, implement, ih]
      exact (bind_assoc _ _ _).symm

/-- The calls of an implementation are those of the calls it carries out. -/
theorem All.implement
    {kind : Op → Prop} {kind' : Op' → Prop}
    {impl : (op : Op) → Program Op' Ret' (Ret op)} {p : Program Op Ret α}
    (h : p.All kind) (himpl : ∀ op, kind op → (impl op).All kind') :
    (p.implement impl).All kind' := by
  induction p with
  | done a =>
      trivial
  | call op next ih =>
      obtain ⟨hop, hnext⟩ := h
      exact (himpl op hop).bind (fun r => ih r (hnext r))

section Interference

variable {τ σ : Type}
variable (answer : (op : Op) → τ → σ → Ret op × σ)

/-- What is left of a program after some calls, each met by any world. -/
inductive Reaches (p : Program Op Ret α) :
    List (Entry Op τ σ) → Program Op Ret α → Prop
  | start : Reaches p [] p
  | call
      {entries : List (Entry Op τ σ)} {op : Op}
      {next : Ret op → Program Op Ret α}
      (h : Reaches p entries (.call op next)) (t : τ) (s : σ) :
      Reaches p (entries ++ [⟨op, t, s⟩]) (next (answer op t s).1)

/-- The calls made and the result satisfy `post`, whatever worlds are met. -/
def Accounts : Program Op Ret α → (List (Entry Op τ σ) → α → Prop) → Prop
  | done a, post => post [] a
  | call op next, post =>
      ∀ t s, Accounts (next (answer op t s).1)
        (fun entries a => post (⟨op, t, s⟩ :: entries) a)

/--
Every call is of a kind and the result is as promised, whatever worlds are met
in which the invariant holds.
-/
def Promises (inv : σ → Prop) (kind : Op → Prop) :
    Program Op Ret α → (α → Prop) → Prop
  | done a, post => post a
  | call op next, post =>
      kind op ∧ ∀ t s, inv s → Promises inv kind (next (answer op t s).1) post

variable {answer}

theorem accounts_bind
    (p : Program Op Ret α) (f : α → Program Op Ret β)
    (post : List (Entry Op τ σ) → β → Prop) :
    Accounts answer (p >>= f) post ↔
      Accounts answer p (fun entries a =>
        Accounts answer (f a) (fun rest b => post (entries ++ rest) b)) := by
  induction p generalizing post with
  | done a =>
      rfl
  | call op next ih =>
      simp only [call_bind, Accounts, ih, List.cons_append]

theorem Accounts.mono
    {p : Program Op Ret α} {post post' : List (Entry Op τ σ) → α → Prop}
    (h : Accounts answer p post)
    (hpost : ∀ entries a, post entries a → post' entries a) :
    Accounts answer p post' := by
  induction p generalizing post post' with
  | done a =>
      exact hpost [] a h
  | call op next ih =>
      intro t s
      exact ih _ (h t s) (fun entries a => hpost (⟨op, t, s⟩ :: entries) a)

theorem accounts_true
    (p : Program Op Ret α) :
    Accounts answer p (fun _ _ => True) := by
  induction p with
  | done a =>
      trivial
  | call op next ih =>
      exact fun t s => ih _

/-- The calls of a program are of the kinds that it can make. -/
theorem All.accounts
    {kind : Op → Prop} {p : Program Op Ret α} (h : p.All kind) :
    Accounts answer p (fun entries _ => ∀ e ∈ entries, kind e.op) := by
  induction p with
  | done a =>
      intro e he
      cases he
  | call op next ih =>
      obtain ⟨hop, hnext⟩ := h
      intro t s
      refine (ih _ (hnext _)).mono ?_
      intro entries a hentries e he
      rcases List.mem_cons.mp he with rfl | he
      · exact hop
      · exact hentries e he

/-- What is accounted for holds of every execution that has ended. -/
theorem Reaches.accounts
    {p : Program Op Ret α} {entries : List (Entry Op τ σ)} {a : α}
    {post : List (Entry Op τ σ) → α → Prop}
    (h : Reaches answer p entries (.done a)) (hpost : Accounts answer p post) :
    post entries a := by
  suffices hrest :
      ∀ sofar rest, Reaches answer p sofar rest →
        Accounts answer rest (fun later b => post (sofar ++ later) b) by
    have hdone := hrest _ _ h
    rwa [Accounts, List.append_nil] at hdone
  intro sofar rest hreaches
  induction hreaches with
  | start =>
      exact hpost
  | call _ t s ih =>
      have hnext := ih t s
      simp only [List.append_assoc, List.singleton_append]
      exact hnext

theorem promises_bind
    {inv : σ → Prop} {kind : Op → Prop}
    (p : Program Op Ret α) (f : α → Program Op Ret β) (post : β → Prop) :
    Promises answer inv kind (p >>= f) post ↔
      Promises answer inv kind p
        (fun a => Promises answer inv kind (f a) post) := by
  induction p with
  | done a =>
      rfl
  | call op next ih =>
      simp only [call_bind, Promises, ih]

theorem Promises.mono
    {inv : σ → Prop} {kind : Op → Prop} {p : Program Op Ret α}
    {post post' : α → Prop} (h : Promises answer inv kind p post)
    (hpost : ∀ a, post a → post' a) :
    Promises answer inv kind p post' := by
  induction p with
  | done a =>
      exact hpost a h
  | call op next ih =>
      exact ⟨h.1, fun t s hs => ih _ (h.2 t s hs)⟩

theorem All.promises
    {inv : σ → Prop} {kind : Op → Prop} {p : Program Op Ret α} {post : α → Prop}
    (h : p.All kind) (hpost : ∀ a, post a) :
    Promises answer inv kind p post := by
  induction p with
  | done a =>
      exact hpost a
  | call op next ih =>
      exact ⟨h.1, fun t s _ => ih _ (h.2 _)⟩

/--
What the threads of a world agree on: an invariant, how the world may grow, what
a call may rely on where it is made, and what it is to be there.
-/
structure Contract (Op σ : Type) where
  inv : σ → Prop
  grows : σ → σ → Prop
  given : Op → σ → Prop
  allowed : Op → σ → Prop

/-- The rules of a contract: growth is a preorder, and allowed calls keep it. -/
structure Contract.Lawful
    (C : Contract Op σ) (answer : (op : Op) → τ → σ → Ret op × σ) : Prop where
  refl : ∀ s, C.grows s s
  trans : ∀ s s' s'', C.grows s s' → C.grows s' s'' → C.grows s s''
  keeps : ∀ op t s, C.inv s → C.given op s → C.allowed op s →
    C.inv (answer op t s).2 ∧ C.grows s (answer op t s).2

variable (answer) in
/--
From a world on, every call is allowed in the world it meets, and the result is
as the postcondition says.
-/
def Guarantees (C : Contract Op σ) :
    Program Op Ret α → σ → (α → σ → Prop) → Prop
  | done a, s, post => post a s
  | call op next, s, post =>
      ∀ s', C.grows s s' → C.inv s' → C.given op s' →
        C.allowed op s' ∧ ∀ t, Guarantees C (next (answer op t s').1)
          (answer op t s').2 post

theorem guarantees_bind
    {C : Contract Op σ} (p : Program Op Ret α) (f : α → Program Op Ret β)
    (s : σ) (post : β → σ → Prop) :
    Guarantees answer C (p >>= f) s post ↔
      Guarantees answer C p s
        (fun a s' => Guarantees answer C (f a) s' post) := by
  induction p generalizing s with
  | done a =>
      rfl
  | call op next ih =>
      simp only [call_bind, Guarantees, ih]

theorem Guarantees.mono
    {C : Contract Op σ} {p : Program Op Ret α} {s : σ}
    {post post' : α → σ → Prop} (h : Guarantees answer C p s post)
    (hpost : ∀ a s', post a s' → post' a s') :
    Guarantees answer C p s post' := by
  induction p generalizing s with
  | done a =>
      exact hpost a s h
  | call op next ih =>
      intro s' hgrows hinv hgiven
      obtain ⟨hallowed, hnext⟩ := h s' hgrows hinv hgiven
      exact ⟨hallowed, fun t => ih _ (hnext t)⟩

/-- Calls that are always allowed, and what is known to last. -/
theorem All.guarantees
    {C : Contract Op σ} (hC : C.Lawful answer) {kind : Op → Prop}
    {p : Program Op Ret α} (h : p.All kind)
    (hkind : ∀ op s, kind op → C.allowed op s) {s : σ}
    {post : α → σ → Prop} (hpost : ∀ a s', C.grows s s' → post a s') :
    Guarantees answer C p s post := by
  induction p generalizing s with
  | done a =>
      exact hpost a s (hC.refl s)
  | call op next ih =>
      intro s' hgrows hinv hgiven
      have hallowed := hkind op s' h.1
      refine ⟨hallowed, fun t => ih _ (h.2 _) ?_⟩
      intro a s'' hgrows'
      refine hpost a s'' (hC.trans _ _ _ hgrows (hC.trans _ _ _ ?_ hgrows'))
      exact (hC.keeps op t s' hinv hgiven hallowed).2

/-- What is left of a program makes the calls that the program can make. -/
theorem Reaches.all
    {kind : Op → Prop} {p rest : Program Op Ret α}
    {entries : List (Entry Op τ σ)}
    (h : Reaches answer p entries rest) (hp : p.All kind) :
    rest.All kind := by
  induction h with
  | start =>
      exact hp
  | call _ t s ih =>
      exact ih.2 _

/-- The calls made are of the kinds that the program can make. -/
theorem Reaches.made
    {kind : Op → Prop} {p rest : Program Op Ret α}
    {entries : List (Entry Op τ σ)}
    (h : Reaches answer p entries rest) (hp : p.All kind) :
    ∀ e ∈ entries, kind e.op := by
  induction h with
  | start =>
      intro e he
      cases he
  | call h t s ih =>
      intro e he
      rcases List.mem_append.mp he with he | he
      · exact ih e he
      · obtain rfl := List.mem_singleton.mp he
        exact (h.all hp).1

/-- A thread that meets the invariant at every call has kept its promise so far. -/
theorem Reaches.promises
    {inv : σ → Prop} {kind : Op → Prop} {p rest : Program Op Ret α}
    {entries : List (Entry Op τ σ)} {post : α → Prop}
    (h : Reaches answer p entries rest)
    (hp : Promises answer inv kind p post)
    (hinv : ∀ e ∈ entries, inv e.before) :
    (∀ e ∈ entries, kind e.op) ∧ Promises answer inv kind rest post := by
  induction h with
  | start =>
      refine ⟨?_, hp⟩
      intro e he
      cases he
  | call _ t s ih =>
      obtain ⟨hmade, hrest⟩ :=
        ih (fun e he => hinv e (List.mem_append_left _ he))
      refine ⟨?_, hrest.2 t s
        (hinv _ (List.mem_append_right _ (List.mem_singleton_self _)))⟩
      intro e he
      rcases List.mem_append.mp he with he | he
      · exact hmade e he
      · obtain rfl := List.mem_singleton.mp he
        exact hrest.1

end Interference

section Drawn

variable {ρ τ σ : Type}
variable (draws : (op : Op) → Ret op → List ρ)
variable (answer : (op : Op) → τ → σ → Ret op × σ)

/-- The values drawn by a sequence of calls. -/
def drawnBy (entries : List (Entry Op τ σ)) : List ρ :=
  entries.flatMap (fun e => draws e.op (answer e.op e.choice e.before).1)

theorem drawnBy_append
    (entries : List (Entry Op τ σ)) (e : Entry Op τ σ) :
    drawnBy draws answer (entries ++ [e]) =
      drawnBy draws answer entries ++
        draws e.op (answer e.op e.choice e.before).1 := by
  simp [drawnBy]

end Drawn

section Drawing

variable {ρ : Type} [BEq ρ]
variable (draws : (op : Op) → Ret op → List ρ) (uses : Op → List ρ)

/-- Every call uses values at hand, and uses them up. -/
def Affords : List ρ → Program Op Ret α → Prop
  | _, done _ => True
  | purse, call op next =>
      uses op ⊆ purse ∧
        ∀ r, Affords (purse.diff (uses op) ++ draws op r) (next r)

variable {draws uses}

/-- A part that neither draws nor uses leaves the purse to what follows. -/
theorem affords_bind_of_all
    {purse : List ρ} {p : Program Op Ret α} {f : α → Program Op Ret β}
    (h : p.All (fun op => uses op = [] ∧ ∀ r, draws op r = []))
    (hf : ∀ a, Affords draws uses purse (f a)) :
    Affords draws uses purse (p >>= f) := by
  induction p with
  | done a =>
      exact hf a
  | call op next ih =>
      obtain ⟨⟨huses, hdraws⟩, hnext⟩ := h
      refine ⟨by simp [huses], ?_⟩
      intro r
      rw [huses, hdraws r, List.diff_nil, List.append_nil]
      exact ih r (hnext r)

/-- A program that uses nothing affords it with any purse. -/
theorem affords_of_all
    {purse : List ρ} {p : Program Op Ret α} (h : p.All (fun op => uses op = [])) :
    Affords draws uses purse p := by
  induction p generalizing purse with
  | done a =>
      trivial
  | call op next ih =>
      obtain ⟨huses, hnext⟩ := h
      exact ⟨by simp [huses], fun r => ih r (hnext r)⟩

/-- What uses nothing may follow. -/
theorem Affords.bind_of_all
    {purse : List ρ} {p : Program Op Ret α} {f : α → Program Op Ret β}
    (h : Affords draws uses purse p)
    (hf : ∀ a, (f a).All (fun op => uses op = [])) :
    Affords draws uses purse (p >>= f) := by
  induction p generalizing purse with
  | done a =>
      exact affords_of_all (hf a)
  | call op next ih =>
      obtain ⟨huses, hnext⟩ := h
      exact ⟨huses, fun r => ih r (hnext r)⟩

section Purse

variable {τ σ : Type} {answer : (op : Op) → τ → σ → Ret op × σ}

variable (answer draws uses)

/-- The values drawn by a sequence of calls and not used up. -/
def purseOf (entries : List (Entry Op τ σ)) : List ρ :=
  entries.foldl (fun purse e =>
    purse.diff (uses e.op) ++ draws e.op (answer e.op e.choice e.before).1) []

variable {answer draws uses}

theorem purseOf_append
    (entries : List (Entry Op τ σ)) (e : Entry Op τ σ) :
    purseOf draws uses answer (entries ++ [e]) =
      (purseOf draws uses answer entries).diff (uses e.op) ++
        draws e.op (answer e.op e.choice e.before).1 := by
  simp [purseOf]

/-- What is left of a program is afforded by what it has drawn. -/
theorem Reaches.affords
    {p rest : Program Op Ret α} {entries : List (Entry Op τ σ)}
    (h : Reaches answer p entries rest) (hp : Affords draws uses [] p) :
    Affords draws uses (purseOf draws uses answer entries) rest := by
  induction h with
  | start =>
      exact hp
  | call _ t s ih =>
      rw [purseOf_append]
      exact ih.2 _

theorem purseOf_subset_drawnBy
    [LawfulBEq ρ] (entries : List (Entry Op τ σ)) :
    purseOf draws uses answer entries ⊆ drawnBy draws answer entries := by
  induction entries using List.reverseRecOn with
  | nil =>
      exact List.Subset.refl _
  | append_singleton entries e ih =>
      rw [purseOf_append, drawnBy_append]
      intro value hvalue
      rcases List.mem_append.mp hvalue with hvalue | hvalue
      · exact List.mem_append_left _ (ih (List.diff_subset _ _ hvalue))
      · exact List.mem_append_right _ hvalue

/-- What a call uses has been drawn before it. -/
theorem Reaches.uses_subset_drawnBy
    [LawfulBEq ρ] {p rest : Program Op Ret α} {entries : List (Entry Op τ σ)}
    (h : Reaches answer p entries rest) (hp : Affords draws uses [] p) :
    ∀ e ∈ entries, uses e.op ⊆ drawnBy draws answer entries := by
  induction h with
  | start =>
      intro e he
      cases he
  | @call entries op next h t s ih =>
      intro e he
      rw [drawnBy_append]
      refine fun value hvalue => List.mem_append_left _ ?_
      rcases List.mem_append.mp he with he | he
      · exact ih e he hvalue
      · obtain rfl := List.mem_singleton.mp he
        exact purseOf_subset_drawnBy entries ((h.affords hp).1 hvalue)

end Purse
end Drawing

end Program

section Middle

variable {β : Type} {before after : List β} {f g : β}

theorem mem_middle : f ∈ before ++ f :: after :=
  List.mem_append_right _ (List.mem_cons_self ..)

/-- What holds of all, and of the one that takes a place, holds of all again. -/
theorem forall_mem_middle
    {P : β → Prop} (h : ∀ x ∈ before ++ f :: after, P x) (hg : P g) :
    ∀ x ∈ before ++ g :: after, P x := by
  intro x hx
  rcases List.mem_cons.mp (List.perm_middle.mem_iff.mp hx) with rfl | hx
  · exact hg
  · exact h x (List.perm_middle.mem_iff.mpr (List.mem_cons_of_mem _ hx))

end Middle

/-- A program in flight: its task, the calls it has made, and what is left. -/
structure Session
    {ι : Type} (Op : Type) (Ret : Op → Type) (α : ι → Type) (τ σ : Type) where
  task : ι
  entries : List (Program.Entry Op τ σ)
  rest : Program Op Ret (α task)

namespace Session

variable {ι Op τ σ : Type} {Ret : Op → Type} {α : ι → Type}

/-- Tasks begin at any time, and their programs interleave at their calls. -/
inductive Run
    (answer : (op : Op) → τ → σ → Ret op × σ)
    (code : (i : ι) → Program Op Ret (α i)) (s₀ : σ) :
    σ → List (Session Op Ret α τ σ) → Prop
  | start : Run answer code s₀ s₀ []
  | arrive
      {s : σ} {threads : List (Session Op Ret α τ σ)}
      (h : Run answer code s₀ s threads) (i : ι) :
      Run answer code s₀ s (threads ++ [⟨i, [], code i⟩])
  | act
      {s : σ} {before after : List (Session Op Ret α τ σ)} {i : ι}
      {entries : List (Program.Entry Op τ σ)} {op : Op}
      {next : Ret op → Program Op Ret (α i)}
      (h : Run answer code s₀ s (before ++ ⟨i, entries, .call op next⟩ :: after))
      (t : τ) :
      Run answer code s₀ (answer op t s).2
        (before ++ ⟨i, entries ++ [⟨op, t, s⟩], next (answer op t s).1⟩ :: after)

variable {answer : (op : Op) → τ → σ → Ret op × σ}
variable {code : (i : ι) → Program Op Ret (α i)} {s₀ : σ}

/-- A thread has done what its task does. -/
theorem Run.reaches
    {s : σ} {threads : List (Session Op Ret α τ σ)}
    (h : Run answer code s₀ s threads) :
    ∀ f ∈ threads, Program.Reaches answer (code f.task) f.entries f.rest := by
  induction h with
  | start =>
      intro f hf
      cases hf
  | arrive _ i ih =>
      intro f hf
      rcases List.mem_append.mp hf with hf | hf
      · exact ih f hf
      · obtain rfl := List.mem_singleton.mp hf
        exact .start
  | act _ t ih =>
      refine forall_mem_middle ih ?_
      exact (ih _ mem_middle).call t _

/--
An invariant that every promised call keeps holds in every run, and every
thread keeps its promise.
-/
theorem Run.promises
    {inv : σ → Prop} {kind : Op → Prop} {post : (i : ι) → α i → Prop}
    (hcode : ∀ i, Program.Promises answer inv kind (code i) (post i))
    (hkeeps : ∀ op t s, kind op → inv s → inv (answer op t s).2)
    (hstart : inv s₀)
    {s : σ} {threads : List (Session Op Ret α τ σ)}
    (h : Run answer code s₀ s threads) :
    inv s ∧ ∀ f ∈ threads,
      Program.Promises answer inv kind f.rest (post f.task) := by
  induction h with
  | start =>
      refine ⟨hstart, ?_⟩
      intro f hf
      cases hf
  | arrive _ i ih =>
      refine ⟨ih.1, ?_⟩
      intro f hf
      rcases List.mem_append.mp hf with hf | hf
      · exact ih.2 f hf
      · obtain rfl := List.mem_singleton.mp hf
        exact hcode i
  | @act s before after i entries op next _ t ih =>
      obtain ⟨hinv, hthreads⟩ := ih
      have hnext := hthreads ⟨i, entries, .call op next⟩ mem_middle
      refine ⟨hkeeps op t s hnext.1 hinv, forall_mem_middle hthreads ?_⟩
      exact hnext.2 t s hinv

/-- What holds of the calls of all threads, and of one more call. -/
theorem forall_entries_act
    {P : ι → Program.Entry Op τ σ → Prop}
    {before after : List (Session Op Ret α τ σ)} {i : ι}
    {entries : List (Program.Entry Op τ σ)} {rest rest' : Program Op Ret (α i)}
    {e : Program.Entry Op τ σ} :
    (∀ f ∈ before ++ ⟨i, entries ++ [e], rest'⟩ :: after,
        ∀ e' ∈ f.entries, P f.task e') ↔
      P i e ∧ ∀ f ∈ before ++ ⟨i, entries, rest⟩ :: after,
        ∀ e' ∈ f.entries, P f.task e' := by
  simp only [List.forall_mem_append, List.forall_mem_cons]
  constructor
  · rintro ⟨hbefore, ⟨hentries, he, -⟩, hafter⟩
    exact ⟨he, hbefore, hentries, hafter⟩
  · rintro ⟨he, hbefore, hentries, hafter⟩
    exact ⟨hbefore, ⟨hentries, he, by simp⟩, hafter⟩

/-- A call leaves the tasks of the threads as they are. -/
theorem forall_task_act
    {P : ι → Prop} {before after : List (Session Op Ret α τ σ)} {i : ι}
    {entries entries' : List (Program.Entry Op τ σ)}
    {rest rest' : Program Op Ret (α i)} :
    (∀ f ∈ before ++ ⟨i, entries', rest'⟩ :: after, P f.task) ↔
      ∀ f ∈ before ++ ⟨i, entries, rest⟩ :: after, P f.task := by
  simp only [List.forall_mem_append, List.forall_mem_cons]

/-- The contract is kept in every run, and every thread stays within it. -/
theorem Run.guarantees
    {C : Program.Contract Op σ} (hC : C.Lawful answer)
    {post : (i : ι) → α i → σ → Prop}
    (hcode : ∀ i s, Program.Guarantees answer C (code i) s (post i))
    (hstart : C.inv s₀)
    {s : σ} {threads : List (Session Op Ret α τ σ)}
    (h : Run answer code s₀ s threads)
    (hgiven : ∀ f ∈ threads, ∀ e ∈ f.entries, C.given e.op e.before) :
    C.inv s ∧ ∀ f ∈ threads, ∃ s', C.grows s' s ∧
      Program.Guarantees answer C f.rest s' (post f.task) := by
  induction h with
  | start =>
      refine ⟨hstart, ?_⟩
      intro f hf
      cases hf
  | @arrive s threads _ i ih =>
      obtain ⟨hinv, hthreads⟩ := ih
        (fun f hf => hgiven f (List.mem_append_left _ hf))
      refine ⟨hinv, ?_⟩
      intro f hf
      rcases List.mem_append.mp hf with hf | hf
      · exact hthreads f hf
      · obtain rfl := List.mem_singleton.mp hf
        exact ⟨s, hC.refl s, hcode i s⟩
  | @act s before after i entries op next _ t ih =>
      obtain ⟨hop, hentries⟩ := (forall_entries_act
        (P := fun _ e => C.given e.op e.before)).mp hgiven
      obtain ⟨hinv, hthreads⟩ := ih hentries
      obtain ⟨s', hgrows, hnext⟩ := hthreads ⟨i, entries, .call op next⟩ mem_middle
      obtain ⟨hallowed, hrest⟩ := hnext s hgrows hinv hop
      obtain ⟨hinv', hgrows'⟩ := hC.keeps op t s hinv hop hallowed
      have hothers : ∀ f ∈ before ++ ⟨i, entries, .call op next⟩ :: after,
          ∃ s'', C.grows s'' (answer op t s).2 ∧
            Program.Guarantees answer C f.rest s'' (post f.task) := by
        intro f hf
        obtain ⟨s'', hgrows'', hguarantees⟩ := hthreads f hf
        exact ⟨s'', hC.trans _ _ _ hgrows'' hgrows', hguarantees⟩
      exact ⟨hinv', forall_mem_middle hothers ⟨_, hC.refl _, hrest t⟩⟩

section Fresh

variable {ρ : Type}
variable (draws : (op : Op) → Ret op → List ρ) (uses : Op → List ρ)

variable (answer) in
/-- What the threads have drawn. -/
def drawnBy (threads : List (Session Op Ret α τ σ)) : List ρ :=
  threads.flatMap (fun f => f.entries.flatMap
    (fun e => draws e.op (answer e.op e.choice e.before).1))

theorem drawnBy_act
    {draws : (op : Op) → Ret op → List ρ}
    {before after : List (Session Op Ret α τ σ)} {i : ι}
    {entries : List (Program.Entry Op τ σ)}
    (rest rest' : Program Op Ret (α i)) (e : Program.Entry Op τ σ) :
    List.Perm
      (drawnBy answer draws (before ++ ⟨i, entries ++ [e], rest'⟩ :: after))
      (draws e.op (answer e.op e.choice e.before).1 ++
        drawnBy answer draws (before ++ ⟨i, entries, rest⟩ :: after)) := by
  simp only [drawnBy, List.flatMap_append, List.flatMap_cons,
    List.flatMap_nil, List.append_nil]
  rw [List.append_assoc, ← List.append_assoc (before.flatMap _),
    ← List.append_assoc (before.flatMap _)]
  exact List.perm_append_comm_assoc _ _ _

variable [BEq ρ]

variable (answer) in
/-- What the threads have drawn and not used up. -/
def heldBy (threads : List (Session Op Ret α τ σ)) : List ρ :=
  threads.flatMap (fun f => Program.purseOf draws uses answer f.entries)

/--
The values held are distinct and no keys of the world; its keys were there at
the start or have been drawn.
-/
structure Unused
    (initial keys : Set ρ) (drawn held : List ρ) : Prop where
  nodup : held.Nodup
  known : ∀ v ∈ held, v ∈ drawn
  unused : ∀ v ∈ held, v ∉ keys
  origin : ∀ v ∈ keys, v ∈ initial ∨ v ∈ drawn

variable {draws uses}

/-- One call uses values of a purse, and draws new ones. -/
theorem Unused.step
    [LawfulBEq ρ]
    {initial keys keys' : Set ρ}
    {drawn drawn' before purse after used new : List ρ}
    (h : Unused initial keys drawn (before ++ (purse ++ after)))
    (hused : used ⊆ purse)
    (hdrawn : List.Perm drawn' (new ++ drawn)) (hnodup : drawn'.Nodup)
    (hinitial : ∀ v ∈ drawn', v ∉ initial)
    (hkeys : ∀ v ∈ keys', v ∈ keys ∨ v ∈ used) :
    Unused initial keys' drawn'
      (before ++ (purse.diff used ++ new ++ after)) := by
  rw [hdrawn.nodup_iff, List.nodup_append'] at hnodup
  obtain ⟨hnew, -, hdisjoint⟩ := hnodup
  have hold : ∀ v ∈ drawn, v ∈ drawn' := fun v hv =>
    hdrawn.mem_iff.mpr (List.mem_append_right _ hv)
  have hheld : List.Perm (before ++ (purse.diff used ++ new ++ after))
      (new ++ (before ++ (purse.diff used ++ after))) := by
    rw [List.append_assoc]
    exact ((List.perm_append_comm_assoc _ _ _).append_left before).trans
      (List.perm_append_comm_assoc _ _ _)
  have hsub : (before ++ (purse.diff used ++ after)).Sublist
      (before ++ (purse ++ after)) :=
    ((List.diff_sublist purse used).append_right after).append_left before
  -- a value that is kept is not one that was used
  have hkept : ∀ v ∈ before ++ (purse.diff used ++ after), v ∉ used := by
    intro v hv hmem
    have hall := h.nodup
    have hpurse := hused hmem
    simp only [List.nodup_append', List.disjoint_append_right] at hall
    obtain ⟨-, ⟨hnodup, -, hafter⟩, hbefore, -⟩ := hall
    rcases List.mem_append.mp hv with hv | hv
    · exact hbefore hv hpurse
    · rcases List.mem_append.mp hv with hv | hv
      · exact (hnodup.mem_sdiff_iff.mp hv).2 hmem
      · exact hafter hpurse hv
  refine ⟨?_, ?_, ?_, ?_⟩
  · rw [hheld.nodup_iff, List.nodup_append']
    refine ⟨hnew, h.nodup.sublist hsub, ?_⟩
    intro v hv hv'
    exact hdisjoint hv (h.known v (hsub.subset hv'))
  · intro v hv
    rcases List.mem_append.mp (hheld.mem_iff.mp hv) with hv | hv
    · exact hdrawn.mem_iff.mpr (List.mem_append_left _ hv)
    · exact hold v (h.known v (hsub.subset hv))
  · intro v hv hkey
    rcases List.mem_append.mp (hheld.mem_iff.mp hv) with hv | hv
    · have hmem : v ∈ drawn' :=
        hdrawn.mem_iff.mpr (List.mem_append_left _ hv)
      rcases hkeys v hkey with hkey | hkey
      · rcases h.origin v hkey with hkey | hkey
        · exact hinitial v hmem hkey
        · exact hdisjoint hv hkey
      · refine hdisjoint hv (h.known v ?_)
        exact List.mem_append_right _ (List.mem_append_left _ (hused hkey))
    · rcases hkeys v hkey with hkey | hkey
      · exact h.unused v (hsub.subset hv) hkey
      · exact hkept v hv hkey
  · intro v hkey
    rcases hkeys v hkey with hkey | hkey
    · exact (h.origin v hkey).imp_right (hold v)
    · refine .inr (hold v (h.known v ?_))
      exact List.mem_append_right _ (List.mem_append_left _ (hused hkey))

/-- If no value is drawn twice, what a call uses is no key of its world. -/
theorem Run.unused
    [LawfulBEq ρ] {keys : σ → Set ρ}
    (hcode : ∀ i, Program.Affords draws uses [] (code i))
    (hkeys : ∀ op t s, ∀ v ∈ keys (answer op t s).2, v ∈ keys s ∨ v ∈ uses op)
    {s : σ} {threads : List (Session Op Ret α τ σ)}
    (h : Run answer code s₀ s threads)
    (hnodup : (drawnBy answer draws threads).Nodup)
    (hinitial : ∀ v ∈ drawnBy answer draws threads, v ∉ keys s₀) :
    Unused (keys s₀) (keys s) (drawnBy answer draws threads)
        (heldBy answer draws uses threads) ∧
      ∀ f ∈ threads, ∀ e ∈ f.entries, ∀ v ∈ uses e.op, v ∉ keys e.before := by
  induction h with
  | start =>
      refine ⟨⟨List.nodup_nil, ?_, ?_, fun v hv => .inl hv⟩, ?_⟩
      · intro v hv
        cases hv
      · intro v hv
        cases hv
      · intro f hf
        cases hf
  | @arrive s threads _ i ih =>
      have hdrawn : drawnBy answer draws (threads ++ [⟨i, [], code i⟩]) =
          drawnBy answer draws threads := by
        simp [drawnBy]
      have hheld : heldBy answer draws uses (threads ++ [⟨i, [], code i⟩]) =
          heldBy answer draws uses threads := by
        simp [heldBy, Program.purseOf]
      rw [hdrawn] at hnodup hinitial ⊢
      rw [hheld]
      obtain ⟨hunused, hentries⟩ := ih hnodup hinitial
      refine ⟨hunused, ?_⟩
      intro f hf e he
      rcases List.mem_append.mp hf with hf | hf
      · exact hentries f hf e he
      · obtain rfl := List.mem_singleton.mp hf
        cases he
  | @act s before after i entries op next hrun t ih =>
      have hperm := @drawnBy_act _ _ _ _ _ _ answer _ draws before after i
        entries (.call op next) (next (answer op t s).1) ⟨op, t, s⟩
      have hold := hnodup
      rw [hperm.nodup_iff] at hold
      obtain ⟨hunused, hentries⟩ := ih hold.of_append_right
        (fun v hv => hinitial v
          (hperm.mem_iff.mpr (List.mem_append_right _ hv)))
      obtain ⟨huses, -⟩ := (hrun.reaches _ mem_middle).affords (hcode i)
      simp only [heldBy, List.flatMap_append, List.flatMap_cons] at hunused
      refine ⟨?_, (forall_entries_act
        (P := fun _ e => ∀ v ∈ uses e.op, v ∉ keys e.before)).mpr
          ⟨?_, hentries⟩⟩
      · have hstep := hunused.step huses hperm hnodup hinitial
          (hkeys op t s)
        simpa only [heldBy, List.flatMap_append, List.flatMap_cons,
          Program.purseOf_append] using hstep
      · intro v hv
        refine hunused.unused v ?_
        exact List.mem_append_right _ (List.mem_append_left _ (huses hv))

end Fresh

/-- One call of the thread at a position, if that thread has not ended. -/
def actAt
    (answer : (op : Op) → τ → σ → Ret op × σ) (t : τ) :
    ℕ → σ → List (Session Op Ret α τ σ) → σ × List (Session Op Ret α τ σ)
  | _, s, [] => (s, [])
  | 0, s, ⟨i, entries, .call op next⟩ :: after =>
      ((answer op t s).2,
        ⟨i, entries ++ [⟨op, t, s⟩], next (answer op t s).1⟩ :: after)
  | 0, s, ⟨i, entries, .done a⟩ :: after => (s, ⟨i, entries, .done a⟩ :: after)
  | n + 1, s, f :: after =>
      ((actAt answer t n s after).1, f :: (actAt answer t n s after).2)

theorem Run.actAt
    {s : σ} (before threads : List (Session Op Ret α τ σ))
    (h : Run answer code s₀ s (before ++ threads)) (t : τ) (n : ℕ) :
    Run answer code s₀ (actAt answer t n s threads).1
      (before ++ (Session.actAt answer t n s threads).2) := by
  induction threads generalizing before n with
  | nil =>
      cases n <;> exact h
  | cons f after ih =>
      cases n with
      | zero =>
          obtain ⟨i, entries, rest⟩ := f
          cases rest with
          | done a => exact h
          | call op next => exact h.act t
      | succ n =>
          have hrest := ih (before ++ [f]) (by simpa using h) n
          simpa [Session.actAt] using hrest

theorem Run.arriveAll
    {s : σ} {threads : List (Session Op Ret α τ σ)}
    (h : Run answer code s₀ s threads) (tasks : List ι) :
    Run answer code s₀ s (threads ++ tasks.map (fun i => ⟨i, [], code i⟩)) := by
  induction tasks generalizing threads with
  | nil => simpa using h
  | cons i tasks ih =>
      have hrest := ih (h.arrive i)
      simpa using hrest

/-- The given tasks, their calls made in the order of a schedule. -/
def scheduled
    (answer : (op : Op) → τ → σ → Ret op × σ)
    (code : (i : ι) → Program Op Ret (α i)) (s₀ : σ)
    (tasks : List ι) (schedule : List (ℕ × τ)) :
    σ × List (Session Op Ret α τ σ) :=
  schedule.foldl (fun w next => Session.actAt answer next.2 next.1 w.1 w.2)
    (s₀, tasks.map (fun i => ⟨i, [], code i⟩))

theorem actAt_tasks
    (t : τ) (n : ℕ) (s : σ) (threads : List (Session Op Ret α τ σ)) :
    (Session.actAt answer t n s threads).2.map Session.task =
      threads.map Session.task := by
  induction threads generalizing n with
  | nil =>
      cases n <;> rfl
  | cons f after ih =>
      cases n with
      | zero =>
          obtain ⟨i, entries, rest⟩ := f
          cases rest <;> rfl
      | succ n => rw [Session.actAt, List.map_cons, ih n, List.map_cons]

/-- The threads before the one that acts stay as they are. -/
theorem take_actAt
    (t : τ) (n : ℕ) (s : σ) (threads : List (Session Op Ret α τ σ)) :
    (Session.actAt answer t n s threads).2.take n = threads.take n := by
  induction threads generalizing n with
  | nil =>
      cases n <;> rfl
  | cons f after ih =>
      cases n with
      | zero => rfl
      | succ n => rw [Session.actAt, List.take_succ_cons, ih n, List.take_succ_cons]

/-- A schedule does not change what the threads are for. -/
theorem scheduled_tasks (tasks : List ι) (schedule : List (ℕ × τ)) :
    (scheduled answer code s₀ tasks schedule).2.map Session.task = tasks := by
  suffices hall : ∀ w : σ × List (Session Op Ret α τ σ),
      (schedule.foldl (fun w next =>
        Session.actAt answer next.2 next.1 w.1 w.2) w).2.map Session.task =
          w.2.map Session.task by
    rw [scheduled, hall, List.map_map]
    exact List.map_id tasks
  induction schedule with
  | nil => exact fun w => rfl
  | cons next schedule ih =>
      intro w
      rw [List.foldl_cons, ih, actAt_tasks]

theorem run_scheduled (tasks : List ι) (schedule : List (ℕ × τ)) :
    Run answer code s₀ (scheduled answer code s₀ tasks schedule).1
      (scheduled answer code s₀ tasks schedule).2 := by
  suffices hall : ∀ (schedule : List (ℕ × τ))
      (w : σ × List (Session Op Ret α τ σ)), Run answer code s₀ w.1 w.2 →
        let w' := schedule.foldl
          (fun w next => Session.actAt answer next.2 next.1 w.1 w.2) w
        Run answer code s₀ w'.1 w'.2 by
    exact hall schedule _ (Run.start.arriveAll tasks)
  intro schedule
  induction schedule with
  | nil => exact fun w h => h
  | cons next schedule ih =>
      intro w h
      exact ih _ (h.actAt [] w.2 next.2 next.1)

end Session
end Effects
