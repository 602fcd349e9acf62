import Mathlib.Data.List.Basic
import Mathlib.Data.List.Infix

/-!
# A file system with symbolic links

A location is the list of names from an entry up to the root, innermost first.
A tree maps locations to files, directories and symbolic links.

`walk` resolves a path from a directory, component by component: `..` goes to
the parent, and a link is replaced by its target, which is resolved from the
root if it is absolute and from the directory of the link otherwise.  A walk
gives up after a bounded number of links.  `Reaches` is the same resolution as
a relation that keeps account of the links used.

The operations follow the library functions of the same names: each either
succeeds, or is refused and changes nothing.  Those that take several system calls
can also be cut short, by a call that fails on the way or by a crash; `Progress`
says how far they have come, and `createDirAllUntil`, `writeUntil` and
`removeDirAllUntil` what they leave.
-/

namespace FileSystem

/-- Where an entry is: its name, then the names of its ancestors. -/
abbrev Loc : Type :=
  List String

/-- A path without its empty and `.` components. -/
structure Path where
  absolute : Bool
  comps : List String
deriving DecidableEq

namespace Path

def parse (s : String) : Path where
  absolute := s.toList.head? = some '/'
  comps := ((s.toList.splitOn '/').map String.ofList).filter
    (fun c => c ≠ "" && c ≠ ".")

/-- An absolute path replaces what it is joined to. -/
def append (p q : Path) : Path :=
  if q.absolute then q else ⟨p.absolute, p.comps ++ q.comps⟩

def join (p : Path) (s : String) : Path :=
  p.append (parse s)

/-- Where the resolution of a path starts. -/
def base (p : Path) (cwd : Loc) : Loc :=
  if p.absolute then [] else cwd

/-- The path without its last component. -/
def parent (p : Path) : Path :=
  ⟨p.absolute, p.comps.dropLast⟩

/-- The path of an entry of the directory that a path leads to. -/
def child (p : Path) (name : String) : Path :=
  ⟨p.absolute, p.comps ++ [name]⟩

@[simp] theorem child_parent
    (p : Path) (name : String) :
    (p.child name).parent = p := by
  simp [child, parent]

@[simp] theorem child_base
    (p : Path) (name : String) :
    (p.child name).base = p.base := by
  rfl

theorem child_injective
    {p : Path} {name name' : String}
    (h : p.child name = p.child name') :
    name = name' := by
  simpa [child] using h

end Path

/-- A name that stands for itself as a path: one component, not `..`. -/
def Normal (name : String) : Prop :=
  Path.parse name = ⟨false, [name]⟩ ∧ name ≠ ".."

instance (name : String) : Decidable (Normal name) :=
  inferInstanceAs (Decidable (_ ∧ _))

/-- A file name without a slash that is not a dot name. -/
theorem normal_of_no_slash
    {name : String} (hslash : '/' ∉ name.toList) (hempty : name ≠ "")
    (hdot : name ≠ ".") (hdots : name ≠ "..") :
    Normal name := by
  refine ⟨?_, hdots⟩
  have hhead : name.toList.head? ≠ some '/' :=
    fun hhead => hslash (List.mem_of_mem_head? hhead)
  have hsplit : name.toList.splitOn '/' = [name.toList] := by
    rw [List.splitOn_eq_splitOnP]
    refine List.splitOnP_eq_singleton ?_
    intro c hc
    rw [beq_eq_false_iff_ne]
    exact fun heq => hslash (heq ▸ hc)
  simp [Path.parse, hhead, hsplit, hempty, hdot]

theorem Normal.join
    {name : String} (h : Normal name) (p : Path) :
    p.join name = p.child name := by
  simp [Path.join, Path.append, Path.child, h.1]

inductive Node
  | file (bytes : List UInt8)
  | dir
  | link (target : Path)
deriving DecidableEq

/-- The entries of a tree; the first one at a location counts. -/
structure Tree where
  entries : List (Loc × Node)

namespace Tree

def get (t : Tree) (loc : Loc) : Option Node :=
  t.entries.lookup loc

def set (t : Tree) (loc : Loc) (node : Node) : Tree :=
  ⟨(loc, node) :: t.entries⟩

/-- Remove an entry and everything below it. -/
def remove (t : Tree) (loc : Loc) : Tree :=
  ⟨t.entries.filter (fun e => ¬ loc <:+ e.1)⟩

/-- The location `l` below `src`, seen from `dst`. -/
def rebase (src dst l : Loc) : Loc :=
  l.take (l.length - src.length) ++ dst

/-- Move an entry and everything below it, replacing the destination. -/
def move (t : Tree) (src dst : Loc) : Tree :=
  ⟨(t.entries.filter (fun e => src <:+ e.1)).map
      (fun e => (rebase src dst e.1, e.2)) ++
    ((t.remove src).remove dst).entries⟩

/-- Whether nothing lies below a location. -/
def emptyBelow (t : Tree) (loc : Loc) : Bool :=
  t.entries.all (fun e => ¬ (loc <:+ e.1 ∧ e.1 ≠ loc))

/-- A location that is not listed holds nothing. -/
theorem get_eq_none
    {t : Tree} {l : Loc} (h : ∀ e ∈ t.entries, l ≠ e.1) :
    t.get l = none := by
  refine List.lookup_eq_none_iff.mpr ?_
  intro e he
  simpa using h e he

theorem rebase_append
    (src dst p : Loc) :
    rebase src dst (p ++ src) = p ++ dst := by
  simp [rebase]

theorem get_set
    (t : Tree) (loc l : Loc) (node : Node) :
    (t.set loc node).get l = if l = loc then some node else t.get l := by
  simp only [get, set, List.lookup_cons]
  by_cases h : l = loc
  · simp [h]
  · simp [h, beq_false_of_ne h]

theorem lookup_filter
    (keep : Loc → Bool) (entries : List (Loc × Node)) (l : Loc) :
    (entries.filter (fun e => keep e.1)).lookup l =
      if keep l then entries.lookup l else none := by
  induction entries with
  | nil =>
      simp
  | cons e entries ih =>
      obtain ⟨k, v⟩ := e
      by_cases hl : l = k
      · subst hl
        by_cases hk : keep l <;> simp [hk, ih]
      · have hne : (l == k) = false := beq_false_of_ne hl
        by_cases hk : keep k <;> simp [hk, List.lookup_cons, hne, ih]

theorem get_remove
    (t : Tree) (loc l : Loc) :
    (t.remove loc).get l = if loc <:+ l then none else t.get l := by
  have h := lookup_filter (fun k => ¬ loc <:+ k) t.entries l
  by_cases hl : loc <:+ l <;> simpa [get, remove, hl] using h

theorem lookup_rebased
    (src dst : Loc) (entries : List (Loc × Node))
    (hsrc : ∀ e ∈ entries, src <:+ e.1) (l : Loc) :
    (entries.map (fun e => (rebase src dst e.1, e.2))).lookup l =
      if dst <:+ l then entries.lookup (rebase dst src l) else none := by
  induction entries with
  | nil =>
      simp
  | cons e entries ih =>
      obtain ⟨k, v⟩ := e
      have ih := ih (fun e he => hsrc e (List.mem_cons_of_mem _ he))
      obtain ⟨q, rfl⟩ : src <:+ k := hsrc (k, v) (List.mem_cons_self ..)
      simp only [List.map_cons, List.lookup_cons, rebase_append, ih]
      by_cases hl : dst <:+ l
      · obtain ⟨p, rfl⟩ := hl
        rw [rebase_append]
        by_cases hpq : p = q
        · simp [hpq]
        · have hdst : (p ++ dst == q ++ dst) = false :=
            beq_false_of_ne (by simpa using hpq)
          have hsrc : (p ++ src == q ++ src) = false :=
            beq_false_of_ne (by simpa using hpq)
          simp [hdst, hsrc]
      · have hne : (l == q ++ dst) = false := by
          refine beq_false_of_ne ?_
          rintro rfl
          exact hl (List.suffix_append q dst)
        simp [hl, hne]

/-- What a move leaves at every location. -/
theorem get_move
    (t : Tree) (src dst l : Loc) :
    (t.move src dst).get l =
      if dst <:+ l then t.get (rebase dst src l)
      else if src <:+ l then none
      else t.get l := by
  have hsplit :
      (t.move src dst).get l =
        (((t.entries.filter (fun e => src <:+ e.1)).map
          (fun e => (rebase src dst e.1, e.2))).lookup l).or
          (((t.remove src).remove dst).get l) :=
    List.lookup_append
  have hmoved :=
    lookup_rebased src dst (t.entries.filter (fun e => src <:+ e.1))
      (by simp) l
  rw [hsplit, hmoved, get_remove, get_remove]
  by_cases hl : dst <:+ l
  · have hfrom :=
      lookup_filter (fun k => src <:+ k) t.entries (rebase dst src l)
    have hsuffix : src <:+ rebase dst src l :=
      List.suffix_append _ _
    simp only [hsuffix, decide_true, if_true] at hfrom
    simp [hl, hfrom, get]
  · simp [hl]

/-! ## Resolution -/

/-- Follow components from a location; `onLink` goes on after a link. -/
def walkFrom (t : Tree) (onLink : Loc → List String → Option Loc) :
    Loc → List String → Option Loc
  | loc, [] => some loc
  | loc, c :: cs =>
      if t.get loc ≠ some .dir then none
      else if c = ".." then walkFrom t onLink loc.tail cs
      else
        match t.get (c :: loc) with
        | none => none
        | some (.link target) =>
            onLink (target.base loc) (target.comps ++ cs)
        | some _ => walkFrom t onLink (c :: loc) cs

/-- Follow components from a location, through at most `n` links. -/
def walk (t : Tree) : ℕ → Loc → List String → Option Loc
  | 0 => walkFrom t (fun _ _ => none)
  | n + 1 => walkFrom t (walk t n)

/-- The components lead from one location to another through `k` links. -/
inductive Leads (t : Tree) : Loc → List String → ℕ → Loc → Prop
  | here (loc : Loc) :
      Leads t loc [] 0 loc
  | up {loc loc' : Loc} {cs : List String} {k : ℕ}
      (hdir : t.get loc = some .dir)
      (rest : Leads t loc.tail cs k loc') :
      Leads t loc (".." :: cs) k loc'
  | down {loc loc' : Loc} {c : String} {cs : List String} {k : ℕ}
      {node : Node}
      (hdir : t.get loc = some .dir)
      (hname : c ≠ "..")
      (hnode : t.get (c :: loc) = some node)
      (hlink : ∀ target, node ≠ .link target)
      (rest : Leads t (c :: loc) cs k loc') :
      Leads t loc (c :: cs) k loc'
  | link {loc loc' : Loc} {c : String} {cs : List String} {k : ℕ}
      {target : Path}
      (hdir : t.get loc = some .dir)
      (hname : c ≠ "..")
      (hnode : t.get (c :: loc) = some (.link target))
      (rest : Leads t (target.base loc) (target.comps ++ cs) k loc') :
      Leads t loc (c :: cs) (k + 1) loc'

theorem Leads.append
    {t : Tree} {loc mid loc' : Loc} {p q : List String} {k k' : ℕ}
    (h : Leads t loc p k mid) (h' : Leads t mid q k' loc') :
    Leads t loc (p ++ q) (k + k') loc' := by
  induction h with
  | here loc =>
      simpa using h'
  | up hdir _ ih =>
      exact .up hdir (ih h')
  | down hdir hname hnode hlink _ ih =>
      exact .down hdir hname hnode hlink (ih h')
  | @link loc _ c cs k target hdir hname hnode _ ih =>
      have hrest := ih h'
      rw [List.append_assoc] at hrest
      rw [Nat.add_right_comm]
      exact .link hdir hname hnode hrest

/-- Resolution is deterministic. -/
theorem Leads.unique
    {t : Tree} {loc l l' : Loc} {p : List String} {k k' : ℕ}
    (h : Leads t loc p k l) (h' : Leads t loc p k' l') :
    k = k' ∧ l = l' := by
  induction h generalizing k' with
  | here loc =>
      cases h'
      exact ⟨rfl, rfl⟩
  | up hdir _ ih =>
      cases h' with
      | up _ rest => exact ih rest
      | down _ hname => exact absurd rfl hname
      | link _ hname => exact absurd rfl hname
  | down hdir hname hnode hlink _ ih =>
      cases h' with
      | up => exact absurd rfl hname
      | down _ _ _ _ rest => exact ih rest
      | link _ _ hnode' =>
          obtain rfl := Option.some.inj (hnode.symm.trans hnode')
          exact absurd rfl (hlink _)
  | link hdir hname hnode _ ih =>
      cases h' with
      | up => exact absurd rfl hname
      | down _ _ hnode' hlink =>
          obtain rfl := Option.some.inj (hnode.symm.trans hnode')
          exact absurd rfl (hlink _)
      | link _ _ hnode' rest =>
          obtain rfl := Node.link.inj
            (Option.some.inj (hnode.symm.trans hnode'))
          obtain ⟨rfl, rfl⟩ := ih rest
          exact ⟨rfl, rfl⟩

/-- A way along `p ++ q` passes through what `p` leads to. -/
theorem Leads.split
    {t : Tree} {loc l : Loc} {p q : List String} {k : ℕ}
    (h : Leads t loc (p ++ q) k l) :
    ∃ mid i j, Leads t loc p i mid ∧ Leads t mid q j l ∧ k = i + j := by
  generalize hpath : p ++ q = path at h
  induction h generalizing p with
  | here loc =>
      obtain ⟨rfl, rfl⟩ := List.append_eq_nil_iff.mp hpath
      exact ⟨loc, 0, 0, .here loc, .here loc, rfl⟩
  | @up loc l cs k hdir rest ih =>
      cases p with
      | nil =>
          obtain rfl : q = ".." :: cs := hpath
          exact ⟨loc, 0, k, .here loc, .up hdir rest, by omega⟩
      | cons c p =>
          obtain ⟨rfl, htail⟩ := List.cons.inj hpath
          obtain ⟨mid, i, j, hp, hq, rfl⟩ := ih htail
          exact ⟨mid, i, j, .up hdir hp, hq, rfl⟩
  | @down loc l c cs k node hdir hname hnode hlink rest ih =>
      cases p with
      | nil =>
          obtain rfl : q = c :: cs := hpath
          exact ⟨loc, 0, k, .here loc, .down hdir hname hnode hlink rest,
            by omega⟩
      | cons c' p =>
          obtain ⟨rfl, htail⟩ := List.cons.inj hpath
          obtain ⟨mid, i, j, hp, hq, rfl⟩ := ih htail
          exact ⟨mid, i, j, .down hdir hname hnode hlink hp, hq, rfl⟩
  | @link loc l c cs k target hdir hname hnode rest ih =>
      cases p with
      | nil =>
          obtain rfl : q = c :: cs := hpath
          exact ⟨loc, 0, k + 1, .here loc, .link hdir hname hnode rest,
            by omega⟩
      | cons c' p =>
          obtain ⟨rfl, rfl⟩ := List.cons.inj hpath
          obtain ⟨mid, i, j, hp, hq, rfl⟩ :=
            ih (List.append_assoc target.comps p q)
          exact ⟨mid, i + 1, j, .link hdir hname hnode hp, hq, by omega⟩

theorem Leads.of_append
    {t : Tree} {loc mid l : Loc} {p q : List String} {k j : ℕ}
    (h : Leads t loc p k mid) (h' : Leads t loc (p ++ q) j l) :
    ∃ k', j = k + k' ∧ Leads t mid q k' l := by
  obtain ⟨mid', i, k', hp, hq, rfl⟩ := h'.split
  obtain ⟨rfl, rfl⟩ := h.unique hp
  exact ⟨k', rfl, hq⟩

theorem Leads.of_walkFrom
    {t : Tree} {onLink : Loc → List String → Option Loc} {n : ℕ}
    (hlink : ∀ loc cs loc', onLink loc cs = some loc' →
      ∃ k < n, Leads t loc cs k loc')
    {loc loc' : Loc} {cs : List String}
    (h : walkFrom t onLink loc cs = some loc') :
    ∃ k ≤ n, Leads t loc cs k loc' := by
  induction cs generalizing loc with
  | nil =>
      obtain rfl := Option.some.inj h
      exact ⟨0, Nat.zero_le n, .here loc⟩
  | cons c cs ih =>
      rw [walkFrom] at h
      split at h
      · cases h
      rename_i hdir
      have hdir := not_not.mp hdir
      split at h
      · rename_i hup
        obtain ⟨k, hk, hrest⟩ := ih h
        subst hup
        exact ⟨k, hk, .up hdir hrest⟩
      · rename_i hname
        split at h
        · cases h
        · rename_i target hnode
          obtain ⟨k, hk, hrest⟩ := hlink _ _ _ h
          exact ⟨k + 1, hk, .link hdir hname hnode hrest⟩
        · rename_i node hnotLink hnode
          obtain ⟨k, hk, hrest⟩ := ih h
          refine ⟨k, hk, .down hdir hname hnode ?_ hrest⟩
          rintro target rfl
          exact hnotLink target rfl

/-- A way down to what is no link goes on from there. -/
theorem leads_cons
    {t : Tree} {loc l : Loc} {c : String} {cs : List String} {k : ℕ}
    (hc : c ≠ "..") (hlink : ∀ target, t.get (c :: loc) ≠ some (.link target))
    (h : Leads t loc (c :: cs) k l) :
    Leads t (c :: loc) cs k l := by
  cases h with
  | up => exact absurd rfl hc
  | down _ _ _ _ rest => exact rest
  | link _ _ hnode => exact absurd hnode (hlink _)

/-- A way through a link goes on at its target. -/
theorem leads_link
    {t : Tree} {loc l : Loc} {c : String} {cs : List String} {k : ℕ}
    {target : Path} (hc : c ≠ "..")
    (hlink : t.get (c :: loc) = some (.link target))
    (h : Leads t loc (c :: cs) k l) :
    ∃ k', k = k' + 1 ∧
      Leads t (target.base loc) (target.comps ++ cs) k' l := by
  cases h with
  | up => exact absurd rfl hc
  | down _ _ hnode hno =>
      obtain rfl := Option.some.inj (hlink.symm.trans hnode)
      exact absurd rfl (hno _)
  | link _ _ hnode rest =>
      obtain rfl := Node.link.inj (Option.some.inj (hlink.symm.trans hnode))
      exact ⟨_, rfl, rest⟩

/-- `walk` finds what the components lead to if the links suffice. -/
theorem walk_eq_some
    {t : Tree} {n : ℕ} {loc loc' : Loc} {cs : List String} :
    walk t n loc cs = some loc' ↔ ∃ k ≤ n, Leads t loc cs k loc' := by
  constructor
  · intro h
    induction n generalizing loc loc' cs with
    | zero =>
        exact Leads.of_walkFrom (fun _ _ _ h => by cases h) h
    | succ n ih =>
        refine Leads.of_walkFrom (fun _ _ _ h => ?_) h
        obtain ⟨k, hk, hleads⟩ := ih h
        exact ⟨k, by omega, hleads⟩
  · rintro ⟨k, hk, h⟩
    induction h generalizing n with
    | here loc =>
        cases n <;> rfl
    | up hdir _ ih =>
        have hrest := ih hk
        cases n <;> simpa [walk, walkFrom, hdir] using hrest
    | @down loc _ c cs k node hdir hname hnode hlink _ ih =>
        have hrest := ih hk
        cases node with
        | link target => exact absurd rfl (hlink target)
        | _ =>
            cases n <;>
              simpa [walk, walkFrom, hdir, hname, hnode] using hrest
    | link hdir hname hnode _ ih =>
        obtain ⟨n, rfl⟩ : ∃ m, n = m + 1 := ⟨n - 1, by omega⟩
        have hrest := ih (show _ ≤ n by omega)
        simpa [walk, walkFrom, hdir, hname, hnode] using hrest

/-- The second location is strictly below the first. -/
def Below (loc l : Loc) : Prop :=
  loc <:+ l ∧ l ≠ loc

theorem below_cons
    {loc l : Loc} (h : loc <:+ l) (c : String) :
    Below loc (c :: l) := by
  refine ⟨h.trans (List.suffix_cons c l), ?_⟩
  intro heq
  have hlength := h.length_le
  rw [← heq, List.length_cons] at hlength
  omega

theorem Below.of_suffix
    {W loc l : Loc} (h : Below W loc) (hl : loc <:+ l) :
    Below W l := by
  refine ⟨h.1.trans hl, ?_⟩
  rintro rfl
  exact h.2 (hl.eq_of_length_le h.1.length_le)

/-- Nothing is strictly below a location. -/
def Vacant (t : Tree) (loc : Loc) : Prop :=
  ∀ l, Below loc l → t.get l = none

/-- Two trees differ strictly below a location only. -/
def AgreeOutside (loc : Loc) (t t' : Tree) : Prop :=
  ∀ l, ¬ Below loc l → t'.get l = t.get l

theorem AgreeOutside.set
    {W loc : Loc} {t t' : Tree} (h : AgreeOutside W t t')
    (hloc : Below W loc) (node : Node) :
    AgreeOutside W t (t'.set loc node) := by
  intro l hl
  rw [get_set, if_neg, h l hl]
  rintro rfl
  exact hl hloc

theorem AgreeOutside.remove
    {W loc : Loc} {t t' : Tree} (h : AgreeOutside W t t')
    (hloc : Below W loc) :
    AgreeOutside W t (t'.remove loc) := by
  intro l hl
  rw [get_remove, if_neg, h l hl]
  intro hsuffix
  exact hl (hloc.of_suffix hsuffix)

theorem AgreeOutside.move
    {W src dst : Loc} {t t' : Tree} (h : AgreeOutside W t t')
    (hsrc : Below W src) (hdst : Below W dst) :
    AgreeOutside W t (t'.move src dst) := by
  intro l hl
  have hsrc' : ¬ src <:+ l := fun hs => hl (hsrc.of_suffix hs)
  have hdst' : ¬ dst <:+ l := fun hs => hl (hdst.of_suffix hs)
  rw [get_move, if_neg hdst', if_neg hsrc', h l hl]

/--
A way to a vacant directory passes through nothing below it, so whatever is
put there later leaves the way as it is.
-/
theorem Leads.of_agreeOutside
    {t t' : Tree} {W loc : Loc} {p : List String} {k : ℕ}
    (h : Leads t loc p k W)
    (hvacant : t.Vacant W) (hagree : AgreeOutside W t t') :
    Leads t' loc p k W := by
  have hkeep : ∀ {l node}, t.get l = some node → t'.get l = some node := by
    intro l node hl
    rw [hagree l, hl]
    intro hbelow
    rw [hvacant l hbelow] at hl
    cases hl
  induction h with
  | here loc =>
      exact .here loc
  | up hdir _ ih =>
      exact .up (hkeep hdir) (ih hvacant hagree)
  | down hdir hname hnode hlink _ ih =>
      exact .down (hkeep hdir) hname (hkeep hnode) hlink (ih hvacant hagree)
  | link hdir hname hnode _ ih =>
      exact .link (hkeep hdir) hname (hkeep hnode) (ih hvacant hagree)

/-- What a tree has, another has too; only the bytes of files may differ. -/
def Extends (t t' : Tree) : Prop :=
  ∀ l node, t.get l = some node →
    t'.get l = some node ∨
      ∃ old new, node = .file old ∧ t'.get l = some (.file new)

theorem extends_set
    {t : Tree} {loc : Loc} {node : Node}
    (h : t.get loc = none ∨
      ∃ old new, t.get loc = some (.file old) ∧ node = .file new) :
    Extends t (t.set loc node) := by
  intro l node' hl
  rw [get_set]
  by_cases heq : l = loc
  · subst heq
    rcases h with hnone | ⟨old, new, hold, rfl⟩
    · cases hnone.symm.trans hl
    · obtain rfl := Option.some.inj (hold.symm.trans hl)
      exact Or.inr ⟨old, new, rfl, by simp⟩
  · left
    rw [if_neg heq, hl]

theorem Extends.refl (t : Tree) : Extends t t :=
  fun _ _ h => Or.inl h

theorem Extends.trans
    {t t' t'' : Tree} (h : Extends t t') (h' : Extends t' t'') :
    Extends t t'' := by
  intro l node hl
  rcases h l node hl with hsame | ⟨old, new, rfl, hnew⟩
  · exact h' l node hsame
  · rcases h' l _ hnew with hsame | ⟨_, newest, _, hnewest⟩
    · exact Or.inr ⟨old, new, rfl, hsame⟩
    · exact Or.inr ⟨old, newest, rfl, hnewest⟩

/-- Every way through a tree is a way through what extends it. -/
theorem Leads.of_extends
    {t t' : Tree} {loc l : Loc} {p : List String} {k : ℕ}
    (h : Leads t loc p k l) (hext : Extends t t') :
    Leads t' loc p k l := by
  have hdir' : ∀ {l}, t.get l = some .dir → t'.get l = some .dir := by
    intro l hl
    rcases hext l .dir hl with hsame | ⟨_, _, hfile, _⟩
    · exact hsame
    · cases hfile
  induction h with
  | here loc =>
      exact .here loc
  | up hdir _ ih =>
      exact .up (hdir' hdir) ih
  | @down loc _ c _ _ node hdir hname hnode hlink _ ih =>
      rcases hext (c :: loc) node hnode with hsame | ⟨_, new, _, hfile⟩
      · exact .down (hdir' hdir) hname hsame hlink ih
      · exact .down (hdir' hdir) hname hfile (by simp) ih
  | @link loc _ c _ _ target hdir hname hnode _ ih =>
      rcases hext (c :: loc) _ hnode with hsame | ⟨_, _, hfile, _⟩
      · exact .link (hdir' hdir) hname hsame ih
      · cases hfile

end Tree

/-! ## Operations -/

/-- A tree, and the directory that relative paths start from. -/
structure Disk where
  tree : Tree
  cwd : Loc

/-- The number of links one resolution may follow. -/
def linkLimit : ℕ :=
  40

namespace Disk

def get (d : Disk) (loc : Loc) : Option Node :=
  d.tree.get loc

/-- The location a path leads to, a final link followed. -/
def resolve (d : Disk) (p : Path) : Option Loc :=
  d.tree.walk linkLimit (p.base d.cwd) p.comps

/-- The location of the entry that a path names in its parent directory. -/
def named (d : Disk) (p : Path) : Option Loc :=
  match p.comps.getLast? with
  | none => none
  | some name =>
      if name = ".." then none
      else
        match d.resolve p.parent with
        | none => none
        | some loc => if d.get loc = some .dir then some (name :: loc) else none

/-- The path leads to the location, however many links there are on the way. -/
def Reaches (d : Disk) (p : Path) (loc : Loc) : Prop :=
  ∃ k, d.tree.Leads (p.base d.cwd) p.comps k loc

/-- What a path leads to. -/
def metadata (d : Disk) (p : Path) : Option Node :=
  (d.resolve p).bind d.get

def «exists» (d : Disk) (p : Path) : Bool :=
  (d.metadata p).isSome

def isDir (d : Disk) (p : Path) : Bool :=
  d.metadata p = some .dir

/-- What a path leads to, a final link not followed. -/
def symlinkMetadata (d : Disk) (p : Path) : Option Node :=
  match p.comps.getLast? with
  | none => d.metadata p
  | some name =>
      if name = ".." then d.metadata p else (d.named p).bind d.get

def readLink (d : Disk) (p : Path) : Option Path :=
  match d.symlinkMetadata p with
  | some (.link target) => some target
  | _ => none

def readFile (d : Disk) (p : Path) : Option (List UInt8) :=
  match d.metadata p with
  | some (.file bytes) => some bytes
  | _ => none

def set (d : Disk) (loc : Loc) (node : Node) : Disk :=
  { d with tree := d.tree.set loc node }

def removeAt (d : Disk) (loc : Loc) : Disk :=
  { d with tree := d.tree.remove loc }

def moveTo (d : Disk) (src dst : Loc) : Disk :=
  { d with tree := d.tree.move src dst }

/-- A new entry at a path where nothing is. -/
def create (d : Disk) (p : Path) (node : Node) : Option Disk :=
  match d.named p with
  | none => none
  | some loc => if d.get loc = none then some (d.set loc node) else none

def mkdir (d : Disk) (p : Path) : Option Disk :=
  d.create p .dir

def symlink (d : Disk) (target link : Path) : Option Disk :=
  d.create link (.link target)

def createDirAllFrom (d : Disk) (absolute : Bool) :
    List String → Option Disk
  | [] => some d
  | c :: cs =>
      let p : Path := ⟨absolute, (c :: cs).reverse⟩
      if d.isDir p then some d
      else
        match createDirAllFrom d absolute cs with
        | none => none
        | some d' => if d'.isDir p then some d' else d'.mkdir p

/-- Make a directory, and its missing ancestors first. -/
def createDirAll (d : Disk) (p : Path) : Option Disk :=
  d.createDirAllFrom p.absolute p.comps.reverse

/-- Write a file, new or not; a link is written through if it leads to a file. -/
def write (d : Disk) (p : Path) (bytes : List UInt8) : Option Disk :=
  match d.named p with
  | none => none
  | some loc =>
      match d.get loc with
      | none => some (d.set loc (.file bytes))
      | some _ =>
          match d.resolve p with
          | none => none
          | some loc' =>
              match d.get loc' with
              | some (.file _) => some (d.set loc' (.file bytes))
              | _ => none

def removeFile (d : Disk) (p : Path) : Option Disk :=
  match d.named p with
  | none => none
  | some loc =>
      match d.get loc with
      | some (.file _) | some (.link _) => some (d.removeAt loc)
      | _ => none

/-- Remove a directory with all it holds; of a link, the link only. -/
def removeDirAll (d : Disk) (p : Path) : Option Disk :=
  match d.named p with
  | none => none
  | some loc =>
      match d.get loc with
      | some .dir | some (.link _) => some (d.removeAt loc)
      | _ => none

/-- How far an operation comes that is cut short. -/
structure Progress where
  /-- The components of the parent path that are there by then. -/
  made : ℕ
  /-- The bytes that are written, once the file is open. -/
  written : Option ℕ
  /-- The entries that are gone, as seen from the directory to be removed. -/
  removed : List Loc

/-- The directories are made from the top, the last one not yet. -/
def createDirAllUntil (d : Disk) (progress : Progress) (p : Path) : Disk :=
  (d.createDirAll ⟨p.absolute, p.parent.comps.take progress.made⟩).getD d

/-- The file is opened, which empties it, and then written. -/
def writeUntil
    (d : Disk) (progress : Progress) (p : Path) (bytes : List UInt8) : Disk :=
  match progress.written with
  | none => d
  | some n => (d.write p (bytes.take n)).getD d

def removeEntries (d : Disk) (loc : Loc) (removed : List Loc) : Disk :=
  removed.foldl (fun d entry => d.removeAt (entry ++ loc)) d

/-- What the directory holds goes before the directory itself. -/
def removeDirAllUntil (d : Disk) (progress : Progress) (p : Path) : Disk :=
  match d.named p with
  | none => d
  | some loc =>
      if d.get loc = some .dir then
        d.removeEntries loc (progress.removed.filter (fun entry => entry ≠ []))
      else d

/-- Whether an entry may take the place of another. -/
def replaces (d : Disk) (dst : Loc) (node : Node) : Option Node → Bool
  | none => true
  | some .dir => node = .dir && d.tree.emptyBelow dst
  | some _ => node ≠ .dir

def rename (d : Disk) (src dst : Path) : Option Disk :=
  match d.named src, d.named dst with
  | some s, some e =>
      match d.get s with
      | none => none
      | some node =>
          if s = e then some d
          else if s <:+ e ∨ e <:+ s then none
          else if d.replaces e node (d.get e) then some (d.moveTo s e)
          else none
  | _, _ => none

@[simp] theorem cwd_set
    (d : Disk) (loc : Loc) (node : Node) :
    (d.set loc node).cwd = d.cwd := by
  rfl

@[simp] theorem cwd_removeAt
    (d : Disk) (loc : Loc) :
    (d.removeAt loc).cwd = d.cwd := by
  rfl

@[simp] theorem cwd_moveTo
    (d : Disk) (src dst : Loc) :
    (d.moveTo src dst).cwd = d.cwd := by
  rfl

theorem get_set
    (d : Disk) (loc l : Loc) (node : Node) :
    (d.set loc node).get l = if l = loc then some node else d.get l :=
  Tree.get_set d.tree loc l node

theorem get_removeAt
    (d : Disk) (loc l : Loc) :
    (d.removeAt loc).get l = if loc <:+ l then none else d.get l :=
  Tree.get_remove d.tree loc l

theorem get_moveTo
    (d : Disk) (src dst l : Loc) :
    (d.moveTo src dst).get l =
      if dst <:+ l then d.get (Tree.rebase dst src l)
      else if src <:+ l then none
      else d.get l :=
  Tree.get_move d.tree src dst l

/-! ### Entries of a known directory

The rules below are about an entry `c` of the directory at `loc`, which a path
`p` leads to; nothing else is needed to reason about operations on `p.child c`.
-/

/-- The path leads to a directory at the location. -/
structure DirAt (d : Disk) (p : Path) (loc : Loc) : Prop where
  resolve : d.resolve p = some loc
  dir : d.get loc = some .dir

variable {d : Disk} {p : Path} {loc : Loc} {c : String}

theorem named_child
    (h : d.DirAt p loc) (hc : c ≠ "..") :
    d.named (p.child c) = some (c :: loc) := by
  have hlast : (p.child c).comps.getLast? = some c := by
    simp [Path.child]
  simp [named, hlast, hc, h.resolve, h.dir]

theorem symlinkMetadata_child
    (h : d.DirAt p loc) (hc : c ≠ "..") :
    d.symlinkMetadata (p.child c) = d.get (c :: loc) := by
  have hlast : (p.child c).comps.getLast? = some c := by
    simp [Path.child]
  simp [symlinkMetadata, hlast, hc, named_child h hc]

theorem symlinkMetadata_child_of_none
    (h : d.resolve p = none) (hc : c ≠ "..") :
    d.symlinkMetadata (p.child c) = none := by
  have hlast : (p.child c).comps.getLast? = some c := by
    simp [Path.child]
  simp [symlinkMetadata, named, hlast, hc, h]

theorem resolve_child_eq_some
    (h : d.DirAt p loc) (hc : c ≠ "..")
    {node : Node} (hnode : d.get (c :: loc) = some node)
    (hlink : ∀ target, node ≠ .link target) :
    d.resolve (p.child c) = some (c :: loc) := by
  obtain ⟨k, hk, hleads⟩ := Tree.walk_eq_some.mp h.resolve
  refine Tree.walk_eq_some.mpr ⟨k, hk, ?_⟩
  exact hleads.append
    (.down h.dir hc hnode hlink (.here (c :: loc)))

theorem resolve_child_eq_none
    (h : d.DirAt p loc) (hc : c ≠ "..")
    (hnone : d.get (c :: loc) = none) :
    d.resolve (p.child c) = none := by
  obtain ⟨k, hk, hleads⟩ := Tree.walk_eq_some.mp h.resolve
  cases hresolve : d.resolve (p.child c) with
  | none =>
      rfl
  | some loc' =>
      obtain ⟨j, hj, hleads'⟩ := Tree.walk_eq_some.mp hresolve
      obtain ⟨_, _, hlast⟩ := hleads.of_append hleads'
      cases hlast with
      | up => exact absurd rfl hc
      | down _ _ hnode => cases hnone.symm.trans hnode
      | link _ _ hnode => cases hnone.symm.trans hnode

theorem resolve_child_of_none
    (h : d.resolve p = none) :
    d.resolve (p.child c) = none := by
  cases hresolve : d.resolve (p.child c) with
  | none =>
      rfl
  | some loc' =>
      obtain ⟨k, hk, hleads⟩ := Tree.walk_eq_some.mp hresolve
      obtain ⟨mid, i, j, hp, -, rfl⟩ := Tree.Leads.split hleads
      have hsome : d.resolve p = some mid :=
        Tree.walk_eq_some.mpr ⟨i, by omega, hp⟩
      cases h.symm.trans hsome

theorem dirAt_child
    (h : d.DirAt p loc) (hc : c ≠ "..")
    (hdir : d.get (c :: loc) = some .dir) :
    d.DirAt (p.child c) (c :: loc) :=
  ⟨resolve_child_eq_some h hc hdir (by simp), hdir⟩

theorem metadata_child
    (h : d.DirAt p loc) (hc : c ≠ "..")
    (hlink : ∀ target, d.get (c :: loc) ≠ some (.link target)) :
    d.metadata (p.child c) = d.get (c :: loc) := by
  cases hnode : d.get (c :: loc) with
  | none =>
      simp [metadata, resolve_child_eq_none h hc hnode]
  | some node =>
      have hresolve :=
        resolve_child_eq_some h hc hnode
          (fun target hn => hlink target (by rw [hnode, hn]))
      simp [metadata, hresolve, hnode]

theorem readLink_child
    (h : d.DirAt p loc) (hc : c ≠ "..") :
    d.readLink (p.child c) =
      match d.get (c :: loc) with
      | some (.link target) => some target
      | _ => none := by
  rw [readLink, symlinkMetadata_child h hc]

theorem create_child
    (h : d.DirAt p loc) (hc : c ≠ "..")
    (hnone : d.get (c :: loc) = none) (node : Node) :
    d.create (p.child c) node = some (d.set (c :: loc) node) := by
  simp [create, named_child h hc, hnone]

theorem create_child_fails
    (h : d.DirAt p loc) (hc : c ≠ "..")
    (hsome : d.get (c :: loc) ≠ none) (node : Node) :
    d.create (p.child c) node = none := by
  simp [create, named_child h hc, hsome]

theorem createDirAll_of_dirAt
    (h : d.DirAt p loc) :
    d.createDirAll p = some d := by
  have hdir : d.isDir ⟨p.absolute, p.comps.reverse.reverse⟩ = true := by
    simp [isDir, metadata, h.resolve, h.dir]
  rw [createDirAll]
  cases hcomps : p.comps.reverse with
  | nil =>
      rfl
  | cons c cs =>
      rw [hcomps] at hdir
      rw [createDirAllFrom, if_pos hdir]

theorem createDirAll_child
    (d : Disk) (p : Path) (c : String) :
    d.createDirAll (p.child c) =
      if d.isDir (p.child c) then some d
      else
        match d.createDirAll p with
        | none => none
        | some d' =>
            if d'.isDir (p.child c) then some d'
            else d'.mkdir (p.child c) := by
  simp only [createDirAll, createDirAllFrom, Path.child,
    List.reverse_append, List.reverse_cons, List.reverse_nil,
    List.nil_append, List.singleton_append, List.reverse_reverse]
  rfl

theorem resolve_of_extends
    {d' : Disk} {l : Loc}
    (h : d.resolve p = some l) (hcwd : d'.cwd = d.cwd)
    (hext : Tree.Extends d.tree d'.tree) :
    d'.resolve p = some l := by
  obtain ⟨k, hk, hleads⟩ := Tree.walk_eq_some.mp h
  refine Tree.walk_eq_some.mpr ⟨k, hk, ?_⟩
  rw [hcwd]
  exact hleads.of_extends hext

theorem DirAt.of_extends
    {d' : Disk}
    (h : d.DirAt p loc) (hcwd : d'.cwd = d.cwd)
    (hext : Tree.Extends d.tree d'.tree) :
    d'.DirAt p loc := by
  refine ⟨resolve_of_extends h.resolve hcwd hext, ?_⟩
  rcases hext loc .dir h.dir with hsame | ⟨_, _, hfile, _⟩
  · exact hsame
  · cases hfile

theorem createDirAll_new
    (h : d.DirAt p loc) (hc : c ≠ "..")
    (hnone : d.get (c :: loc) = none) :
    d.createDirAll (p.child c) = some (d.set (c :: loc) .dir) := by
  have hdir : d.isDir (p.child c) = false := by
    simp [isDir, metadata, resolve_child_eq_none h hc hnone]
  simp [createDirAll_child, hdir, createDirAll_of_dirAt h, mkdir,
    create_child h hc hnone]

/-- What leads to a directory passes through directories. -/
theorem dirAt_take
    (h : d.DirAt p loc) (n : ℕ) :
    ∃ mid, d.DirAt ⟨p.absolute, p.comps.take n⟩ mid := by
  obtain ⟨k, hk, hleads⟩ := Tree.walk_eq_some.mp h.resolve
  rw [← List.take_append_drop n p.comps] at hleads
  obtain ⟨mid, i, j, hbefore, hafter, rfl⟩ := hleads.split
  refine ⟨mid, Tree.walk_eq_some.mpr ⟨i, by omega, hbefore⟩, ?_⟩
  generalize p.comps.drop n = rest at hafter
  cases hafter with
  | here => exact h.dir
  | up hdir => exact hdir
  | down hdir => exact hdir
  | link hdir => exact hdir

theorem createDirAllUntil_child
    (h : d.DirAt p loc) (progress : Progress) :
    d.createDirAllUntil progress (p.child c) = d := by
  obtain ⟨mid, hmid⟩ := dirAt_take h progress.made
  rw [createDirAllUntil, Path.child_parent]
  show (d.createDirAll ⟨p.absolute, p.comps.take progress.made⟩).getD d = d
  rw [createDirAll_of_dirAt hmid]
  rfl

/-- The directory to be made may be without its parent, or have it by then. -/
theorem createDirAllUntil_child₂
    {b : String} (h : d.DirAt p loc) (progress : Progress) :
    d.createDirAllUntil progress ((p.child c).child b) = d ∨
      d.createDirAllUntil progress ((p.child c).child b) =
        (d.createDirAll (p.child c)).getD d := by
  rw [createDirAllUntil, Path.child_parent]
  show (d.createDirAll ⟨p.absolute, (p.comps ++ [c]).take progress.made⟩).getD d =
      d ∨ (d.createDirAll ⟨p.absolute, (p.comps ++ [c]).take progress.made⟩).getD
        d = (d.createDirAll ⟨p.absolute, p.comps ++ [c]⟩).getD d
  rcases Nat.lt_or_ge p.comps.length progress.made with hlong | hshort
  · right
    rw [List.take_of_length_le (by rw [List.length_append]; exact hlong)]
  · left
    obtain ⟨mid, hmid⟩ := dirAt_take h progress.made
    rw [List.take_append_of_le_length hshort, createDirAll_of_dirAt hmid]
    rfl

/-- Two directories are missing. -/
theorem createDirAll_new₂
    {b : String}
    (h : d.DirAt p loc) (hc : c ≠ "..") (hb : b ≠ "..")
    (hnone : d.get (c :: loc) = none)
    (hnone' : d.get (b :: c :: loc) = none) :
    d.createDirAll ((p.child c).child b) =
      some ((d.set (c :: loc) .dir).set (b :: c :: loc) .dir) := by
  have hmissing : d.isDir ((p.child c).child b) = false := by
    have hresolve : d.resolve ((p.child c).child b) = none :=
      resolve_child_of_none (resolve_child_eq_none h hc hnone)
    simp [isDir, metadata, hresolve]
  have hparent : (d.set (c :: loc) .dir).DirAt (p.child c) (c :: loc) := by
    refine dirAt_child (h.of_extends rfl ?_) hc (by simp [get_set])
    exact Tree.extends_set (Or.inl hnone)
  have hnone'' : (d.set (c :: loc) .dir).get (b :: c :: loc) = none := by
    simpa [get_set] using hnone'
  have hmissing' :
      (d.set (c :: loc) .dir).isDir ((p.child c).child b) = false := by
    simp [isDir, metadata, resolve_child_eq_none hparent hb hnone'']
  simp [createDirAll_child d (p.child c) b, hmissing,
    createDirAll_new h hc hnone, hmissing', mkdir,
    create_child hparent hb hnone'']

theorem write_child
    (h : d.DirAt p loc) (hc : c ≠ "..")
    (hfile : d.get (c :: loc) = none ∨
      ∃ old, d.get (c :: loc) = some (.file old))
    (bytes : List UInt8) :
    d.write (p.child c) bytes = some (d.set (c :: loc) (.file bytes)) := by
  rcases hfile with hnone | ⟨old, hold⟩
  · simp [write, named_child h hc, hnone]
  · have hresolve := resolve_child_eq_some h hc hold (by simp)
    simp [write, named_child h hc, hold, hresolve]

theorem removeFile_child
    (h : d.DirAt p loc) (hc : c ≠ "..")
    {target : Path} (hlink : d.get (c :: loc) = some (.link target)) :
    d.removeFile (p.child c) = some (d.removeAt (c :: loc)) := by
  simp [removeFile, named_child h hc, hlink]

theorem removeDirAll_child
    (h : d.DirAt p loc) (hc : c ≠ "..")
    (hdir : d.get (c :: loc) = some .dir) :
    d.removeDirAll (p.child c) = some (d.removeAt (c :: loc)) := by
  simp [removeDirAll, named_child h hc, hdir]

theorem removeDirAllUntil_child
    (h : d.DirAt p loc) (hc : c ≠ "..") (hdir : d.get (c :: loc) = some .dir)
    (progress : Progress) :
    d.removeDirAllUntil progress (p.child c) =
      d.removeEntries (c :: loc)
        (progress.removed.filter (fun entry => entry ≠ [])) := by
  rw [removeDirAllUntil, named_child h hc]
  simp only [hdir, if_true]

theorem rename_child
    {p' : Path} {loc' : Loc} {c' : String} {node : Node}
    (h : d.DirAt p loc) (hc : c ≠ "..")
    (h' : d.DirAt p' loc') (hc' : c' ≠ "..")
    (hsrc : d.get (c :: loc) = some node)
    (hapart : ¬ (c :: loc <:+ c' :: loc' ∨ c' :: loc' <:+ c :: loc)) :
    d.rename (p.child c) (p'.child c') =
      if d.replaces (c' :: loc') node (d.get (c' :: loc')) then
        some (d.moveTo (c :: loc) (c' :: loc'))
      else none := by
  have hne : ¬ c :: loc = c' :: loc' := by
    intro heq
    exact hapart (Or.inl (heq ▸ List.suffix_rfl))
  rw [rename, named_child h hc, named_child h' hc']
  simp only [hsrc]
  rw [if_neg hne, if_neg hapart]

/-! ### What operations keep -/

theorem extends_create
    {d' : Disk} {node : Node} (h : d.create p node = some d') :
    Tree.Extends d.tree d'.tree := by
  unfold create at h
  split at h
  · cases h
  · split at h
    · rename_i hnone
      obtain rfl := Option.some.inj h
      exact Tree.extends_set (Or.inl hnone)
    · cases h

theorem extends_createDirAllFrom
    {absolute : Bool} {comps : List String} {d' : Disk}
    (h : d.createDirAllFrom absolute comps = some d') :
    Tree.Extends d.tree d'.tree := by
  induction comps generalizing d' with
  | nil =>
      obtain rfl := Option.some.inj h
      exact Tree.Extends.refl _
  | cons c comps ih =>
      rw [createDirAllFrom] at h
      split at h
      · obtain rfl := Option.some.inj h
        exact Tree.Extends.refl _
      · split at h
        · cases h
        · rename_i d₁ hparent
          split at h
          · obtain rfl := Option.some.inj h
            exact ih hparent
          · exact (ih hparent).trans (extends_create h)

/-- Making directories adds to the tree and changes nothing. -/
theorem extends_createDirAll
    {d' : Disk} (h : d.createDirAll p = some d') :
    Tree.Extends d.tree d'.tree :=
  extends_createDirAllFrom h

/-- Writing a file changes no more than the bytes of a file. -/
theorem extends_write
    {d' : Disk} {bytes : List UInt8} (h : d.write p bytes = some d') :
    Tree.Extends d.tree d'.tree := by
  unfold write at h
  split at h
  · cases h
  · split at h
    · rename_i hnone
      obtain rfl := Option.some.inj h
      exact Tree.extends_set (Or.inl hnone)
    · split at h
      · cases h
      · split at h
        · rename_i old hold
          obtain rfl := Option.some.inj h
          exact Tree.extends_set (Or.inr ⟨old, bytes, hold, rfl⟩)
        · cases h

theorem extends_createDirAllUntil (d : Disk) (progress : Progress) (p : Path) :
    Tree.Extends d.tree (d.createDirAllUntil progress p).tree := by
  unfold createDirAllUntil
  cases hmade :
      d.createDirAll ⟨p.absolute, p.parent.comps.take progress.made⟩ with
  | none => exact Tree.Extends.refl _
  | some d' => exact extends_createDirAll hmade

theorem extends_writeUntil
    (d : Disk) (progress : Progress) (p : Path) (bytes : List UInt8) :
    Tree.Extends d.tree (d.writeUntil progress p bytes).tree := by
  unfold writeUntil
  cases progress.written with
  | none => exact Tree.Extends.refl _
  | some n =>
      cases hwritten : d.write p (bytes.take n) with
      | none =>
          simp only [hwritten]
          exact Tree.Extends.refl _
      | some d' =>
          simp only [hwritten]
          exact extends_write hwritten

theorem DirAt.reaches
    (h : d.DirAt p loc) :
    d.Reaches p loc := by
  obtain ⟨k, -, hleads⟩ := Tree.walk_eq_some.mp h.resolve
  exact ⟨k, hleads⟩

/-- A path reaches one location at most. -/
theorem Reaches.unique
    {loc' : Loc} (h : d.Reaches p loc) (h' : d.Reaches p loc') :
    loc = loc' := by
  obtain ⟨k, hleads⟩ := h
  obtain ⟨k', hleads'⟩ := h'
  exact (hleads.unique hleads').2

/-- A directory stays where it is when only what is below it changes. -/
theorem DirAt.of_agreeOutside
    {d₀ : Disk} {W : Loc}
    (h : d₀.DirAt p W) (hvacant : d₀.tree.Vacant W)
    (hcwd : d.cwd = d₀.cwd)
    (hagree : Tree.AgreeOutside W d₀.tree d.tree) :
    d.DirAt p W := by
  obtain ⟨k, hk, hleads⟩ := Tree.walk_eq_some.mp h.resolve
  refine ⟨Tree.walk_eq_some.mpr ⟨k, hk, ?_⟩, ?_⟩
  · rw [hcwd]
    exact hleads.of_agreeOutside hvacant hagree
  · exact (hagree W (fun hbelow => hbelow.2 rfl)).trans h.dir

end Disk
end FileSystem
