import Mathlib.Data.List.Basic
import Mathlib.Data.List.Infix

/-!
# Self-delimiting codes

A code writes values as lists of symbols.  It can be read from the front of a
longer list when that list shows where the code of the first value ends: two
lists that begin with codes are equal only if the values are equal, and so are
the rests.  Some codes show their end only in front of certain rests, as digits
do in front of what is no digit.

`Delimits` says so of one value, `SelfDelimiting` of a code.  The constructions
of a text are juxtaposition, a list that ends with a symbol of its own, and a
list with separators.
-/

namespace Codes

variable {α β κ : Type}

/-- In front of a rest that may follow, the code of `a` is no other code. -/
def Delimits
    (valid : α → Prop) (follows : List κ → Prop) (code : α → List κ) (a : α) :
    Prop :=
  ∀ b rest rest', valid b → follows rest → follows rest' →
    code a ++ rest = code b ++ rest' → a = b ∧ rest = rest'

/-- A code that can be read from the front of a list. -/
def SelfDelimiting
    (valid : α → Prop) (follows : List κ → Prop) (code : α → List κ) : Prop :=
  ∀ a, valid a → Delimits valid follows code a

variable {valid : α → Prop} {valid' : β → Prop}
variable {follows follows' : List κ → Prop} {code : α → List κ} {a : α}

theorem Delimits.eq_of_code_eq
    (h : Delimits valid follows code a) (hnil : follows []) {b : α}
    (hb : valid b) (heq : code a = code b) :
    a = b :=
  (h b [] [] hb hnil hnil (by rw [heq])).1

/-! ## Codes of single values -/

/-- A code that is nowhere the beginning of another. -/
theorem of_prefixFree
    (h : ∀ a b, valid a → valid b → code a <+: code b → a = b) :
    SelfDelimiting valid follows code := by
  intro a ha b rest rest' hb _ _ heq
  have hprefixes : code a <+: code b ++ rest' := ⟨rest, heq⟩
  have hab : a = b := by
    rcases List.prefix_or_prefix_of_prefix hprefixes (List.prefix_append _ _)
      with hprefix | hprefix
    · exact h a b ha hb hprefix
    · exact (h b a hb ha hprefix).symm
  subst hab
  exact ⟨rfl, List.append_cancel_left heq⟩

/-- A code made of symbols that do not follow it. -/
theorem of_greedy
    {p : κ → Prop} (hall : ∀ a, valid a → ∀ k ∈ code a, p k)
    (hinj : ∀ a b, valid a → valid b → code a = code b → a = b) :
    SelfDelimiting valid (fun rest => ∀ k ∈ rest.head?, ¬ p k) code := by
  -- of two beginnings the longer one goes on with a symbol that may not follow
  have hnil : ∀ a (k : κ) more rest, valid a → code a = more ++ k :: rest →
      p k := by
    intro a k more rest ha heq
    exact hall a ha k (heq ▸ List.mem_append_right _ List.mem_cons_self)
  intro a ha b rest rest' hb hrest hrest' heq
  rcases List.append_eq_append_iff.mp heq with ⟨more, hcode, hmore⟩ |
    ⟨more, hcode, hmore⟩
  · cases more with
    | nil =>
        rw [List.append_nil] at hcode
        exact ⟨hinj a b ha hb hcode.symm, hmore⟩
    | cons k more =>
        subst hmore
        exact absurd (hnil b k (code a) more hb hcode) (hrest k rfl)
  · cases more with
    | nil =>
        rw [List.append_nil] at hcode
        exact ⟨hinj a b ha hb hcode, hmore.symm⟩
    | cons k more =>
        subst hmore
        exact absurd (hnil a k (code b) more ha hcode) (hrest' k rfl)

/-! ## Codes of composed values -/

/-- A symbol in front of a code. -/
theorem Delimits.cons
    (h : Delimits valid follows code a) (k : κ) :
    Delimits valid follows (fun a => k :: code a) a := by
  intro b rest rest' hb hrest hrest' heq
  exact h b rest rest' hb hrest hrest' (List.cons.inj heq).2

/-- One code, and behind it a code that may follow it. -/
theorem Delimits.pair
    {code' : β → List κ} {b : β}
    (ha : Delimits valid follows code a) (hb : Delimits valid' follows' code' b)
    (hb' : valid' b)
    (hfollows : ∀ b rest, valid' b → follows' rest → follows (code' b ++ rest)) :
    Delimits (fun p : α × β => valid p.1 ∧ valid' p.2) follows'
      (fun p => code p.1 ++ code' p.2) (a, b) := by
  rintro ⟨c, d⟩ rest rest' ⟨hc, hd⟩ hrest hrest' heq
  simp only [List.append_assoc] at heq
  obtain ⟨rfl, hsecond⟩ := ha c _ _ hc (hfollows b rest hb' hrest)
    (hfollows d rest' hd hrest') heq
  obtain ⟨rfl, hrests⟩ := hb d rest rest' hd hrest hrest' hsecond
  exact ⟨rfl, hrests⟩

/-- The codes of a list, and a last symbol. -/
def terminated (code : α → List κ) (close : κ) : List α → List κ
  | [] => [close]
  | a :: l => code a ++ terminated code close l

theorem delimits_terminated
    {close : κ} {l : List α}
    (h : ∀ a ∈ l, Delimits valid (fun _ => True) code a)
    (hl : ∀ a ∈ l, valid a)
    (hhead : ∀ a, valid a → ∃ k rest, code a = k :: rest ∧ k ≠ close) :
    Delimits (fun l => ∀ a ∈ l, valid a) (fun _ => True)
      (terminated code close) l := by
  induction l with
  | nil =>
      intro l' rest rest' hl' _ _ heq
      cases l' with
      | nil => exact ⟨rfl, (List.cons.inj heq).2⟩
      | cons b l' =>
          obtain ⟨k, more, hcode, hk⟩ := hhead b (hl' b List.mem_cons_self)
          rw [terminated, terminated, hcode] at heq
          exact absurd (List.cons.inj heq).1.symm hk
  | cons a l ih =>
      intro l' rest rest' hl' _ _ heq
      rw [List.forall_mem_cons] at h hl
      cases l' with
      | nil =>
          obtain ⟨k, more, hcode, hk⟩ := hhead a hl.1
          rw [terminated, terminated, hcode] at heq
          exact absurd (List.cons.inj heq).1 hk
      | cons b l' =>
          rw [List.forall_mem_cons] at hl'
          rw [terminated, terminated, List.append_assoc, List.append_assoc] at heq
          obtain ⟨rfl, hrest⟩ := h.1 b _ _ hl'.1 trivial trivial heq
          obtain ⟨rfl, hrests⟩ := ih h.2 hl.2 l' rest rest' hl'.2 trivial
            trivial hrest
          exact ⟨rfl, hrests⟩

/-- The codes of a list with separators, from the first or a later one on. -/
def separated (code : α → List κ) (sep close : κ) : Bool → List α → List κ
  | _, [] => [close]
  | first, a :: l =>
      (if first then [] else [sep]) ++ (code a ++ separated code sep close false l)

theorem head_separated
    (code : α → List κ) (sep close : κ) (l : List α) :
    ∃ k rest, separated code sep close false l = k :: rest ∧
      (k = sep ∨ k = close) := by
  cases l with
  | nil => exact ⟨close, [], rfl, .inr rfl⟩
  | cons a l => exact ⟨sep, _, rfl, .inl rfl⟩

theorem delimits_separated
    {sep close : κ} {l : List α} {first : Bool}
    (h : ∀ a ∈ l, Delimits valid follows code a) (hl : ∀ a ∈ l, valid a)
    (hhead : ∀ a, valid a → ∃ k rest, code a = k :: rest ∧ k ≠ close)
    (hne : sep ≠ close)
    (hfollows : ∀ k rest, k = sep ∨ k = close → follows (k :: rest)) :
    Delimits (fun l => ∀ a ∈ l, valid a) (fun _ => True)
      (separated code sep close first) l := by
  -- an element is never taken for the last symbol
  have hclose : ∀ first a (l : List α), valid a →
      ∃ k rest, separated code sep close first (a :: l) = k :: rest ∧
        k ≠ close := by
    intro first a l ha
    obtain ⟨k, rest, hcode, hk⟩ := hhead a ha
    cases first with
    | false => exact ⟨sep, _, rfl, hne⟩
    | true =>
        refine ⟨k, rest ++ separated code sep close false l, ?_, hk⟩
        simp [separated, hcode]
  have htail : ∀ l rest, follows (separated code sep close false l ++ rest) := by
    intro l rest
    obtain ⟨k, more, heq, hk⟩ := head_separated code sep close l
    rw [heq]
    exact hfollows k _ hk
  induction l generalizing first with
  | nil =>
      intro l' rest rest' hl' _ _ heq
      cases l' with
      | nil => exact ⟨rfl, (List.cons.inj heq).2⟩
      | cons b l' =>
          obtain ⟨k, more, hcode, hk⟩ := hclose first b l' (hl' b List.mem_cons_self)
          rw [hcode] at heq
          exact absurd (List.cons.inj heq).1.symm hk
  | cons a l ih =>
      intro l' rest rest' hl' _ _ heq
      rw [List.forall_mem_cons] at h hl
      cases l' with
      | nil =>
          obtain ⟨k, more, hcode, hk⟩ := hclose first a l hl.1
          rw [hcode] at heq
          exact absurd (List.cons.inj heq).1 hk
      | cons b l' =>
          rw [List.forall_mem_cons] at hl'
          simp only [separated, List.append_assoc] at heq
          obtain ⟨rfl, hrest⟩ := h.1 b _ _ hl'.1 (htail l rest) (htail l' rest')
            (List.append_cancel_left heq)
          obtain ⟨rfl, hrests⟩ := ih h.2 hl.2 l' rest rest' hl'.2 trivial
            trivial hrest
          exact ⟨rfl, hrests⟩

end Codes
