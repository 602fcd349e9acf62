import Mathlib.Data.List.Induction
import Mathlib.Data.List.Nodup
import Mathlib.Order.Lattice
import Mathlib.Order.BoundedOrder.Basic

/-!
# Sequenced mailboxes

A mailbox is a queue with one reader.  A push appends an entry; a poll first
drops the entries at the front whose key is not above the highest key delivered
so far, then delivers the front.

A dropped entry is lost.  Whatever the order of pushes and polls, the entries
delivered or still queued are a sublist of the pushed ones, delivered in
increasing order; and they are all of them exactly when the keys were pushed in
increasing order (`delivered_append_queue`, `inOrder_of_drained`).
-/

namespace Mailbox

variable {α κ : Type} [LinearOrder κ] [OrderBot κ] (key : α → κ)

/-- The queue, and what has been pushed and delivered so far. -/
structure State (α : Type) where
  queue : List α
  pushed : List α
  delivered : List α

inductive Event (α : Type)
  | push (a : α)
  | poll

/-- The highest key of a list. -/
def highest (l : List α) : κ :=
  (l.map key).foldr max ⊥

/-- The queue without the stale entries at its front. -/
def fresh (bound : κ) (queue : List α) : List α :=
  queue.dropWhile (fun a => key a ≤ bound)

def step (s : State α) : Event α → State α
  | .push a =>
      { s with queue := s.queue ++ [a], pushed := s.pushed ++ [a] }
  | .poll =>
      let queue := fresh key (highest key s.delivered) s.queue
      { s with
        queue := queue.tail
        delivered := s.delivered ++ queue.head?.toList }

/-- The state after a sequence of events, oldest first. -/
def run (events : List (Event α)) : State α :=
  events.foldl (step key) ⟨[], [], []⟩

/-- The keys increase along the list, from above the least key. -/
def InOrder (l : List α) : Prop :=
  (∀ a ∈ l, ⊥ < key a) ∧ (l.map key).Pairwise (· < ·)

theorem run_append
    (events : List (Event α)) (e : Event α) :
    run key (events ++ [e]) = step key (run key events) e := by
  simp [run]

theorem head_append_tail
    (l : List α) :
    l.head?.toList ++ l.tail = l := by
  cases l <;> rfl

theorem le_highest
    {l : List α} {a : α} (h : a ∈ l) :
    key a ≤ highest key l := by
  induction l with
  | nil =>
      cases h
  | cons b l ih =>
      rcases List.mem_cons.mp h with rfl | h
      · exact le_max_left _ _
      · exact (ih h).trans (le_max_right _ _)

theorem highest_lt
    {l : List α} {k : κ} (hk : ⊥ < k) (h : ∀ a ∈ l, key a < k) :
    highest key l < k := by
  induction l with
  | nil =>
      exact hk
  | cons b l ih =>
      exact max_lt (h b (by simp)) (ih (fun a ha => h a (by simp [ha])))

/-! ## Every run -/

/-- Nothing is delivered twice or out of the order of the pushes. -/
theorem sublist_pushed
    (events : List (Event α)) :
    ((run key events).delivered ++ (run key events).queue).Sublist
      (run key events).pushed := by
  induction events using List.reverseRecOn with
  | nil =>
      exact List.Sublist.refl _
  | append_singleton events e ih =>
      rw [run_append]
      cases e with
      | push a =>
          simp only [step, ← List.append_assoc]
          exact ih.append (List.Sublist.refl _)
      | poll =>
          simp only [step, List.append_assoc, head_append_tail]
          refine List.Sublist.trans ?_ ih
          exact (List.Sublist.refl _).append (List.dropWhile_sublist _)

omit [OrderBot κ] in
/-- The front that a poll delivers is above everything delivered before. -/
theorem bound_lt_of_mem_head_fresh
    {bound : κ} {queue : List α} {a : α}
    (h : a ∈ (fresh key bound queue).head?) :
    bound < key a := by
  have hne : fresh key bound queue ≠ [] := by
    intro hnil
    rw [hnil] at h
    cases h
  have hhead := List.head_dropWhile_not
    (fun a => decide (key a ≤ bound)) (by exact hne)
  rw [Option.mem_def, List.head?_eq_some_head hne] at h
  obtain rfl := Option.some.inj h
  simpa [fresh] using hhead

/-- Deliveries come in increasing order. -/
theorem delivered_increasing
    (events : List (Event α)) :
    ((run key events).delivered.map key).Pairwise (· < ·) := by
  induction events using List.reverseRecOn with
  | nil =>
      exact List.Pairwise.nil
  | append_singleton events e ih =>
      rw [run_append]
      cases e with
      | push a =>
          exact ih
      | poll =>
          simp only [step, List.map_append, List.pairwise_append]
          refine ⟨ih, ?_, ?_⟩
          · cases (fresh key _ (run key events).queue).head? <;> simp
          · intro k hk k' hk'
            obtain ⟨a, ha, rfl⟩ := List.mem_map.mp hk
            obtain ⟨b, hb, rfl⟩ := List.mem_map.mp hk'
            rw [Option.mem_toList] at hb
            exact (le_highest key ha).trans_lt
              (bound_lt_of_mem_head_fresh key hb)

/-- Nothing with the lowest key is delivered. -/
theorem bot_lt_of_delivered
    (events : List (Event α)) :
    ∀ a ∈ (run key events).delivered, ⊥ < key a := by
  induction events using List.reverseRecOn with
  | nil =>
      intro a ha
      cases ha
  | append_singleton events e ih =>
      rw [run_append]
      cases e with
      | push a =>
          exact ih
      | poll =>
          intro a ha
          rcases List.mem_append.mp ha with ha | ha
          · exact ih a ha
          · rw [Option.mem_toList] at ha
            exact bot_le.trans_lt (bound_lt_of_mem_head_fresh key ha)

/-! ## Runs that push in order -/

theorem InOrder.of_append
    {l l' : List α} (h : InOrder key (l ++ l')) :
    InOrder key l := by
  obtain ⟨hpos, hpair⟩ := h
  rw [List.map_append, List.pairwise_append] at hpair
  exact ⟨fun a ha => hpos a (List.mem_append_left _ ha), hpair.1⟩

/-- In an ordered history nothing behind the deliveries is stale. -/
theorem fresh_eq_self
    {delivered queue : List α} (h : InOrder key (delivered ++ queue)) :
    fresh key (highest key delivered) queue = queue := by
  cases queue with
  | nil =>
      rfl
  | cons a queue =>
      obtain ⟨hpos, hpair⟩ := h
      rw [List.map_append, List.pairwise_append] at hpair
      have hlt : highest key delivered < key a := by
        apply highest_lt key (hpos a (by simp))
        intro b hb
        exact hpair.2.2 _ (List.mem_map_of_mem hb) _ (by simp)
      simp [fresh, not_le.mpr hlt]

/-- When keys are pushed in order, every entry is delivered or still queued. -/
theorem delivered_append_queue
    (events : List (Event α)) (h : InOrder key (run key events).pushed) :
    (run key events).delivered ++ (run key events).queue =
      (run key events).pushed := by
  induction events using List.reverseRecOn with
  | nil =>
      rfl
  | append_singleton events e ih =>
      rw [run_append] at h ⊢
      cases e with
      | push a =>
          simp only [step] at h ⊢
          rw [← List.append_assoc, ih (h.of_append key)]
      | poll =>
          simp only [step] at h ⊢
          have ih := ih h
          rw [← ih] at h
          rw [fresh_eq_self key h, List.append_assoc, head_append_tail, ih]

/-! ## Runs that lose nothing -/

/--
A drained run with distinct keys that delivered every entry had its keys
pushed in order.
-/
theorem inOrder_of_drained
    (events : List (Event α))
    (hpos : ∀ a ∈ (run key events).pushed, ⊥ < key a)
    (hnodup : ((run key events).pushed.map key).Nodup)
    (hdrained : (run key events).queue = [])
    (hall : ∀ a ∈ (run key events).pushed, a ∈ (run key events).delivered) :
    InOrder key (run key events).pushed := by
  have hsub := sublist_pushed key events
  rw [hdrained, List.append_nil] at hsub
  have hlength :
      (run key events).pushed.length ≤ (run key events).delivered.length :=
    (hnodup.of_map key).length_le_of_subset hall
  have heq := hsub.eq_of_length_le hlength
  refine ⟨hpos, ?_⟩
  rw [← heq]
  exact delivered_increasing key events

end Mailbox
