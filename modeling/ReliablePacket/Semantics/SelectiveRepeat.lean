/-
# Selective repeat over unbounded sequence numbers

One party sends numbered items below a growing right edge, the other accepts
them in any order and answers each arrival with an acknowledgement. An
acknowledgement carries a cumulative number, the lowest number not received when
it was emitted, and a selective number, the item it answers; it answers an item
that was not accepted with two equal numbers. The first party moves its left
edge to the largest cumulative number it has processed.

Messages are sets that only grow: an item once sent can arrive any number of
times and at any later moment, and so can an acknowledgement. That covers loss,
duplication, delay and reordering at once.

The two facts everything else needs are that the left edge never passes what was
received, and that an item which was acknowledged selectively while the numbers
below it were incomplete is never the lowest missing one afterwards.
-/
import Mathlib.Data.Set.Insert
import Mathlib.Logic.Relation
import Mathlib.Tactic.Common

set_option autoImplicit false

namespace SelectiveRepeat

/-- An acknowledgement. -/
structure Ack where
  /-- The lowest number the receiver had not received. -/
  cumulative : ℕ
  /-- The number this acknowledgement answers; equal to `cumulative` when the
  item was not accepted. -/
  selective : ℕ
  deriving DecidableEq

/-- Both parties and every message ever sent. -/
structure State where
  /-- The sender's lowest unacknowledged number. -/
  base : ℕ
  /-- The sender may send the numbers below `top`. -/
  top : ℕ
  /-- The receiver's lowest missing number. -/
  next : ℕ
  /-- The items sent so far. -/
  sent : Set ℕ
  /-- The items accepted so far. -/
  received : Set ℕ
  /-- The acknowledgements emitted so far. -/
  acks : Set Ack
  /-- The acknowledgements the sender has processed so far. -/
  processed : Set Ack

/-- Nothing sent yet, with the first `top` numbers open for sending. -/
def init (top : ℕ) : State := ⟨0, top, 0, ∅, ∅, ∅, ∅⟩

/-- `n` is the lowest number outside `S`. -/
def FirstHole (S : Set ℕ) (n : ℕ) : Prop := (∀ m < n, m ∈ S) ∧ n ∉ S

/-- One action of one of the parties. -/
inductive Step : State → State → Prop
  | extend {s : State} {top : ℕ} (hle : s.top ≤ top) : Step s { s with top := top }
  | send {s : State} {n : ℕ} (hlt : n < s.top) : Step s { s with sent := insert n s.sent }
  | accept {s : State} {n next : ℕ} (hsent : n ∈ s.sent) (hle : s.next ≤ n)
      (hhole : FirstHole (insert n s.received) next) :
      Step s { s with
        next := next
        received := insert n s.received
        acks := insert ⟨next, n⟩ s.acks }
  | ignore {s : State} : Step s { s with acks := insert ⟨s.next, s.next⟩ s.acks }
  | process {s : State} {a : Ack} (hmem : a ∈ s.acks) :
      Step s { s with
        base := max s.base a.cumulative
        processed := insert a s.processed }

/-- The states some run of the two parties reaches. -/
def Reachable (s : State) : Prop := ∃ top, Relation.ReflTransGen Step (init top) s

variable {s s' : State} {S : Set ℕ} {m n : ℕ} {a b : Ack}

/-! ## First holes -/

theorem FirstHole.le_of_notMem (h : FirstHole S n) (hm : m ∉ S) : n ≤ m := by
  by_contra hlt
  exact hm (h.1 m (by omega))

/-- Adding a number keeps the first hole or moves it up. -/
theorem FirstHole.le_of_insert (h : FirstHole S n) {n' : ℕ}
    (h' : FirstHole (insert m S) n') : n ≤ n' :=
  h.le_of_notMem fun hmem => h'.2 (Set.mem_insert_of_mem m hmem)

/-- Filling the first hole moves it up. -/
theorem FirstHole.lt_of_insert_self (h : FirstHole S n) {n' : ℕ}
    (h' : FirstHole (insert n S) n') : n < n' := by
  refine lt_of_le_of_ne (h.le_of_insert h') ?_
  rintro rfl
  exact h'.2 (Set.mem_insert n S)

theorem FirstHole.unique (h : FirstHole S m) (h' : FirstHole S n) : m = n :=
  le_antisymm (h.le_of_notMem h'.2) (h'.le_of_notMem h.2)

/-! ## The protocol invariant -/

/-- What every reachable state satisfies. -/
structure Inv (s : State) : Prop where
  /-- Only numbers below the right edge are sent. -/
  sent_lt : ∀ n ∈ s.sent, n < s.top
  /-- Nothing is accepted that was not sent. -/
  received_sent : s.received ⊆ s.sent
  /-- The receiver's position is its lowest missing number. -/
  hole : FirstHole s.received s.next
  /-- A cumulative number never exceeds the receiver's position. -/
  ack_le : ∀ a ∈ s.acks, a.cumulative ≤ s.next
  /-- An item answered by two different numbers was accepted. -/
  ack_received : ∀ a ∈ s.acks, a.selective ≠ a.cumulative → a.selective ∈ s.received
  /-- An item accepted out of order is skipped by every cumulative number. -/
  ack_skips : ∀ a ∈ s.acks, a.cumulative < a.selective →
    ∀ b ∈ s.acks, b.cumulative ≠ a.selective
  /-- Only emitted acknowledgements are processed. -/
  processed_acks : s.processed ⊆ s.acks
  /-- The left edge is at least every processed cumulative number. -/
  processed_le : ∀ a ∈ s.processed, a.cumulative ≤ s.base
  /-- The left edge is attained by a processed cumulative number. -/
  base_attained : s.base = 0 ∨ ∃ a ∈ s.processed, a.cumulative = s.base

theorem inv_init (top : ℕ) : Inv (init top) where
  sent_lt := by simp [init]
  received_sent := by simp [init]
  hole := by simp [init, FirstHole]
  ack_le := by simp [init]
  ack_received := by simp [init]
  ack_skips := by simp [init]
  processed_acks := by simp [init]
  processed_le := by simp [init]
  base_attained := .inl rfl

namespace Inv

theorem extend (h : Inv s) {top : ℕ} (hle : s.top ≤ top) : Inv { s with top := top } :=
  { h with sent_lt := fun n hn => (h.sent_lt n hn).trans_le hle }

theorem send (h : Inv s) (hlt : n < s.top) : Inv { s with sent := insert n s.sent } :=
  { h with
    sent_lt := by
      rintro m (rfl | hm)
      · exact hlt
      · exact h.sent_lt m hm
    received_sent := h.received_sent.trans (Set.subset_insert n s.sent) }

theorem accept (h : Inv s) {next : ℕ} (hsent : n ∈ s.sent) (hle : s.next ≤ n)
    (hhole : FirstHole (insert n s.received) next) :
    Inv { s with
      next := next
      received := insert n s.received
      acks := insert ⟨next, n⟩ s.acks } := by
  have hnext : s.next ≤ next := h.hole.le_of_insert hhole
  exact
    { h with
      received_sent := Set.insert_subset hsent h.received_sent
      hole := hhole
      ack_le := by
        rintro a (rfl | ha)
        · exact le_rfl
        · exact (h.ack_le a ha).trans hnext
      ack_received := by
        rintro a (rfl | ha) hne
        · exact Set.mem_insert n _
        · exact Set.mem_insert_of_mem n (h.ack_received a ha hne)
      ack_skips := by
        -- the new cumulative number is a hole, so no old selective one equals it;
        -- old cumulative numbers are at most the new one
        rintro a (rfl | ha) hlt b (rfl | hb)
        · exact hlt.ne
        · have := h.ack_le b hb
          simp only at hlt ⊢
          omega
        · rintro heq
          refine hhole.2 (Set.mem_insert_of_mem n ?_)
          exact (show next = a.selective from heq) ▸ h.ack_received a ha hlt.ne'
        · exact h.ack_skips a ha hlt b hb
      processed_acks := h.processed_acks.trans (Set.subset_insert _ _) }

theorem ignore (h : Inv s) : Inv { s with acks := insert ⟨s.next, s.next⟩ s.acks } :=
  { h with
    ack_le := by
      rintro a (rfl | ha)
      · exact le_rfl
      · exact h.ack_le a ha
    ack_received := by
      rintro a (rfl | ha) hne
      · exact absurd rfl hne
      · exact h.ack_received a ha hne
    ack_skips := by
      rintro a (rfl | ha) hlt b (rfl | hb)
      · exact hlt.ne
      · exact absurd hlt (lt_irrefl _)
      · rintro heq
        exact h.hole.2 ((show s.next = a.selective from heq) ▸ h.ack_received a ha hlt.ne')
      · exact h.ack_skips a ha hlt b hb
    processed_acks := h.processed_acks.trans (Set.subset_insert _ _) }

theorem process (h : Inv s) (hmem : a ∈ s.acks) :
    Inv { s with
      base := max s.base a.cumulative
      processed := insert a s.processed } :=
  { h with
    processed_acks := Set.insert_subset hmem h.processed_acks
    processed_le := by
      rintro b (rfl | hb)
      · exact le_max_right _ _
      · exact (h.processed_le b hb).trans (le_max_left _ _)
    base_attained := by
      -- the new left edge is the old one or the acknowledgement's number
      rcases le_total a.cumulative s.base with hle | hle
      · rcases h.base_attained with hzero | ⟨b, hb, heq⟩
        · exact .inl ((max_eq_left hle).trans hzero)
        · exact .inr ⟨b, Set.mem_insert_of_mem a hb, heq.trans (max_eq_left hle).symm⟩
      · exact .inr ⟨a, Set.mem_insert a _, (max_eq_right hle).symm⟩ }

theorem step (h : Inv s) (hstep : Step s s') : Inv s' := by
  cases hstep with
  | extend hle => exact h.extend hle
  | send hlt => exact h.send hlt
  | accept hsent hle hhole => exact h.accept hsent hle hhole
  | ignore => exact h.ignore
  | process hmem => exact h.process hmem

/-! ## What the invariant gives -/

/-- The left edge never passes the receiver's position. -/
theorem base_le_next (h : Inv s) : s.base ≤ s.next := by
  rcases h.base_attained with hzero | ⟨a, ha, heq⟩
  · omega
  · exact heq ▸ h.ack_le a (h.processed_acks ha)

theorem next_le_of_received_lt (h : Inv s) (hlt : ∀ m ∈ s.received, m < n) : s.next ≤ n :=
  h.hole.le_of_notMem fun hn => (hlt n hn).false

/-- The receiver's position never passes the right edge. -/
theorem next_le_top (h : Inv s) : s.next ≤ s.top :=
  h.next_le_of_received_lt fun m hm => h.sent_lt m (h.received_sent hm)

theorem cumulative_le_top (h : Inv s) (ha : a ∈ s.acks) : a.cumulative ≤ s.top :=
  (h.ack_le a ha).trans h.next_le_top

/-- A selectively acknowledged number lies below the right edge. -/
theorem selective_lt_top (h : Inv s) (ha : a ∈ s.acks) (hne : a.selective ≠ a.cumulative) :
    a.selective < s.top :=
  h.sent_lt _ (h.received_sent (h.ack_received a ha hne))

/-- **No false acknowledgement.** What the sender regards as delivered was
received. -/
theorem acknowledged_received (h : Inv s)
    (hn : n < s.base ∨ ∃ a ∈ s.processed, a.selective = n ∧ a.cumulative ≠ n) :
    n ∈ s.received := by
  rcases hn with hlt | ⟨a, ha, rfl, hne⟩
  · exact h.hole.1 n (hlt.trans_le h.base_le_next)
  · exact h.ack_received a (h.processed_acks ha) hne.symm

/-- **The left edge is never selectively acknowledged.** So the lowest
unacknowledged item is always one the sender will send again. -/
theorem base_not_selective (h : Inv s) (ha : a ∈ s.processed) (hsel : a.selective = s.base) :
    a.cumulative = s.base := by
  by_contra hne
  have hle := h.processed_le a ha
  rcases h.base_attained with hzero | ⟨b, hb, heq⟩
  · omega
  · -- some acknowledgement attained the left edge, which this one's item would skip
    refine h.ack_skips a (h.processed_acks ha) (by omega) b (h.processed_acks hb) ?_
    omega

/-- **The left edge is settled by what was processed**, not by the order. -/
theorem base_le_of_processed_subset (h : Inv s) (h' : Inv s')
    (hsub : s.processed ⊆ s'.processed) : s.base ≤ s'.base := by
  rcases h.base_attained with hzero | ⟨a, ha, heq⟩
  · omega
  · exact heq ▸ h'.processed_le a (hsub ha)

end Inv

theorem Reachable.inv (h : Reachable s) : Inv s := by
  obtain ⟨top, hpath⟩ := h
  induction hpath with
  | refl => exact inv_init top
  | tail _ hstep ih => exact ih.step hstep

theorem Reachable.trans (h : Reachable s) (hpath : Relation.ReflTransGen Step s s') :
    Reachable s' := by
  obtain ⟨top, hinit⟩ := h
  exact ⟨top, hinit.trans hpath⟩

/-! ## When every acknowledgement was processed -/

/-- Everything accepted was answered, and the receiver's position was announced. -/
structure Answered (s : State) : Prop where
  received : ∀ n ∈ s.received, ∃ a ∈ s.acks, a.selective = n
  next : s.next = 0 ∨ ∃ a ∈ s.acks, a.cumulative = s.next

namespace Answered

theorem init (top : ℕ) : Answered (init top) where
  received n hn := by cases hn
  next := .inl rfl

/-- A new answer takes no other back. -/
theorem mono (h : Answered s) {next : ℕ} {received : Set ℕ} {acks : Set Ack}
    (hsub : s.acks ⊆ acks)
    (hreceived : ∀ n ∈ received, n ∈ s.received ∨ ∃ a ∈ acks, a.selective = n)
    (hnext : next = s.next ∨ ∃ a ∈ acks, a.cumulative = next) :
    Answered { s with next := next, received := received, acks := acks } where
  received n hn := by
    rcases hreceived n hn with hold | hnew
    · obtain ⟨a, ha, heq⟩ := h.received n hold
      exact ⟨a, hsub ha, heq⟩
    · exact hnew
  next := by
    rcases hnext with rfl | hnew
    · rcases h.next with hzero | ⟨a, ha, heq⟩
      · exact .inl hzero
      · exact .inr ⟨a, hsub ha, heq⟩
    · exact .inr hnew

theorem step (h : Answered s) (hstep : Step s s') : Answered s' := by
  cases hstep with
  | extend hle => exact ⟨h.received, h.next⟩
  | send hlt => exact ⟨h.received, h.next⟩
  | accept hsent hle hhole =>
    refine h.mono (Set.subset_insert _ _) ?_ (.inr ⟨_, Set.mem_insert _ _, rfl⟩)
    rintro m (rfl | hm)
    · exact .inr ⟨_, Set.mem_insert _ _, rfl⟩
    · exact .inl hm
  | ignore => exact h.mono (Set.subset_insert _ _) (fun _ => .inl) (.inl rfl)
  | process hmem => exact ⟨h.received, h.next⟩

end Answered

theorem Reachable.answered (h : Reachable s) : Answered s := by
  obtain ⟨top, hpath⟩ := h
  induction hpath with
  | refl => exact .init top
  | tail _ hstep ih => exact ih.step hstep

/-- **Both parties agree once every acknowledgement was processed.** The left edge is the
receiver's position, and right of it the sender knows exactly what was accepted. -/
theorem Reachable.agree (h : Reachable s) (hquiet : s.acks ⊆ s.processed) :
    s.base = s.next ∧ ∀ n, s.base ≤ n →
      (n ∈ s.received ↔ ∃ a ∈ s.processed, a.selective = n ∧ a.cumulative ≠ n) := by
  have hbase : s.base = s.next := by
    refine le_antisymm h.inv.base_le_next ?_
    rcases h.answered.next with hzero | ⟨a, ha, heq⟩
    · omega
    · exact heq ▸ h.inv.processed_le a (hquiet ha)
  refine ⟨hbase, fun n hn => ⟨fun hreceived => ?_, fun ⟨a, ha, hsel, hne⟩ => ?_⟩⟩
  · obtain ⟨a, ha, rfl⟩ := h.answered.received n hreceived
    refine ⟨a, hquiet ha, rfl, fun heq => ?_⟩
    -- a number it could still be waiting for is not accepted
    have hle := h.inv.ack_le a ha
    have hnext : a.selective = s.next := by omega
    exact h.inv.hole.2 (hnext ▸ hreceived)
  · exact h.inv.acknowledged_received (.inr ⟨a, ha, hsel, hne⟩)

end SelectiveRepeat
