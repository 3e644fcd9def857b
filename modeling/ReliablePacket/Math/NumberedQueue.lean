/-
# Queues whose items are numbered from a moving left bound

A queue with left bound `base` holds the items `base`, `base + 1`, and so on, in
order. Looking an item up by its number turns the queue operations into
statements about numbers: dropping items at the front while the bound advances
by the same amount forgets the dropped numbers and changes no other, appending
extends the range on the right.
-/
import Mathlib.Algebra.BigOperators.Intervals
import Mathlib.Data.List.Basic
import Mathlib.Tactic.Common

set_option autoImplicit false

namespace NumberedQueue

variable {α β : Type*} {base k n : ℕ} {l l' : List α} {a : α}

/-- The item with number `n` in a queue whose first item has number `base`. -/
def lookup (base : ℕ) (l : List α) (n : ℕ) : Option α :=
  if base ≤ n then l[n - base]? else none

theorem lookup_of_lt (h : n < base) : lookup base l n = none :=
  if_neg (by omega)

theorem lookup_of_le (h : base ≤ n) : lookup base l n = l[n - base]? :=
  if_pos h

theorem lookup_add (base : ℕ) (l : List α) (i : ℕ) : lookup base l (base + i) = l[i]? := by
  rw [lookup_of_le (by omega), Nat.add_sub_cancel_left]

@[simp] theorem lookup_nil : lookup base ([] : List α) n = none := by
  simp [lookup]

@[simp] theorem lookup_self_cons : lookup base (a :: l) base = some a := by
  simp [lookup]

/-- The item at the bound is the first one. -/
theorem exists_cons_of_lookup_self (h : lookup base l base = some a) : ∃ l', l = a :: l' := by
  cases l with
  | nil => simp at h
  | cons b l =>
    rw [lookup_self_cons, Option.some.injEq] at h
    exact ⟨l, h ▸ rfl⟩

/-- Lookups in a queue and in its tail with the bound advanced agree behind the
first number. -/
theorem lookup_cons_of_lt (h : base < n) : lookup base (a :: l) n = lookup (base + 1) l n := by
  obtain ⟨i, rfl⟩ : ∃ i, n = base + 1 + i := ⟨n - (base + 1), by omega⟩
  rw [lookup_add, show base + 1 + i = base + (i + 1) by omega, lookup_add,
    List.getElem?_cons_succ]

theorem lookup_bounds (h : lookup base l n = some a) : base ≤ n ∧ n < base + l.length := by
  by_cases hle : base ≤ n
  · rw [lookup_of_le hle] at h
    have := (List.getElem?_eq_some_iff.mp h).1
    omega
  · rw [lookup_of_lt (by omega)] at h
    cases h

theorem exists_lookup_iff :
    (∃ a, lookup base l n = some a) ↔ base ≤ n ∧ n < base + l.length := by
  refine ⟨fun ⟨_, h⟩ => lookup_bounds h, fun ⟨hle, hlt⟩ => ?_⟩
  have hindex : n - base < l.length := by omega
  exact ⟨l[n - base], by rw [lookup_of_le hle, List.getElem?_eq_getElem hindex]⟩

theorem mem_of_lookup (h : lookup base l n = some a) : a ∈ l := by
  rw [lookup_of_le (lookup_bounds h).1] at h
  exact List.mem_of_getElem? h

theorem exists_lookup_of_mem (base : ℕ) (h : a ∈ l) : ∃ n, lookup base l n = some a := by
  obtain ⟨i, hi⟩ := List.mem_iff_getElem?.mp h
  exact ⟨base + i, by rw [lookup_add, hi]⟩

theorem lookup_map (f : α → β) (base : ℕ) (l : List α) (n : ℕ) :
    lookup base (l.map f) n = (lookup base l n).map f := by
  simp only [lookup]
  split_ifs
  · exact List.getElem?_map
  · rfl

theorem lookup_modify (f : α → α) (base i : ℕ) (l : List α) (n : ℕ) :
    lookup base (l.modify i f) n =
      if n = base + i then (lookup base l n).map f else lookup base l n := by
  simp only [lookup]
  by_cases hle : base ≤ n
  · rw [if_pos hle, if_pos hle]
    by_cases hn : n = base + i
    · obtain rfl : i = n - base := by omega
      rw [if_pos hn, List.getElem?_modify_eq, Option.map_eq_map]
    · have hi : i ≠ n - base := by omega
      simp [if_neg hn, hi]
  · rw [if_neg hle, if_neg hle, if_neg (show ¬ n = base + i by omega)]

theorem lookup_set (base i : ℕ) (l : List α) (a : α) (n : ℕ) :
    lookup base (l.set i a) n =
      if n = base + i ∧ i < l.length then some a else lookup base l n := by
  by_cases hle : base ≤ n
  · obtain ⟨j, rfl⟩ : ∃ j, n = base + j := ⟨n - base, by omega⟩
    rw [lookup_add, lookup_add, List.getElem?_set]
    by_cases hij : i = j
    · subst hij
      by_cases hlen : i < l.length
      · simp [hlen]
      · simp [hlen]
    · rw [if_neg hij, if_neg (by omega)]
  · rw [lookup_of_lt (by omega), lookup_of_lt (by omega), if_neg (by omega)]

theorem lookup_drop (base k : ℕ) (l : List α) (n : ℕ) :
    lookup (base + k) (l.drop k) n = if n < base + k then none else lookup base l n := by
  by_cases hlt : n < base + k
  · rw [if_pos hlt, lookup_of_lt hlt]
  · rw [if_neg hlt, lookup_of_le (by omega), lookup_of_le (by omega), List.getElem?_drop]
    congr 1
    omega

theorem lookup_append (base : ℕ) (l l' : List α) (n : ℕ) :
    lookup base (l ++ l') n =
      if n < base + l.length then lookup base l n else lookup (base + l.length) l' n := by
  by_cases hle : base ≤ n
  · obtain ⟨i, rfl⟩ : ∃ i, n = base + i := ⟨n - base, by omega⟩
    rw [lookup_add, lookup_add]
    by_cases hlt : i < l.length
    · rw [if_pos (by omega), List.getElem?_append_left hlt]
    · rw [if_neg (by omega), List.getElem?_append_right (by omega),
        lookup_of_le (by omega)]
      congr 1
      omega
  · rw [if_pos (by omega), lookup_of_lt (by omega), lookup_of_lt (by omega)]

/-- Summing over the first `k` items continues a sum over the numbers below the
bound. -/
theorem sum_range_add_sum_take {f : α → ℕ} {g : ℕ → ℕ} (hk : k ≤ l.length)
    (h : ∀ n a, lookup base l n = some a → f a = g n) :
    ∑ n ∈ Finset.range base, g n + ((l.take k).map f).sum = ∑ n ∈ Finset.range (base + k), g n := by
  induction k with
  | zero => simp
  | succ k ih =>
    have hindex : k < l.length := hk
    have hlast : f l[k] = g (base + k) :=
      h _ _ (by rw [lookup_add, List.getElem?_eq_getElem hindex])
    -- the item at place `k` is number `base + k`, so both sums grow by the same term
    rw [List.take_add_one, List.map_append, List.sum_append, ← Nat.add_assoc, ih (by omega),
      List.getElem?_eq_getElem hindex, ← Nat.add_assoc, Finset.sum_range_succ, ← hlast]
    simp

end NumberedQueue
