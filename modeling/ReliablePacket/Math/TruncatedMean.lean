/-
# Truncated running means

A running mean over the natural numbers: every sample pulls the mean towards
itself by a fixed part of the distance, and the result is truncated. Truncation
leaves a dead zone below the sample in which the mean stands still. From anywhere
else it moves towards the sample, so under a constant sample it comes to rest
there.

An estimate is such a mean together with a running mean of the deviations from
it. Once the mean has come to rest the deviation follows a constant sample of its
own, the width left below the sample.
-/
import Mathlib.Algebra.Order.Floor.Semifield
import Mathlib.Dynamics.FixedPoints.Basic
import Mathlib.Tactic.FieldSimp
import Mathlib.Tactic.Ring

set_option autoImplicit false

namespace TruncatedMean

open Function

variable {k sample mean lo hi : ℕ}

/-- The mean after one sample of weight `1 / (k + 1)`. -/
def update (k sample mean : ℕ) : ℕ := (sample + k * mean) / (k + 1)

/-- The mean is the weighted sum, truncated. -/
theorem floor_weighted {K : Type*} [Field K] [LinearOrder K] [IsStrictOrderedRing K]
    [FloorSemiring K] (k sample mean : ℕ) :
    ⌊(1 / (k + 1) : K) * sample + (1 - 1 / (k + 1)) * mean⌋₊ = update k sample mean := by
  have hpos : (0 : K) < k + 1 := by positivity
  have hsum : (1 / (k + 1) : K) * sample + (1 - 1 / (k + 1)) * mean =
      ((sample + k * mean : ℕ) : K) / ((k + 1 : ℕ) : K) := by
    push_cast
    field_simp
    ring
  rw [hsum, Nat.floor_div_eq_div, update]

/-! ## One update -/

theorem le_update (hsample : lo ≤ sample) (hmean : lo ≤ mean) : lo ≤ update k sample mean := by
  rw [update, Nat.le_div_iff_mul_le k.succ_pos]
  calc lo * (k + 1) = lo + k * lo := by ring
    _ ≤ sample + k * mean := Nat.add_le_add hsample (Nat.mul_le_mul_left k hmean)

theorem update_le (hsample : sample ≤ hi) (hmean : mean ≤ hi) : update k sample mean ≤ hi := by
  refine Nat.div_le_of_le_mul ?_
  calc sample + k * mean ≤ hi + k * hi := Nat.add_le_add hsample (Nat.mul_le_mul_left k hmean)
    _ = (k + 1) * hi := by ring

/-- **The dead zone.** The mean stands still when it is at most `k` below the sample. -/
theorem update_eq_self_iff : update k sample mean = mean ↔ mean ≤ sample ∧ sample ≤ mean + k := by
  have hsplit : mean * (k + 1) = k * mean + mean := by ring
  rw [update, Nat.div_eq_iff k.succ_pos, hsplit]
  omega

/-- Above the sample the mean falls. -/
theorem update_lt_self (h : sample < mean) : update k sample mean < mean := by
  refine lt_of_le_of_ne (update_le h.le le_rfl) fun heq => ?_
  have hle := (update_eq_self_iff.mp heq).1
  omega

/-- Below the dead zone the mean rises. -/
theorem lt_update_self (h : mean + k < sample) : mean < update k sample mean := by
  refine lt_of_le_of_ne (le_update (by omega) le_rfl) fun heq => ?_
  have hle := (update_eq_self_iff.mp heq.symm).2
  omega

/-! ## A constant sample -/

/-- The distance of two numbers. -/
def distance (m n : ℕ) : ℕ := (m - n) + (n - m)

theorem distance_of_le (h : mean ≤ sample) : distance sample mean = sample - mean := by
  rw [distance, Nat.sub_eq_zero_of_le h, Nat.add_zero]

theorem distance_of_ge (h : sample ≤ mean) : distance sample mean = mean - sample := by
  rw [distance, Nat.sub_eq_zero_of_le h, Nat.zero_add]

/-- A mean that moves comes closer to the sample. -/
theorem distance_update_lt (hmoves : update k sample mean ≠ mean) :
    distance sample (update k sample mean) < distance sample mean := by
  simp only [distance]
  rcases Nat.lt_or_ge sample mean with habove | hbelow
  · have hlt := update_lt_self (k := k) habove
    have hge := le_update (k := k) (le_refl sample) habove.le
    omega
  · have hout : mean + k < sample := by
      by_contra hzone
      exact hmoves (update_eq_self_iff.mpr ⟨hbelow, by omega⟩)
    have hlt := lt_update_self hout
    have hle := update_le (k := k) (le_refl sample) hbelow
    omega

/-- What comes closer as long as it moves comes to rest. -/
theorem exists_isFixedPt_iterate {α : Type*} {f : α → α} (μ : α → ℕ)
    (hcloser : ∀ x, f x ≠ x → μ (f x) < μ x) (x : α) : ∃ N, IsFixedPt f (f^[N] x) := by
  by_cases hrest : f x = x
  · exact ⟨0, hrest⟩
  · have hlt := hcloser x hrest
    obtain ⟨N, hN⟩ := exists_isFixedPt_iterate μ hcloser (f x)
    exact ⟨N + 1, hN⟩
termination_by μ x

/-- **Under a constant sample the mean comes to rest in the dead zone.** -/
theorem exists_settled (k sample mean : ℕ) :
    ∃ settled N, settled ≤ sample ∧ sample ≤ settled + k ∧
      ∀ n, N ≤ n → (update k sample)^[n] mean = settled := by
  obtain ⟨N, hN⟩ := exists_isFixedPt_iterate (f := update k sample) (distance sample)
    (fun _ hmoves => distance_update_lt hmoves) mean
  obtain ⟨hle, hzone⟩ := update_eq_self_iff.mp hN
  refine ⟨_, N, hle, hzone, fun n hn => ?_⟩
  obtain ⟨j, rfl⟩ := Nat.exists_eq_add_of_le' hn
  rw [iterate_add_apply]
  exact hN.iterate j

/-! ## A mean with its deviation -/

/-- A running mean of samples and a running mean of their deviations from it. -/
@[ext] structure Estimate where
  mean : ℕ
  dev : ℕ

namespace Estimate

variable {j spread : ℕ} {samples : List ℕ} {x : Estimate}

/-- One sample. The deviation is the one from the old mean. -/
def observe (k j sample : ℕ) (x : Estimate) : Estimate where
  mean := update k sample x.mean
  dev := update j (distance sample x.mean) x.dev

/-- One sample after the other. -/
def observeAll (k j : ℕ) (samples : List ℕ) (x : Estimate) : Estimate :=
  samples.foldl (fun x sample => x.observe k j sample) x

/-- The same sample again and again. -/
theorem observeAll_replicate (n : ℕ) :
    x.observeAll k j (List.replicate n sample) = (observe k j sample)^[n] x := by
  induction n generalizing x with
  | zero => rfl
  | succ n ih => exact ih

/-- The mean lies in an interval and the deviation is bounded. -/
structure Within (lo hi spread : ℕ) (x : Estimate) : Prop where
  le_mean : lo ≤ x.mean
  mean_le : x.mean ≤ hi
  dev_le : x.dev ≤ spread

/-- A sample of the interval keeps the estimate within it. -/
theorem Within.observe (h : x.Within lo hi spread) (hspread : hi - lo ≤ spread)
    (hlo : lo ≤ sample) (hhi : sample ≤ hi) : (x.observe k j sample).Within lo hi spread := by
  have hdist : distance sample x.mean ≤ spread := by
    have hle := h.le_mean
    have hge := h.mean_le
    rw [distance]
    omega
  exact ⟨le_update hlo h.le_mean, update_le hhi h.mean_le, update_le hdist h.dev_le⟩

/-- **Samples of the interval keep the estimate within it**, in whatever order they
come. -/
theorem Within.observeAll (h : x.Within lo hi spread) (hspread : hi - lo ≤ spread)
    (hsamples : ∀ sample ∈ samples, lo ≤ sample ∧ sample ≤ hi) :
    (x.observeAll k j samples).Within lo hi spread := by
  induction samples generalizing x with
  | nil => exact h
  | cons sample samples ih =>
    obtain ⟨⟨hlo, hhi⟩, hrest⟩ := List.forall_mem_cons.mp hsamples
    exact ih (h.observe hspread hlo hhi) hrest

/-- Both means lie in their dead zones. -/
structure Settled (k j sample : ℕ) (x : Estimate) : Prop where
  mean_le : x.mean ≤ sample
  le_mean_add : sample ≤ x.mean + k
  dev_le : x.dev ≤ sample - x.mean
  le_dev_add : sample - x.mean ≤ x.dev + j

/-- The settled estimates are the ones at rest. -/
theorem observe_eq_self_iff : x.observe k j sample = x ↔ x.Settled k j sample := by
  rw [Estimate.ext_iff]
  change update k sample x.mean = x.mean ∧ update j (distance sample x.mean) x.dev = x.dev ↔ _
  rw [update_eq_self_iff, update_eq_self_iff]
  constructor
  · rintro ⟨⟨hle, hge⟩, hdev, hdev'⟩
    rw [distance_of_le hle] at hdev hdev'
    exact ⟨hle, hge, hdev, hdev'⟩
  · intro h
    rw [distance_of_le h.mean_le]
    exact ⟨⟨h.mean_le, h.le_mean_add⟩, h.dev_le, h.le_dev_add⟩

/-- The mean does not depend on the deviation. -/
theorem mean_semiconj : Semiconj Estimate.mean (observe k j sample) (update k sample) :=
  fun _ => rfl

/-- While the mean stands still the deviation follows a constant sample. -/
theorem iterate_observe_of_isFixedPt (hrest : IsFixedPt (update k sample) x.mean) (n : ℕ) :
    (observe k j sample)^[n] x =
      ⟨x.mean, (update j (distance sample x.mean))^[n] x.dev⟩ := by
  induction n with
  | zero => rfl
  | succ n ih =>
    rw [iterate_succ_apply', ih, iterate_succ_apply']
    exact Estimate.ext hrest rfl

/-- **Under a constant sample the estimate settles.** -/
theorem exists_settled (k j sample : ℕ) (x : Estimate) :
    ∃ settled : Estimate, settled.Settled k j sample ∧
      ∃ N, ∀ n, N ≤ n → (observe k j sample)^[n] x = settled := by
  obtain ⟨mean, N₁, hle, hzone, hmean⟩ := TruncatedMean.exists_settled k sample x.mean
  have hfirst : ((observe k j sample)^[N₁] x).mean = mean :=
    (mean_semiconj.iterate_right N₁ x).trans (hmean N₁ le_rfl)
  have hrest : IsFixedPt (update k sample) ((observe k j sample)^[N₁] x).mean := by
    rw [hfirst]
    exact update_eq_self_iff.mpr ⟨hle, hzone⟩
  obtain ⟨dev, N₂, -, -, hsecond⟩ :=
    TruncatedMean.exists_settled j (distance sample mean) ((observe k j sample)^[N₁] x).dev
  -- first the mean comes to rest, then the deviation
  have hall : ∀ n, N₂ + N₁ ≤ n → (observe k j sample)^[n] x = ⟨mean, dev⟩ := by
    intro n hn
    obtain ⟨i, rfl⟩ := Nat.exists_eq_add_of_le' (Nat.le_of_add_left_le hn)
    rw [iterate_add_apply, iterate_observe_of_isFixedPt hrest, hfirst,
      hsecond i (Nat.le_of_add_le_add_right hn)]
  refine ⟨⟨mean, dev⟩, observe_eq_self_iff.mp ?_, N₂ + N₁, hall⟩
  calc observe k j sample ⟨mean, dev⟩
      = observe k j sample ((observe k j sample)^[N₂ + N₁] x) := by rw [hall _ le_rfl]
    _ = (observe k j sample)^[N₂ + N₁ + 1] x := (iterate_succ_apply' _ _ _).symm
    _ = ⟨mean, dev⟩ := hall _ (Nat.le_succ _)

end Estimate

end TruncatedMean
