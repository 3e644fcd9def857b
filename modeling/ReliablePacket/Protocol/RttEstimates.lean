/-
# What the estimator computes

With the weights of the program, `ackArrived` is one sample of the truncated running
means with dead zones of width 7 and 3, and no result leaves the range of
`unsigned long`. So the bounds of the samples bound the timeout, in whatever order
they come, and under a constant sample the estimator settles at a timeout that is
not below the sample.
-/
import ReliablePacket.Protocol.RttEstimatorJacobson
import ReliablePacket.Protocol.SenderSpec

set_option autoImplicit false

namespace ReliablePacket

open TruncatedMean

/-- The conversion is exact where the number fits. -/
theorem toNat_unsignedLong {x : ℚ} {n : ℕ} (hfloor : ⌊x⌋₊ = n) (hlt : n < 2 ^ 64) :
    (unsignedLong x).toNat = n := by
  rw [unsignedLong, hfloor, UInt64.toNat_ofNat_of_lt' hlt]

/-- A weighted sum with the weight of an estimator is a truncated mean. -/
theorem toNat_unsignedLong_weighted {weight : ℚ} {k : ℕ} (hweight : weight = 1 / (k + 1))
    {sample mean : ℕ} (hsample : sample < 2 ^ 64) (hmean : mean < 2 ^ 64) :
    (unsignedLong (weight * sample + (1 - weight) * mean)).toNat = update k sample mean := by
  refine toNat_unsignedLong (hweight ▸ floor_weighted k sample mean) ?_
  have hle : update k sample mean ≤ 2 ^ 64 - 1 := update_le (by omega) (by omega)
  omega

/-- An acknowledgement and the clock reading on its arrival. -/
structure Arrival where
  ackPacket : AckPacket
  now : Timeval

/-- The round-trip time that `ackArrived` measures. -/
def Arrival.elapsedUs (arrival : Arrival) : ℕ :=
  (getElapsedUs arrival.ackPacket.sentTime arrival.now).toNat

namespace RttEstimatorJacobson

variable {r r' : RttEstimatorJacobson} {arrival : Arrival} {arrivals : List Arrival}
variable {lo hi spread elapsedUs : ℕ}

/-- The calls of `ackArrived`, one after the other. -/
def ackAllArrived (arrivals : List Arrival) (r : RttEstimatorJacobson) :
    Except Fault RttEstimatorJacobson :=
  arrivals.foldlM (fun r arrival => r.ackArrived arrival.ackPacket arrival.now) r

/-- The weights are the ones of the program. -/
structure Weighted (r : RttEstimatorJacobson) : Prop where
  alpha : r.alpha = estimatorAlpha
  beta : r.beta = estimatorBeta

theorem Weighted.alpha_eq (h : r.Weighted) : r.alpha = 1 / ((7 : ℕ) + 1) := by
  rw [h.alpha, estimatorAlpha]
  norm_num

theorem Weighted.beta_eq (h : r.Weighted) : r.beta = 1 / ((3 : ℕ) + 1) := by
  rw [h.beta, estimatorBeta]
  norm_num

/-- The running means that the estimator keeps. -/
def estimate (r : RttEstimatorJacobson) : Estimate where
  mean := r.curTimeoutUs.toNat
  dev := r.curStdDevUs.toNat

/-- The deviation from the mean, whichever of the two is larger. -/
theorem toNat_deviation (elapsed cur : UInt64) :
    (if cur ≤ elapsed then elapsed - cur else cur - elapsed).toNat =
      distance elapsed.toNat cur.toNat := by
  split_ifs with hle
  · rw [UInt64.toNat_sub_of_le _ _ hle, distance_of_le (UInt64.le_iff_toNat_le.mp hle)]
  · have hge := UInt64.le_of_lt (UInt64.not_le.mp hle)
    rw [UInt64.toNat_sub_of_le _ _ hge, distance_of_ge (UInt64.le_iff_toNat_le.mp hge)]

/-- **One acknowledgement is one sample** of the truncated means. -/
theorem Weighted.ackArrived (h : r.Weighted) (hregular : arrival.ackPacket.type = .regular) :
    ∃ r', r.ackArrived arrival.ackPacket arrival.now = .ok r' ∧ r'.Weighted ∧
      r'.estimate = r.estimate.observe 7 3 arrival.elapsedUs := by
  refine ⟨_, if_pos hregular, ⟨h.alpha, h.beta⟩, Estimate.ext ?_ ?_⟩
  · exact toNat_unsignedLong_weighted h.alpha_eq (UInt64.toNat_lt _) (UInt64.toNat_lt _)
  · -- the sample of the deviation is the distance from the old mean
    refine (toNat_unsignedLong_weighted h.beta_eq (UInt64.toNat_lt _) (UInt64.toNat_lt _)).trans ?_
    rw [toNat_deviation]
    rfl

/-- **A run of acknowledgements is the run of their samples.** -/
theorem Weighted.ackAllArrived (h : r.Weighted)
    (hregular : ∀ arrival ∈ arrivals, arrival.ackPacket.type = .regular) :
    ∃ r', r.ackAllArrived arrivals = .ok r' ∧ r'.Weighted ∧
      r'.estimate = r.estimate.observeAll 7 3 (arrivals.map (·.elapsedUs)) := by
  induction arrivals generalizing r with
  | nil => exact ⟨r, rfl, h, rfl⟩
  | cons arrival arrivals ih =>
    obtain ⟨hhead, htail⟩ := List.forall_mem_cons.mp hregular
    obtain ⟨r₁, hstep, h₁, hestimate⟩ := h.ackArrived hhead
    obtain ⟨r', hrun, h', heq⟩ := ih h₁ htail
    refine ⟨r', ?_, h', ?_⟩
    · rw [RttEstimatorJacobson.ackAllArrived, List.foldlM_cons, hstep]
      exact hrun
    · rw [heq, hestimate]
      rfl

/-! ## The timeout -/

/-- The timeout of an estimate in microseconds. -/
def timeoutUs (x : Estimate) : ℕ := 11 * x.mean / 10 + 4 * x.dev

theorem timeoutUs_le {x : Estimate} (h : x.Within lo hi spread) :
    timeoutUs x ≤ 11 * hi / 10 + 4 * spread := by
  have hmean := h.mean_le
  have hdev := h.dev_le
  rw [timeoutUs]
  omega

theorem mean_le_timeoutUs (x : Estimate) : x.mean ≤ timeoutUs x := by
  rw [timeoutUs]
  omega

/-- `getCurrentTimeoutUs` is exact where the timeout fits. -/
theorem toNat_getCurrentTimeoutUs (hlt : timeoutUs r.estimate < 2 ^ 64) :
    r.getCurrentTimeoutUs.toNat = timeoutUs r.estimate := by
  have hratio : (r.curTimeoutUs.toNat : ℚ) * curTimeoutUsRatio =
      ((11 * r.curTimeoutUs.toNat : ℕ) : ℚ) / ((10 : ℕ) : ℚ) := by
    rw [curTimeoutUsRatio]
    push_cast
    ring
  have hdev : (4 * r.curStdDevUs).toNat = 4 * r.curStdDevUs.toNat := by
    rw [UInt64.toNat_mul]
    exact Nat.mod_eq_of_lt (lt_of_le_of_lt (Nat.le_add_left _ _) hlt)
  refine toNat_unsignedLong ?_ hlt
  rw [hratio, hdev, Nat.floor_add_natCast (by positivity), Nat.floor_div_eq_div]
  rfl

/-! ## Bounded samples -/

theorem weighted_new (initTimeoutUs : UInt64) :
    (new initTimeoutUs estimatorAlpha estimatorBeta).Weighted :=
  ⟨rfl, rfl⟩

theorem within_new {initTimeoutUs : UInt64} (hlo : lo ≤ initTimeoutUs.toNat)
    (hhi : initTimeoutUs.toNat ≤ hi) :
    (new initTimeoutUs estimatorAlpha estimatorBeta).estimate.Within lo hi
      (max (initTimeoutUs.toNat / 4) (hi - lo)) where
  le_mean := hlo
  mean_le := hhi
  dev_le := by
    change (initTimeoutUs / 4).toNat ≤ _
    rw [UInt64.toNat_div]
    exact Nat.le_max_left _ _

/-- **Samples in an interval keep the timeout within bounds**, in whatever order they
come: the mean stays in the interval and the deviation below its initial value or the
width of the interval. -/
theorem timeout_bounded {initTimeoutUs : UInt64} (hhigh : hi ≤ 2 ^ 50)
    (hlo : lo ≤ initTimeoutUs.toNat) (hhi : initTimeoutUs.toNat ≤ hi)
    (harrivals : ∀ arrival ∈ arrivals, arrival.ackPacket.type = .regular ∧
      lo ≤ arrival.elapsedUs ∧ arrival.elapsedUs ≤ hi) :
    ∃ r', (new initTimeoutUs estimatorAlpha estimatorBeta).ackAllArrived arrivals = .ok r' ∧
      lo ≤ r'.curTimeoutUs.toNat ∧ r'.curTimeoutUs.toNat ≤ hi ∧
      r'.curStdDevUs.toNat ≤ max (initTimeoutUs.toNat / 4) (hi - lo) ∧
      lo ≤ r'.getCurrentTimeoutUs.toNat ∧
      r'.getCurrentTimeoutUs.toNat ≤
        11 * hi / 10 + 4 * max (initTimeoutUs.toNat / 4) (hi - lo) := by
  obtain ⟨r', hrun, -, hestimate⟩ :=
    (weighted_new initTimeoutUs).ackAllArrived fun arrival hmem => (harrivals arrival hmem).1
  have hwithin := (within_new hlo hhi).observeAll (k := 7) (j := 3) (Nat.le_max_right _ _)
    (List.forall_mem_map.mpr fun arrival hmem => (harrivals arrival hmem).2)
  rw [← hestimate] at hwithin
  have htimeout := timeoutUs_le hwithin
  -- the bound leaves room in 64 bits
  have hexact := toNat_getCurrentTimeoutUs (r := r') (by omega)
  refine ⟨r', hrun, hwithin.le_mean, hwithin.mean_le, hwithin.dev_le, ?_, ?_⟩
  · rw [hexact]
    exact hwithin.le_mean.trans (mean_le_timeoutUs _)
  · rw [hexact]
    exact htimeout

/-- Round trips of one and of three milliseconds. -/
theorem timeout_bounded_milliseconds :
    ∃ r', (new 2000 estimatorAlpha estimatorBeta).ackAllArrived
        [⟨⟨.regular, 1, 0, ⟨5, 0⟩⟩, ⟨5, 1000⟩⟩, ⟨⟨.regular, 2, 1, ⟨5, 0⟩⟩, ⟨5, 3000⟩⟩] = .ok r' ∧
      1000 ≤ r'.getCurrentTimeoutUs.toNat ∧ r'.getCurrentTimeoutUs.toNat ≤ 11300 := by
  have hlo : 1000 ≤ (2000 : UInt64).toNat := by decide
  have hhi : (2000 : UInt64).toNat ≤ 3000 := by decide
  have harrivals : ∀ arrival ∈ ([⟨⟨.regular, 1, 0, ⟨5, 0⟩⟩, ⟨5, 1000⟩⟩,
      ⟨⟨.regular, 2, 1, ⟨5, 0⟩⟩, ⟨5, 3000⟩⟩] : List Arrival),
      arrival.ackPacket.type = .regular ∧ 1000 ≤ arrival.elapsedUs ∧ arrival.elapsedUs ≤ 3000 := by
    decide +kernel
  obtain ⟨r', hrun, -, -, -, hle, hge⟩ := timeout_bounded (by decide) hlo hhi harrivals
  exact ⟨r', hrun, hle, hge⟩

/-! ## A constant sample -/

/-- The dead zones do not push the timeout below the sample. -/
theorem le_timeoutUs_of_settled {x : Estimate} (h : x.Settled 7 3 elapsedUs)
    (hlow : 33 ≤ elapsedUs) : elapsedUs ≤ timeoutUs x := by
  have hmean := h.le_mean_add
  have hdev := h.le_dev_add
  rw [timeoutUs]
  omega

/-- Below 33 they do. -/
example : (Estimate.mk 29 0).Settled 7 3 32 ∧ timeoutUs ⟨29, 0⟩ < 32 :=
  ⟨⟨by decide, by decide, by decide, by decide⟩, by decide⟩

theorem timeoutUs_lt_of_settled {x : Estimate} (h : x.Settled 7 3 elapsedUs)
    (hhigh : elapsedUs ≤ 2 ^ 50) : timeoutUs x < 2 ^ 64 := by
  have hmean := h.mean_le
  have hzone := h.le_mean_add
  have hdev := h.dev_le
  rw [timeoutUs]
  omega

/-- **Under a constant sample the estimator settles without spurious timeouts.** From
some number of acknowledgements on the mean is at most 7 below the sample and the
timeout is not below it, so a sweep leaves alone what was sent no longer ago. -/
theorem settles (hweighted : r.Weighted) (hlow : 33 ≤ elapsedUs) (hhigh : elapsedUs ≤ 2 ^ 50) :
    ∃ N, ∀ arrivals : List Arrival, N ≤ arrivals.length →
      (∀ arrival ∈ arrivals, arrival.ackPacket.type = .regular ∧
        arrival.elapsedUs = elapsedUs) →
      ∃ r', r.ackAllArrived arrivals = .ok r' ∧
        elapsedUs ≤ r'.curTimeoutUs.toNat + 7 ∧ r'.curTimeoutUs.toNat ≤ elapsedUs ∧
        elapsedUs ≤ r'.getCurrentTimeoutUs.toNat ∧
        ∀ (shrink : CongestionShrink) (debug : Bool) (now : Timeval) (s s' : SlideWindowSender),
          s.checkTimeout shrink debug r'.getCurrentTimeoutUs now = .ok s' →
          ∀ (i : ℕ) (item : SlideWindowSenderItem), s.slideWindow[i]? = some item →
            (getElapsedUs item.lastSentTime now).toNat ≤ elapsedUs →
            s'.slideWindow[i]? = some item := by
  obtain ⟨settled, hsettled, N, hN⟩ := r.estimate.exists_settled 7 3 elapsedUs
  refine ⟨N, fun arrivals hlength harrivals => ?_⟩
  obtain ⟨r', hrun, -, hestimate⟩ :=
    hweighted.ackAllArrived fun arrival hmem => (harrivals arrival hmem).1
  -- equal samples make the run an iterate, which is past its rest by then
  have hsamples : arrivals.map (·.elapsedUs) = List.replicate arrivals.length elapsedUs :=
    List.map_eq_replicate_iff.mpr fun arrival hmem => (harrivals arrival hmem).2
  rw [hsamples, Estimate.observeAll_replicate, hN _ hlength] at hestimate
  rw [← hestimate] at hsettled
  have hle := le_timeoutUs_of_settled hsettled hlow
  rw [← toNat_getCurrentTimeoutUs (timeoutUs_lt_of_settled hsettled hhigh)] at hle
  refine ⟨r', hrun, hsettled.le_mean_add, hsettled.mean_le, hle, ?_⟩
  intro shrink debug now s s' hsweep i item hitem hrecent
  have hkept : item.hasExpired r'.getCurrentTimeoutUs now = false := by
    rw [SlideWindowSenderItem.hasExpired, Bool.and_eq_false_iff, decide_eq_false_iff_not,
      UInt64.lt_iff_toNat_lt]
    exact .inr (by omega)
  rw [SlideWindowSender.checkTimeout_of_ok hsweep, SlideWindowSender.slideWindow_timeoutChecked,
    List.getElem?_map, hitem, Option.map_some, SlideWindowSenderItem.markIfExpired, hkept]
  rfl

/-- The shortest round trip after an initial timeout of one millisecond. -/
theorem settles_thirtyThree :
    ∃ n r', (new 1000 estimatorAlpha estimatorBeta).ackAllArrived
        (List.replicate n ⟨⟨.regular, 1, 0, ⟨5, 0⟩⟩, ⟨5, 33⟩⟩) = .ok r' ∧
      33 ≤ r'.getCurrentTimeoutUs.toNat := by
  obtain ⟨N, hN⟩ := settles (weighted_new 1000) (le_refl 33) (by decide)
  obtain ⟨r', hrun, -, -, hle, -⟩ :=
    hN (List.replicate N ⟨⟨.regular, 1, 0, ⟨5, 0⟩⟩, ⟨5, 33⟩⟩) List.length_replicate.ge
      fun arrival hmem => by
        rw [List.eq_of_mem_replicate hmem]
        decide +kernel
  exact ⟨N, r', hrun, hle⟩

end RttEstimatorJacobson

end ReliablePacket
