/-
# A sender without trouble

As long as no sweep finds an item too old and no acknowledgement is the second to repeat
the left bound, nothing is ever sent twice. The threshold keeps the largest value that
the constructor gives it, so the congestion window doubles whenever the left bound comes
to its own bound, and is never punished.

The window has doubled `k` times only after all packets of the smaller windows were
acknowledged, 10 and 20 and so on. So it is never more than ten ahead of the left bound.
-/
import ReliablePacket.Protocol.CongestionControl
import ReliablePacket.Protocol.Retransmissions

set_option autoImplicit false

namespace ReliablePacket

namespace SlideWindowSender

variable {t : Transfer} {s s' : SlideWindowSender} {h h' : SendHistory} {op : Operation}
variable {item : SlideWindowSenderItem} {n k : ℕ} {now : Timeval} {timeoutThresholdUs : UInt64}
variable {ackPacket : AckPacket}

/-- No item times out in the sweep, and the acknowledgement does not bring the counter of
repetitions to its threshold. -/
def Operation.untroubled (s : SlideWindowSender) : Operation → Bool
  | .prepareDataPacketsToSend _ => true
  | .checkTimeout timeoutThresholdUs now => !s.someExpired timeoutThresholdUs now
  | .ackArrived ackPacket => !s.retransmits ackPacket

/-! ## The items -/

/-- Every item is new, sent once, or acknowledged. -/
def SentOnce (s : SlideWindowSender) : Prop :=
  ∀ n item, s.itemAt n = some item → item.state ≠ .timeout ∧ item.state ≠ .resent

/-- A round sends new items only. -/
theorem SentOnce.prepared (honce : s.SentOnce) : (s.prepared now).SentOnce := by
  intro n item hitem
  rw [itemAt_prepared] at hitem
  obtain ⟨old, hold, rfl⟩ := Option.map_eq_some_iff.mp hitem
  obtain ⟨htimeout, hresent⟩ := honce n old hold
  split_ifs
  · rw [SlideWindowSenderItem.markIfSendable]
    split_ifs with hsend
    · -- an item that is sent and did not time out is new
      have hnew : old.state = .notSent := by
        rw [SlideWindowSenderItem.isSendable, Bool.or_eq_true, decide_eq_true_iff,
          decide_eq_true_iff] at hsend
        exact hsend.resolve_right htimeout
      simp [SlideWindowSenderItem.markSent, hnew]
    · exact ⟨htimeout, hresent⟩
  · exact ⟨htimeout, hresent⟩

/-- A sweep that finds nothing changes no item. -/
theorem itemAt_timeoutChecked_of_untroubled (shrink : CongestionShrink)
    (hquiet : s.someExpired timeoutThresholdUs now = false) (n : ℕ) :
    (s.timeoutChecked shrink timeoutThresholdUs now).itemAt n = s.itemAt n := by
  rw [itemAt_timeoutChecked]
  cases hitem : s.itemAt n with
  | none => rfl
  | some item =>
    have hmem : item ∈ s.slideWindow := mem_iff_itemAt.mpr ⟨n, hitem⟩
    have hkept : item.hasExpired timeoutThresholdUs now = false := by
      rw [someExpired, List.any_eq_false] at hquiet
      exact Bool.eq_false_iff.mpr (hquiet item hmem)
    rw [Option.map_some, SlideWindowSenderItem.markIfExpired, hkept]
    rfl

theorem SentOnce.acked (honce : s.SentOnce) (hinv : SenderInv t s) (ht : t.InRange)
    (hcum : ackPacket.cumulativeSeqNum.toNat ≤ s.rightEdge)
    (hquiet : s.retransmits ackPacket = false) : (s.acked t.shrink ackPacket).SentOnce := by
  intro n item hitem
  rcases acked_cases hinv ht hcum n with hsettled | ⟨htrouble, -⟩ | hkept | ⟨-, hnew⟩
  · obtain ⟨hsend, hflight⟩ := hsettled item hitem
    simp [state_eq_acked hsend hflight]
  · rw [hquiet] at htrouble
    cases htrouble
  · rw [hkept] at hitem
    exact honce n item hitem
  · rw [hnew] at hitem
    cases hitem
    have hstate : (s.newItem (.ofNat n)).state = .notSent := rfl
    simp [hstate]

/-! ## The congestion window -/

/-- The window has doubled `k` times. -/
structure SlowStart (k : ℕ) (s : SlideWindowSender) : Prop where
  threshold : s.curCongestionThreshold = .ofNat (2 ^ 32 - 1)
  timeouted : s.curCongestionWindowTimeouted = false
  window : s.curCongestionWindow.toNat = 10 * 2 ^ k
  /-- The packets of the smaller windows were acknowledged. -/
  window_le : s.curCongestionWindow.toNat ≤ s.leftBound + 10
  /-- The window doubles again after its own packets. -/
  le_bound : 2 * s.curCongestionWindow.toNat ≤ s.congestionLeftBoundSeqNum.toNat + 10
  below : s.leftBound < s.congestionLeftBoundSeqNum.toNat

namespace SlowStart

theorem new (t : Transfer) :
    (new t.fileToSend t.bytesToSend t.fastRetransmission).SlowStart 0 where
  threshold := rfl
  timeouted := rfl
  window := rfl
  window_le := le_rfl
  le_bound := le_rfl
  below := by
    change (0 : ℕ) < 10
    decide

/-- What leaves the variables and the left bound alone. -/
theorem congr (hslow : s.SlowStart k) (hvars : s'.congestionVars = s.congestionVars)
    (hle : s.leftBound ≤ s'.leftBound)
    (hbelow : s'.leftBound < s.congestionLeftBoundSeqNum.toNat) : s'.SlowStart k := by
  obtain ⟨hwindow, hthreshold, hbound, htimeouted⟩ := congestionVars_eq_iff.mp hvars
  have hle' := hslow.window_le
  refine ⟨hthreshold.trans hslow.threshold, htimeouted.trans hslow.timeouted, ?_, ?_, ?_, ?_⟩
  · rw [hwindow, hslow.window]
  · rw [hwindow]
    omega
  · rw [hwindow, hbound]
    exact hslow.le_bound
  · rw [hbound]
    exact hbelow

theorem prepared (hslow : s.SlowStart k) : (s.prepared now).SlowStart k := by
  refine hslow.congr ?_ le_rfl hslow.below
  rw [congestionVars_eq_iff]
  exact ⟨rfl, rfl, rfl, hslow.timeouted.symm⟩

theorem timeoutChecked (hslow : s.SlowStart k) (shrink : CongestionShrink)
    (hquiet : s.someExpired timeoutThresholdUs now = false) :
    (s.timeoutChecked shrink timeoutThresholdUs now).SlowStart k := by
  have hleft : (s.timeoutChecked shrink timeoutThresholdUs now).leftBound = s.leftBound :=
    leftBound_timeoutChecked
  refine hslow.congr ?_ hleft.ge (hleft ▸ hslow.below)
  rw [congestionVars_timeoutChecked, punishesTimeout, hquiet, Bool.and_false]
  rfl

/-- Below the threshold of the constructor growth doubles the window. -/
theorem curCongestionWindow_growCongestionWindow (hgrows : s.grows = true)
    (hthreshold : s.curCongestionThreshold = .ofNat (2 ^ 32 - 1))
    (hlt : s.curCongestionWindow.toNat * 2 < 2 ^ 32 - 1) :
    s.growCongestionWindow.curCongestionWindow = s.curCongestionWindow * 2 := by
  have hbound : s.congestionLeftBoundSeqNum ≤ s.slideWindowLeftBoundSeqNum :=
    of_decide_eq_true hgrows
  have hmax : (UInt32.ofNat (2 ^ 32 - 1)).toNat = 2 ^ 32 - 1 := rfl
  have hdouble : (s.curCongestionWindow * 2).toNat = s.curCongestionWindow.toNat * 2 := by
    rw [UInt32.toNat_mul, show (2 : UInt32).toNat = 2 from rfl]
    omega
  have hbelow : s.curCongestionWindow < s.curCongestionThreshold := by
    rw [UInt32.lt_iff_toNat_lt, hthreshold, hmax]
    omega
  have habove : ¬ s.curCongestionThreshold ≤ s.curCongestionWindow * 2 := by
    rw [UInt32.le_iff_toNat_le, hthreshold, hmax, hdouble]
    omega
  simp only [growCongestionWindow, if_pos hbound, if_pos hbelow, if_neg habove]
  rfl

/-- Growth doubles the window once the left bound has come to the bound. -/
theorem grown {u : SlideWindowSender} (hslow : s.SlowStart k)
    (hvars : u.congestionVars = s.congestionVars) (hok : u.CongestionOk)
    (hlt : u.leftBound < 2 ^ 31 - 20) (hgrows : u.grows = true) :
    u.growCongestionWindow.SlowStart (k + 1) := by
  obtain ⟨hwindow, hthreshold, hbound, htimeouted⟩ := congestionVars_eq_iff.mp hvars
  have hreached : u.congestionLeftBoundSeqNum.toNat ≤ u.leftBound := of_decide_eq_true hgrows
  have hdoubles := hslow.le_bound
  have hpow := hslow.window
  rw [← hbound, ← hwindow] at hdoubles
  rw [← hwindow] at hpow
  have hgrowth := hok.growthOk hlt hgrows
  -- the window is at most half of the bound, which keeps its double below the threshold
  have hdouble : u.growCongestionWindow.curCongestionWindow.toNat =
      u.curCongestionWindow.toNat * 2 := by
    rw [curCongestionWindow_growCongestionWindow hgrows (hthreshold.trans hslow.threshold)
      (by omega), hgrowth.double]
  have hset := hgrowth.bound
  rw [growCongestionWindow_of_grows hgrows]
  have hten := hok.windowMin
  refine ⟨hthreshold.trans hslow.threshold, htimeouted.trans hslow.timeouted, ?_, ?_, ?_, ?_⟩
  · change u.growCongestionWindow.curCongestionWindow.toNat = _
    rw [hdouble, hpow, pow_succ, Nat.mul_assoc]
  · change u.growCongestionWindow.curCongestionWindow.toNat ≤ u.leftBound + 10
    omega
  · change 2 * u.growCongestionWindow.curCongestionWindow.toNat ≤
      (u.slideWindowLeftBoundSeqNum + u.growCongestionWindow.curCongestionWindow).toNat + 10
    omega
  · change u.leftBound <
      (u.slideWindowLeftBoundSeqNum + u.growCongestionWindow.curCongestionWindow).toNat
    omega

/-- Without fast retransmission nothing touches the variables before growth. -/
theorem congestionVars_beforeGrowth_of_untroubled (shrink : CongestionShrink)
    (hquiet : s.retransmits ackPacket = false) :
    (s.beforeGrowth shrink ackPacket).congestionVars = s.congestionVars := by
  have hpunishes : ¬ s.punishesDuplicateAck ackPacket = true := by
    intro hpunishes
    obtain ⟨hfast, hsame, hcount, -⟩ := punishesDuplicateAck_iff.mp hpunishes
    rw [retransmits, hfast, decide_eq_true hsame, decide_eq_true hcount] at hquiet
    cases hquiet
  rw [congestionVars_beforeGrowth, if_neg hpunishes]

theorem grows_of_untroubled (shrink : CongestionShrink)
    (hcum : ackPacket.cumulativeSeqNum.toNat ≤ s.rightEdge)
    (hquiet : s.retransmits ackPacket = false) :
    (s.beforeGrowth shrink ackPacket).grows = true ↔
      s.congestionLeftBoundSeqNum.toNat ≤ (s.acked shrink ackPacket).leftBound := by
  have hvars := congestionVars_beforeGrowth_of_untroubled shrink hquiet
  rw [grows, decide_eq_true_iff, UInt32.le_iff_toNat_le, (congestionVars_eq_iff.mp hvars).2.2.1,
    leftBound_acked shrink hcum, ← leftBound_beforeGrowth shrink]
  rfl

/-- An acknowledgement that is no trouble doubles the window or leaves it. -/
theorem acked (hslow : s.SlowStart k) (hinv : SenderInv t s) (ht : t.InRange)
    (hcum : ackPacket.cumulativeSeqNum.toNat ≤ s.rightEdge)
    (hquiet : s.retransmits ackPacket = false) :
    (s.acked t.shrink ackPacket).SlowStart
      (if s.congestionLeftBoundSeqNum.toNat ≤ (s.acked t.shrink ackPacket).leftBound then k + 1
        else k) := by
  have hbefore := congestionVars_beforeGrowth_of_untroubled t.shrink hquiet
  have hleft := leftBound_beforeGrowth t.shrink ackPacket s
  have hafter := congestionVars_acked t.shrink ackPacket s
  rw [← leftBound_acked t.shrink hcum] at hleft
  simp only [← grows_of_untroubled t.shrink hcum hquiet]
  cases hgrows : (s.beforeGrowth t.shrink ackPacket).grows with
  | false =>
    rw [growCongestionWindow_of_not_grows hgrows] at hafter
    refine hslow.congr (hafter.trans hbefore) ?_ ?_
    · rw [leftBound_acked t.shrink hcum]
      exact le_max_left _ _
    · -- the left bound has not come to the bound
      refine Nat.lt_of_not_le fun hreached => ?_
      rw [← grows_of_untroubled t.shrink hcum hquiet, hgrows] at hreached
      exact Bool.false_ne_true hreached
  | true =>
    have hgrown := hslow.grown hbefore (hinv.congestion_beforeGrowth ht)
      (hinv.leftBound_beforeGrowth_lt ht hcum) hgrows
    have hsame : (s.beforeGrowth t.shrink ackPacket).growCongestionWindow.leftBound =
        (s.acked t.shrink ackPacket).leftBound := by
      obtain ⟨window, bound, hframe⟩ :=
        growCongestionWindow_frame (s.beforeGrowth t.shrink ackPacket)
      rw [hframe]
      exact hleft
    exact hgrown.congr hafter hsame.le (hsame ▸ hgrown.below)

end SlowStart

/-! ## Histories -/

namespace SendHistory

/-- What holds of a history without trouble. -/
structure Calm (t : Transfer) (h : SendHistory) : Prop where
  inv : h.Inv t
  sentOnce : h.sender.SentOnce
  expired : ∀ n, h.expired n = 0
  retransmitted : ∀ n, h.retransmitted n = 0
  slowStart : ∃ k, h.sender.SlowStart k

/-- What sets no item to be sent again leaves the count of it. -/
theorem count_eq_zero {s s' : SlideWindowSender} {count : ℕ → ℕ} (hcount : ∀ n, count n = 0)
    (hnone : ∀ n, setsToTimeout s s' n = false) (n : ℕ) :
    (count n + if setsToTimeout s s' n then 1 else 0) = 0 := by
  rw [hcount, hnone]
  rfl

theorem Calm.step (hcalm : h.Calm t) (ht : t.InRange) (hquiet : op.untroubled h.sender = true)
    (hstep : t.sendHistories.step op h = some h') : h'.Calm t := by
  obtain ⟨hinv, honce, hexpired, hretransmitted, k, hslow⟩ := hcalm
  have hinv' := hinv.step ht hstep
  rcases step_cases hinv.sender ht hstep with
    ⟨now, rfl, rfl⟩ | ⟨timeoutThresholdUs, now, rfl, rfl⟩ | ⟨ackPacket, rfl, hcum, rfl⟩
  · exact ⟨hinv', honce.prepared, hexpired, hretransmitted, k, hslow.prepared⟩
  · have hquiet : h.sender.someExpired timeoutThresholdUs now = false :=
      Bool.not_eq_true' _ ▸ hquiet
    have hitems := itemAt_timeoutChecked_of_untroubled t.shrink hquiet
    have honce' : (h.sender.timeoutChecked t.shrink timeoutThresholdUs now).SentOnce :=
      fun n item hitem => honce n item (hitems n ▸ hitem)
    refine ⟨hinv', honce', count_eq_zero hexpired fun n => ?_, hretransmitted, k,
      hslow.timeoutChecked t.shrink hquiet⟩
    rw [Bool.eq_false_iff, ne_eq, setsToTimeout_iff]
    rintro ⟨-, item, hitem, htimeout⟩
    exact (honce' n item hitem).1 htimeout
  · have hquiet : h.sender.retransmits ackPacket = false := Bool.not_eq_true' _ ▸ hquiet
    refine ⟨hinv', honce.acked hinv.sender ht hcum hquiet, hexpired,
      count_eq_zero hretransmitted fun n => ?_, _, hslow.acked hinv.sender ht hcum hquiet⟩
    by_contra hset
    have htrouble := retransmits_of_setsToTimeout hinv.sender ht hcum (Bool.not_eq_false _ ▸ hset)
    rw [hquiet] at htrouble
    exact Bool.false_ne_true htrouble.1

theorem calm_of_reachableVia (ht : t.InRange)
    (hreach : t.sendHistories.ReachableVia (fun h op => op.untroubled h.sender = true) h) :
    h.Calm t := by
  refine hreach.invariant ?_ fun _ _ _ _ hcalm hquiet hstep => hcalm.step ht hquiet hstep
  refine ⟨.new ht, fun n item hitem => ?_, fun _ => rfl, fun _ => rfl, 0, .new t⟩
  obtain ⟨-, rfl⟩ := ht.itemAt_new hitem
  exact ⟨nofun, nofun⟩

end SendHistory

/-- **Slow start.** As long as no sweep finds an item too old and no acknowledgement is
the one that retransmits, every packet is sent at most once, and the congestion window
is ten times a power of two, at most ten ahead of the left bound. It doubles with the
acknowledgement that brings the left bound to its bound, and with no other. -/
theorem slow_start (ht : t.InRange)
    (hreach : t.sendHistories.ReachableVia (fun h op => op.untroubled h.sender = true) h) :
    (∀ n, h.sent n ≤ 1) ∧
      (∀ n item, h.sender.itemAt n = some item →
        item.state ≠ .timeout ∧ item.state ≠ .resent) ∧
      h.sender.curCongestionWindowTimeouted = false ∧
      (∃ k, h.sender.curCongestionWindow.toNat = 10 * 2 ^ k) ∧
      h.sender.curCongestionWindow.toNat ≤ h.sender.slideWindowLeftBoundSeqNum.toNat + 10 ∧
      h.sender.slideWindowLeftBoundSeqNum < h.sender.congestionLeftBoundSeqNum ∧
      ∀ ackPacket h', h.sender.retransmits ackPacket = false →
        t.sendHistories.step (.ackArrived ackPacket) h = some h' →
        h'.sender.curCongestionWindow.toNat =
          if h.sender.congestionLeftBoundSeqNum ≤ h'.sender.slideWindowLeftBoundSeqNum then
            2 * h.sender.curCongestionWindow.toNat
          else h.sender.curCongestionWindow.toNat := by
  obtain ⟨hinv, honce, hexpired, hretransmitted, k, hslow⟩ :=
    SendHistory.calm_of_reachableVia ht hreach
  refine ⟨fun n => ?_, honce, hslow.timeouted, ⟨k, hslow.window⟩, hslow.window_le,
    UInt32.lt_iff_toNat_lt.mpr hslow.below, fun ackPacket h' hquiet hstep => ?_⟩
  · have hle := (hinv.balanced n).le_succ
    rw [hexpired, hretransmitted] at hle
    exact hle
  · rcases SendHistory.step_cases hinv.sender ht hstep with
      ⟨_, hop, -⟩ | ⟨_, _, hop, -⟩ | ⟨_, hop, hcum, rfl⟩
    · cases hop
    · cases hop
    · cases hop
      have hwindow := (hslow.acked hinv.sender ht hcum hquiet).window
      simp only [UInt32.le_iff_toNat_le]
      rw [hwindow, hslow.window, leftBound]
      split_ifs
      · rw [pow_succ]
        omega
      · rfl

/-- Ten packets are sent, looked at before they are too old, and six acknowledged. -/
def sixAcked : List Operation :=
  [.prepareDataPacketsToSend ⟨0, 0⟩, .checkTimeout 1000 ⟨0, 500⟩,
    .ackArrived ⟨.regular, 6, 5, ⟨0, 0⟩⟩]

/-- The acknowledgement of the other four doubles the window. -/
theorem slow_start_sixAcked : ∃ h h',
    WindowHistory.thirtyPackets.sendHistories.runVia (fun h op => op.untroubled h.sender) sixAcked
        WindowHistory.thirtyPackets.sendHistories.init = some h ∧
      WindowHistory.thirtyPackets.sendHistories.step
        (.ackArrived ⟨.regular, 10, 9, ⟨0, 0⟩⟩) h = some h' ∧
      (∀ n, h.sent n ≤ 1) ∧ h.sender.curCongestionWindow.toNat = 10 ∧
      h'.sender.curCongestionWindow.toNat = 20 := by
  have hrun : ((WindowHistory.thirtyPackets.sendHistories.runVia
      (fun h op => op.untroubled h.sender) sixAcked
      WindowHistory.thirtyPackets.sendHistories.init).bind fun h =>
        (WindowHistory.thirtyPackets.sendHistories.step
          (.ackArrived ⟨.regular, 10, 9, ⟨0, 0⟩⟩) h).map fun h' =>
          (h.sender.retransmits ⟨.regular, 10, 9, ⟨0, 0⟩⟩, h.sender.curCongestionWindow,
            h.sender.congestionLeftBoundSeqNum, h'.sender.slideWindowLeftBoundSeqNum)) =
        some (false, 10, 10, 10) := by
    decide +kernel
  obtain ⟨h, hprefix, hrest⟩ := Option.bind_eq_some_iff.mp hrun
  obtain ⟨h', hstep, hvalues⟩ := Option.map_eq_some_iff.mp hrest
  simp only [Prod.mk.injEq] at hvalues
  obtain ⟨hquiet, hwindow, hbound, hleft⟩ := hvalues
  have hreach : WindowHistory.thirtyPackets.sendHistories.ReachableVia
      (fun h op => op.untroubled h.sender = true) h :=
    .runVia .init (fun _ _ htest => htest) hprefix
  obtain ⟨hsent, -, -, -, -, -, hdouble⟩ := slow_start ⟨by decide, by decide⟩ hreach
  have hgrown := hdouble _ h' hquiet hstep
  rw [hbound, hleft, if_pos (UInt32.le_refl _), hwindow] at hgrown
  exact ⟨h, h', hprefix, hstep, hsent, congrArg UInt32.toNat hwindow, hgrown⟩

end SlideWindowSender

end ReliablePacket
