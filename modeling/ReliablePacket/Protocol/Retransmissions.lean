/-
# Retransmissions

A packet is sent again after its item was set to be sent again: by a timeout sweep, or
by fast retransmission when acknowledgements repeat the number the sender waits for. A
history counts both and what the sending rounds return. The balance of the three is
read off the state of the item, and every operation keeps it.

Fast retransmission looks for one value of its counter. So until the counter overflows
every packet is retransmitted fast at most once, however many acknowledgements repeat.
-/
import ReliablePacket.Protocol.FastRetransmission

set_option autoImplicit false

namespace ReliablePacket

namespace SlideWindowSender

/-! ## Histories -/

/-- An operation has set item `n`, which was in flight, to be sent again. -/
def setsToTimeout (s s' : SlideWindowSender) (n : ℕ) : Bool :=
  (s.itemAt n).any (·.isInFlight) && (s'.itemAt n).any (·.state = .timeout)

/-- The sender with what was sent and why. -/
structure SendHistory where
  sender : SlideWindowSender
  /-- How often `prepareDataPacketsToSend` has returned each packet. -/
  sent : ℕ → ℕ
  /-- How often `checkTimeout` has set each item to be sent again. -/
  expired : ℕ → ℕ
  /-- How often `ackArrived` has. -/
  retransmitted : ℕ → ℕ
  /-- How many acknowledgements have arrived. -/
  arrived : ℕ

end SlideWindowSender

open SlideWindowSender

/-- The sender of a transfer, with its transmissions counted. -/
def Transfer.sendHistories (t : Transfer) : TransitionSystem SendHistory Operation where
  init := ⟨.new t.fileToSend t.bytesToSend t.fastRetransmission, fun _ => 0, fun _ => 0,
    fun _ => 0, 0⟩
  step op h :=
    match op with
    | .prepareDataPacketsToSend now =>
      (h.sender.prepareDataPacketsToSend false now).toOption.map fun (packets, s) =>
        { h with
          sender := s
          sent := fun n => h.sent n + (packets.map (·.seqNum.toNat)).count n }
    | .checkTimeout timeoutThresholdUs now =>
      (t.sender.step (.checkTimeout timeoutThresholdUs now) h.sender).map fun s =>
        { h with
          sender := s
          expired := fun n => h.expired n + if setsToTimeout h.sender s n then 1 else 0 }
    | .ackArrived ackPacket =>
      (t.sender.step (.ackArrived ackPacket) h.sender).map fun s =>
        { h with
          sender := s
          retransmitted := fun n =>
            h.retransmitted n + if setsToTimeout h.sender s n then 1 else 0
          arrived := h.arrived + 1 }

namespace SlideWindowSender

variable {t : Transfer} {s s' : SlideWindowSender} {h h' : SendHistory} {op : Operation}
variable {item : SlideWindowSenderItem} {n : ℕ} {now : Timeval} {timeoutThresholdUs : UInt64}
variable {ackPacket : AckPacket} {shrink : CongestionShrink}

/-- How often a sending round returns a packet. -/
theorem Numbered.count_preparedPackets (h : s.Numbered) (now : Timeval) (n : ℕ) :
    ((s.preparedPackets now).map (·.seqNum.toNat)).count n =
      if ∃ item ∈ s.itemAt n, n < s.leftBound + s.curCongestionWindow.toNat ∧ item.isSendable
      then 1 else 0 := by
  have hlt := h.rightEdge_lt
  have hnodup : ((s.preparedPackets now).map (·.seqNum.toNat)).Nodup := by
    have hseqNum : ((s.preparedPackets now).map (·.seqNum)).Nodup := h.nodup_preparedPackets
    have hmap := hseqNum.map (f := UInt32.toNat) fun _ _ => UInt32.toNat_inj.mp
    rw [List.map_map] at hmap
    exact hmap
  rw [hnodup.count]
  refine if_congr ?_ rfl rfl
  simp only [List.mem_map, mem_preparedPackets_iff, Option.mem_def]
  constructor
  · rintro ⟨packet, ⟨m, item, hitem, hwindow, hsend, rfl⟩, hnum⟩
    have hm : n = m := by
      rw [← hnum, toDataPacket, h.seqNum m item hitem,
        toNat_ofNat ((itemAt_bounds hitem).2.trans (by omega))]
    subst hm
    exact ⟨item, hitem, hwindow, hsend⟩
  · rintro ⟨item, hitem, hwindow, hsend⟩
    refine ⟨_, ⟨n, item, hitem, hwindow, hsend, rfl⟩, ?_⟩
    rw [toDataPacket, h.seqNum n item hitem,
      toNat_ofNat ((itemAt_bounds hitem).2.trans (by omega))]

namespace SendHistory

/-- **Everything one operation does to a history**, in a state that satisfies the
sender's invariant. -/
theorem step_cases (hinv : SenderInv t h.sender) (ht : t.InRange)
    (hstep : t.sendHistories.step op h = some h') :
    (∃ now, op = .prepareDataPacketsToSend now ∧
        h' = { h with
          sender := h.sender.prepared now
          sent := fun n => h.sent n +
            ((h.sender.preparedPackets now).map (·.seqNum.toNat)).count n }) ∨
      (∃ timeoutThresholdUs now, op = .checkTimeout timeoutThresholdUs now ∧
        h' = { h with
          sender := h.sender.timeoutChecked t.shrink timeoutThresholdUs now
          expired := fun n => h.expired n +
            if setsToTimeout h.sender
              (h.sender.timeoutChecked t.shrink timeoutThresholdUs now) n then 1 else 0 }) ∨
      (∃ ackPacket, op = .ackArrived ackPacket ∧
        ackPacket.cumulativeSeqNum.toNat ≤ h.sender.rightEdge ∧
        h' = { h with
          sender := h.sender.acked t.shrink ackPacket
          retransmitted := fun n => h.retransmitted n +
            if setsToTimeout h.sender (h.sender.acked t.shrink ackPacket) n then 1 else 0
          arrived := h.arrived + 1 }) := by
  cases op with
  | prepareDataPacketsToSend now =>
    change (h.sender.prepareDataPacketsToSend false now).toOption.map _ = some h' at hstep
    rw [prepareDataPacketsToSend_release] at hstep
    cases hstep
    exact .inl ⟨now, rfl, rfl⟩
  | checkTimeout timeoutThresholdUs now =>
    obtain ⟨s', hs, rfl⟩ := Option.map_eq_some_iff.mp hstep
    rcases SlideWindowSender.step_cases hinv ht hs with
      ⟨_, hop, -⟩ | ⟨_, _, hop, rfl⟩ | ⟨_, hop, -, -⟩
    · cases hop
    · cases hop
      exact .inr (.inl ⟨timeoutThresholdUs, now, rfl, rfl⟩)
    · cases hop
  | ackArrived ackPacket =>
    obtain ⟨s', hs, rfl⟩ := Option.map_eq_some_iff.mp hstep
    rcases SlideWindowSender.step_cases hinv ht hs with
      ⟨_, hop, -⟩ | ⟨_, _, hop, -⟩ | ⟨_, hop, hcum, rfl⟩
    · cases hop
    · cases hop
    · cases hop
      exact .inr (.inr ⟨ackPacket, rfl, hcum, rfl⟩)

end SendHistory

/-! ## The balance -/

/-- A packet has been sent once for every time its item was set to be sent again, and
once more unless the item waits to be sent. -/
structure Balanced (item : Option SlideWindowSenderItem) (sent marked : ℕ) : Prop where
  le : marked ≤ sent
  le_succ : sent ≤ marked + 1
  sendable : ∀ i ∈ item, i.isSendable = true → sent = marked
  inFlight : ∀ i ∈ item, i.isInFlight = true → sent = marked + 1

namespace Balanced

variable {sent marked : ℕ} {old : Option SlideWindowSenderItem}

/-- What is neither waiting nor in flight is balanced as it is. -/
theorem settle (h : Balanced old sent marked) {new : Option SlideWindowSenderItem}
    (hnew : ∀ i ∈ new, i.isSendable = false ∧ i.isInFlight = false) :
    Balanced new sent marked where
  le := h.le
  le_succ := h.le_succ
  sendable i hi hsend := by
    rw [(hnew i hi).1] at hsend
    cases hsend
  inFlight i hi hflight := by
    rw [(hnew i hi).2] at hflight
    cases hflight

/-- A waiting item is sent. -/
theorem markSent (h : Balanced (some item) sent marked) (hsend : item.isSendable = true) :
    Balanced (some (item.markSent now)) (sent + 1) marked := by
  have heq := h.sendable item rfl hsend
  refine ⟨by omega, by omega, fun i hi hagain => ?_, fun _ _ _ => by omega⟩
  cases hi
  simp only [SlideWindowSenderItem.isSendable, SlideWindowSenderItem.markSent] at hagain
  split_ifs at hagain <;> simp at hagain

/-- An item in flight is set to be sent again. -/
theorem timeout (h : Balanced (some item) sent marked) (hflight : item.isInFlight = true) :
    Balanced (some { item with state := .timeout }) sent (marked + 1) := by
  have heq := h.inFlight item rfl hflight
  refine ⟨by omega, by omega, fun _ _ _ => by omega, fun i hi hagain => ?_⟩
  cases hi
  simp [SlideWindowSenderItem.isInFlight] at hagain

end Balanced

theorem setsToTimeout_iff : setsToTimeout s s' n = true ↔
    (∃ item, s.itemAt n = some item ∧ item.isInFlight = true) ∧
      ∃ item, s'.itemAt n = some item ∧ item.state = .timeout := by
  simp only [setsToTimeout, Bool.and_eq_true, Option.any_eq_true, decide_eq_true_iff]

/-- **What an acknowledgement does at one number**: the item is gone or acknowledged, it
is the first one and retransmitted, it is left alone, or it is new. -/
theorem acked_cases (hinv : SenderInv t s) (ht : t.InRange)
    (hcum : ackPacket.cumulativeSeqNum.toNat ≤ s.rightEdge) (n : ℕ) :
    (∀ item ∈ (s.acked t.shrink ackPacket).itemAt n,
        item.isSendable = false ∧ item.isInFlight = false) ∨
      (s.retransmits ackPacket = true ∧ n = s.leftBound ∧
        ∃ item, s.itemAt n = some item ∧ item.isInFlight = true ∧
          (s.acked t.shrink ackPacket).itemAt n = some { item with state := .timeout }) ∨
      (s.acked t.shrink ackPacket).itemAt n = s.itemAt n ∨
      s.rightEdge ≤ n ∧ (s.acked t.shrink ackPacket).itemAt n = some (s.newItem (.ofNat n)) := by
  have hlast := hinv.toNat_lastPacketSeqNum ht
  have hedge := hinv.rightEdge_le
  have hlt := ht.lt
  by_cases hn : n < s.rightEdge
  · rw [itemAt_acked_of_lt t.shrink hcum (by omega) (by omega) hn]
    split_ifs with hpassed
    · -- the window has slid past it
      exact .inl nofun
    · cases hitem : s.itemAt n with
      | none => exact .inl nofun
      | some item =>
        simp only [Option.map_some, SlideWindowSenderItem.markAcked]
        -- the selective mark comes first, so a marked item is not retransmitted
        split_ifs with hselected hfirst hfirst
        · simp [SlideWindowSenderItem.isInFlight] at hfirst
        · refine .inl fun i hi => ?_
          cases hi
          exact ⟨rfl, rfl⟩
        · exact .inr (.inl ⟨hfirst.1, hfirst.2.1, item, rfl, hfirst.2.2, rfl⟩)
        · exact .inr (.inr (.inl rfl))
  · -- the window is filled at its right end
    obtain ⟨retransmit, hitems⟩ := itemAt_acked t.shrink hcum (by omega) (by omega)
    rw [hitems, if_neg hn]
    split_ifs
    · exact .inr (.inr (.inr ⟨Nat.not_lt.mp hn, rfl⟩))
    · exact .inl nofun

/-- An item in flight has not timed out. -/
theorem state_ne_timeout (hflight : item.isInFlight = true) : item.state ≠ .timeout := by
  intro htimeout
  simp [SlideWindowSenderItem.isInFlight, htimeout] at hflight

theorem state_ne_timeout_of_not_isSendable (hsend : item.isSendable = false) :
    item.state ≠ .timeout := by
  intro htimeout
  simp [SlideWindowSenderItem.isSendable, htimeout] at hsend

/-- What is neither waiting nor in flight is acknowledged. -/
theorem state_eq_acked (hsend : item.isSendable = false) (hflight : item.isInFlight = false) :
    item.state = .acked := by
  cases hstate : item.state <;>
    simp [SlideWindowSenderItem.isSendable, SlideWindowSenderItem.isInFlight, hstate]
      at hsend hflight ⊢

/-- An acknowledgement sets an item to be sent again by fast retransmission only. -/
theorem retransmits_of_setsToTimeout (hinv : SenderInv t s) (ht : t.InRange)
    (hcum : ackPacket.cumulativeSeqNum.toNat ≤ s.rightEdge)
    (hset : setsToTimeout s (s.acked t.shrink ackPacket) n = true) :
    s.retransmits ackPacket = true ∧ n = s.leftBound := by
  obtain ⟨⟨old, hold, hflight⟩, new, hnew, htimeout⟩ := setsToTimeout_iff.mp hset
  rcases acked_cases hinv ht hcum n with hsettled | ⟨hyes, hn, -⟩ | hkept | ⟨hright, -⟩
  · exact absurd htimeout (state_ne_timeout_of_not_isSendable (hsettled new hnew).1)
  · exact ⟨hyes, hn⟩
  · rw [hkept, hold] at hnew
    cases hnew
    exact absurd htimeout (state_ne_timeout hflight)
  · exact absurd (itemAt_bounds hold).2 (by omega)

/-- An acknowledgement keeps the balance of every packet. -/
theorem Balanced.acked {sent marked : ℕ} (h : Balanced (s.itemAt n) sent marked)
    (hinv : SenderInv t s) (ht : t.InRange)
    (hcum : ackPacket.cumulativeSeqNum.toNat ≤ s.rightEdge)
    (hunsent : s.rightEdge ≤ n → sent = 0) :
    Balanced ((s.acked t.shrink ackPacket).itemAt n) sent
      (marked + if setsToTimeout s (s.acked t.shrink ackPacket) n then 1 else 0) := by
  have hnot (hnew : ∀ old ∈ s.itemAt n, old.isInFlight = true →
      ∀ new ∈ (s.acked t.shrink ackPacket).itemAt n, new.state ≠ .timeout) :
      (if setsToTimeout s (s.acked t.shrink ackPacket) n then 1 else 0) = 0 := by
    refine if_neg fun hset => ?_
    obtain ⟨⟨old, hold, hflight⟩, new, hitem, htimeout⟩ := setsToTimeout_iff.mp hset
    exact hnew old hold hflight new hitem htimeout
  rcases acked_cases hinv ht hcum n with
    hsettled | ⟨-, -, item, hitem, hflight, hnew⟩ | hkept | ⟨hright, hnew⟩
  · rw [hnot fun _ _ _ new hitem => state_ne_timeout_of_not_isSendable (hsettled new hitem).1]
    exact h.settle hsettled
  · rw [if_pos (setsToTimeout_iff.mpr ⟨⟨item, hitem, hflight⟩, _, hnew, rfl⟩), hnew]
    rw [hitem] at h
    exact h.timeout hflight
  · rw [hkept] at hnot ⊢
    rw [hnot fun old hold hflight new hitem => ?_]
    · exact h
    · rw [Option.mem_unique hitem hold]
      exact state_ne_timeout hflight
  · -- a packet that enters the window has not been sent
    have hzero := hunsent hright
    have hle := h.le
    rw [hnot fun old hold => absurd (itemAt_bounds hold).2 (by omega), hnew]
    refine ⟨hle, h.le_succ, fun _ _ _ => by omega, fun item hitem hflight => ?_⟩
    cases hitem
    cases hflight

namespace SendHistory

/-- What every reachable history satisfies. -/
structure Inv (t : Transfer) (h : SendHistory) : Prop where
  sender : SenderInv t h.sender
  balanced : ∀ n, Balanced (h.sender.itemAt n) (h.sent n) (h.expired n + h.retransmitted n)
  /-- No packet to the right of the window has been sent. -/
  unsent : ∀ n, h.sender.rightEdge ≤ n → h.sent n = 0

theorem Inv.new (ht : t.InRange) : t.sendHistories.init.Inv t where
  sender := .new ht
  balanced n := by
    refine ⟨le_rfl, Nat.zero_le _, fun _ _ _ => rfl, fun item hitem hflight => ?_⟩
    obtain ⟨-, rfl⟩ := ht.itemAt_new hitem
    cases hflight
  unsent _ _ := rfl

theorem Inv.prepared (hinv : h.Inv t) (ht : t.InRange) :
    Inv t { h with
      sender := h.sender.prepared now
      sent := fun n => h.sent n +
        ((h.sender.preparedPackets now).map (·.seqNum.toNat)).count n } where
  sender := hinv.sender.prepared
  balanced n := by
    have hbalanced := hinv.balanced n
    simp only [(hinv.sender.numbered ht).count_preparedPackets, itemAt_prepared]
    cases hitem : h.sender.itemAt n with
    | none =>
      rw [hitem] at hbalanced
      simpa using hbalanced
    | some item =>
      rw [hitem] at hbalanced
      by_cases hsend : n < h.sender.leftBound + h.sender.curCongestionWindow.toNat ∧
          item.isSendable = true
      · -- the round returns the packet
        simp only [Option.mem_def, Option.some.injEq, exists_eq_left', hsend, and_self, if_true,
          Option.map_some, SlideWindowSenderItem.markIfSendable]
        exact hbalanced.markSent hsend.2
      · have hsame : (if n < h.sender.leftBound + h.sender.curCongestionWindow.toNat then
            item.markIfSendable now else item) = item := by
          split_ifs with hwindow
          · exact if_neg fun hsendable => hsend ⟨hwindow, hsendable⟩
          · rfl
        simp only [Option.mem_def, Option.some.injEq, exists_eq_left', hsend, if_false,
          Option.map_some, hsame, Nat.add_zero]
        exact hbalanced
  unsent n hn := by
    rw [rightEdge_prepared] at hn
    have hnone : h.sender.itemAt n = none := by
      refine Option.eq_none_iff_forall_ne_some.mpr fun item hitem => ?_
      exact absurd (itemAt_bounds hitem).2 (by omega)
    simp only [(hinv.sender.numbered ht).count_preparedPackets, hnone]
    simpa using hinv.unsent n hn

theorem Inv.timeoutChecked (hinv : h.Inv t) (ht : t.InRange) :
    Inv t { h with
      sender := h.sender.timeoutChecked t.shrink timeoutThresholdUs now
      expired := fun n => h.expired n +
        if setsToTimeout h.sender
          (h.sender.timeoutChecked t.shrink timeoutThresholdUs now) n then 1 else 0 } where
  sender := hinv.sender.timeoutChecked ht
  balanced n := by
    have hbalanced := hinv.balanced n
    simp only [setsToTimeout_iff, itemAt_timeoutChecked]
    cases hitem : h.sender.itemAt n with
    | none =>
      rw [hitem] at hbalanced
      simpa using hbalanced
    | some item =>
      rw [hitem] at hbalanced
      by_cases hexpired : item.hasExpired timeoutThresholdUs now = true
      · have hflight : item.isInFlight = true := (Bool.and_eq_true _ _ ▸ hexpired).1
        have htimeout := hbalanced.timeout hflight
        simp only [SlideWindowSenderItem.markIfExpired, Option.map_some, hexpired, if_true,
          Option.some.injEq, exists_eq_left', hflight, and_self]
        rwa [Nat.add_right_comm]
      · simp only [SlideWindowSenderItem.markIfExpired, Option.map_some, hexpired,
          Option.some.injEq, exists_eq_left', Bool.false_eq_true, if_false]
        rw [if_neg fun hset => state_ne_timeout hset.1 hset.2]
        exact hbalanced
  unsent n hn := by
    rw [rightEdge_timeoutChecked] at hn
    exact hinv.unsent n hn

theorem Inv.acked (hinv : h.Inv t) (ht : t.InRange)
    (hcum : ackPacket.cumulativeSeqNum.toNat ≤ h.sender.rightEdge) :
    Inv t { h with
      sender := h.sender.acked t.shrink ackPacket
      retransmitted := fun n => h.retransmitted n +
        if setsToTimeout h.sender (h.sender.acked t.shrink ackPacket) n then 1 else 0
      arrived := h.arrived + 1 } where
  sender := hinv.sender.acked ht hcum
  balanced n := by
    have hbalanced := (hinv.balanced n).acked hinv.sender ht hcum (hinv.unsent n)
    rwa [Nat.add_assoc] at hbalanced
  unsent n hn := by
    have hlast := hinv.sender.toNat_lastPacketSeqNum ht
    have hedge := hinv.sender.rightEdge_le
    have hlt := ht.lt
    rw [rightEdge_acked t.shrink hcum (by omega) (by omega)] at hn
    exact hinv.unsent n (le_of_max_le_left hn)

theorem Inv.step (hinv : h.Inv t) (ht : t.InRange) (hstep : t.sendHistories.step op h = some h') :
    h'.Inv t := by
  rcases step_cases hinv.sender ht hstep with
    ⟨now, -, rfl⟩ | ⟨thr, now, -, rfl⟩ | ⟨ack, -, hcum, rfl⟩
  · exact hinv.prepared ht
  · exact hinv.timeoutChecked ht
  · exact hinv.acked ht hcum

theorem inv_of_reachable (ht : t.InRange) (hreach : t.sendHistories.Reachable h) : h.Inv t :=
  hreach.invariant (.new ht) fun _ _ _ hinv hstep => hinv.step ht hstep

/-! ## The counter -/

/-- The counter counts the acknowledgement that repeats the left bound, starts again, or
stays as it is. -/
theorem countAfter_cases (hinv : SenderInv t s) (ackPacket : AckPacket) :
    (s.retransmits ackPacket = false ∧
        (s.countAfter ackPacket = s.lastAckAckedCount ∨
          s.leftBound < ackPacket.cumulativeSeqNum.toNat ∧ s.countAfter ackPacket = 0)) ∨
      ackPacket.cumulativeSeqNum.toNat = s.leftBound ∧
        s.countAfter ackPacket = s.lastAckAckedCount + 1 ∧
        (s.retransmits ackPacket = true → s.lastAckAckedCount + 1 = 2) := by
  have hflag : s.fastRetransmission = t.fastRetransmission := congrArg (·.2.2.2.2) hinv.params
  simp only [countAfter, retransmits]
  cases hfast : s.fastRetransmission with
  | false => exact .inl ⟨rfl, .inl rfl⟩
  | true =>
    have hlast := hinv.lastAck (hflag ▸ hfast)
    by_cases heq : s.lastAck = ackPacket.cumulativeSeqNum
    · refine .inr ⟨by rw [← heq, hlast], if_pos heq, fun hyes => ?_⟩
      exact of_decide_eq_true (Bool.and_eq_true _ _ ▸ hyes).2
    · refine .inl ⟨by simp [heq], ?_⟩
      by_cases hlt : s.lastAck < ackPacket.cumulativeSeqNum
      · refine .inr ⟨?_, by simp [heq, hlt]⟩
        rw [UInt32.lt_iff_toNat_lt, hlast] at hlt
        exact hlt
      · exact .inl (by simp [heq, hlt])

/-- Fast retransmission has happened at most once for every packet, and for the first one
of the window only if the counter has reached the threshold. -/
structure FastOnce (h : SendHistory) : Prop where
  count_nonneg : 0 ≤ h.sender.lastAckAckedCount.toInt
  count_le : h.sender.lastAckAckedCount.toInt ≤ h.arrived
  once : ∀ n, h.retransmitted n ≤ 1
  head : 0 < h.retransmitted h.sender.leftBound → 2 ≤ h.sender.lastAckAckedCount.toInt
  right : ∀ n, h.sender.leftBound < n → h.retransmitted n = 0

theorem FastOnce.acked (h1 : h.FastOnce) (hinv : SenderInv t h.sender) (ht : t.InRange)
    (hcum : ackPacket.cumulativeSeqNum.toNat ≤ h.sender.rightEdge)
    (harrived : h.arrived + 1 < 2 ^ 31) :
    FastOnce { h with
      sender := h.sender.acked t.shrink ackPacket
      retransmitted := fun n => h.retransmitted n +
        if setsToTimeout h.sender (h.sender.acked t.shrink ackPacket) n then 1 else 0
      arrived := h.arrived + 1 } := by
  have hset (n : ℕ) (hyes : setsToTimeout h.sender (h.sender.acked t.shrink ackPacket) n = true) :=
    retransmits_of_setsToTimeout hinv ht hcum hyes
  have hleft := leftBound_acked t.shrink hcum
  have hcount := lastAckAckedCount_acked t.shrink ackPacket h.sender
  have hpos := h1.count_nonneg
  have hle := h1.count_le
  have hsucc : (h.sender.lastAckAckedCount + 1).toInt = h.sender.lastAckAckedCount.toInt + 1 :=
    toInt_add_one (by omega)
  have htwo : (2 : Int32).toInt = 2 := rfl
  have hzero : (0 : Int32).toInt = 0 := rfl
  -- fast retransmission resends the item at the left bound only
  have hright (n : ℕ) (hn : h.sender.leftBound < n) : h.retransmitted n +
      (if setsToTimeout h.sender (h.sender.acked t.shrink ackPacket) n then 1 else 0) = 0 := by
    rw [h1.right n hn, if_neg fun hyes => hn.ne' (hset n hyes).2]
  have hafter := countAfter_cases hinv ackPacket
  refine ⟨?_, ?_, fun n => ?_, fun hhead => ?_, fun n hn => ?_⟩
  · rw [hcount]
    rcases hafter with ⟨-, heq | ⟨-, heq⟩⟩ | ⟨-, heq, -⟩
    · rwa [heq]
    · rw [heq, hzero]
    · rw [heq, hsucc]
      omega
  · change _ ≤ ((h.arrived + 1 : ℕ) : ℤ)
    rw [hcount]
    rcases hafter with ⟨-, heq | ⟨-, heq⟩⟩ | ⟨-, heq, -⟩
    · rw [heq]
      omega
    · rw [heq, hzero]
      omega
    · rw [heq, hsucc]
      omega
  · have honce := h1.once n
    by_cases hyes : setsToTimeout h.sender (h.sender.acked t.shrink ackPacket) n = true
    · -- the counter has just reached the threshold, so this is the first time
      obtain ⟨hretransmits, rfl⟩ := hset n hyes
      rcases hafter with ⟨hno, -⟩ | ⟨-, -, hreached⟩
      · rw [hretransmits] at hno
        cases hno
      · have hfirst : ¬ 0 < h.retransmitted h.sender.leftBound := by
          intro hbefore
          have hcounted := h1.head hbefore
          rw [hreached hretransmits, htwo] at hsucc
          omega
        simp only [hyes, if_true]
        omega
    · simp only [hyes]
      exact honce
  · change 0 < h.retransmitted _ + _ at hhead
    rw [hcount]
    rw [hleft] at hhead
    rcases Nat.lt_or_ge h.sender.leftBound ackPacket.cumulativeSeqNum.toNat with hmoved | hkept
    · -- nothing right of the old left bound has been retransmitted
      rw [max_eq_right hmoved.le, hright _ hmoved] at hhead
      cases hhead
    · -- the left bound stays, so the counter is not reset
      rw [max_eq_left hkept] at hhead
      by_cases hyes : setsToTimeout h.sender (h.sender.acked t.shrink ackPacket)
          h.sender.leftBound = true
      · rcases hafter with ⟨hno, -⟩ | ⟨-, heq, hreached⟩
        · rw [(hset _ hyes).1] at hno
          cases hno
        · rw [heq, hreached (hset _ hyes).1, htwo]
      · rw [if_neg hyes, Nat.add_zero] at hhead
        have hcounted := h1.head hhead
        rcases hafter with ⟨-, heq | ⟨hmoved, -⟩⟩ | ⟨-, heq, -⟩
        · rwa [heq]
        · omega
        · rw [heq, hsucc]
          omega
  · change h.retransmitted n + _ = 0
    rw [hleft] at hn
    exact hright n (lt_of_le_of_lt (le_max_left _ _) hn)

theorem FastOnce.step (h1 : h.FastOnce) (hinv : SenderInv t h.sender) (ht : t.InRange)
    (hstep : t.sendHistories.step op h = some h') (harrived : h'.arrived < 2 ^ 31) :
    h'.FastOnce := by
  rcases step_cases hinv ht hstep with
    ⟨now, -, rfl⟩ | ⟨thr, now, -, rfl⟩ | ⟨ack, -, hcum, rfl⟩
  · exact ⟨h1.count_nonneg, h1.count_le, h1.once, h1.head, h1.right⟩
  · obtain ⟨_, _, _, _, _, heq⟩ := timeoutChecked_frame t.shrink thr now h.sender
    rw [heq]
    exact ⟨h1.count_nonneg, h1.count_le, h1.once, h1.head, h1.right⟩
  · exact h1.acked hinv ht hcum harrived

/-- Until the counter can overflow. -/
theorem fastOnce_of_reachable (ht : t.InRange) (hreach : t.sendHistories.Reachable h)
    (harrived : h.arrived < 2 ^ 31) : h.FastOnce := by
  -- a run that stays below the bound was below it before every step
  refine (hreach.invariant (I := fun h => h.Inv t ∧ (h.arrived < 2 ^ 31 → h.FastOnce)) ?_ ?_).2
    harrived
  · refine ⟨.new ht, fun _ => ?_⟩
    exact ⟨le_rfl, le_rfl, fun _ => Nat.zero_le _, fun hhead => absurd hhead (lt_irrefl _),
      fun _ _ => rfl⟩
  · rintro h op h' ⟨hinv, honce⟩ hstep
    refine ⟨hinv.step ht hstep, fun hlt => ?_⟩
    have hbefore : h.arrived ≤ h'.arrived := by
      rcases step_cases hinv.sender ht hstep with ⟨_, -, rfl⟩ | ⟨_, _, -, rfl⟩ | ⟨_, -, -, rfl⟩
      · exact le_rfl
      · exact le_rfl
      · exact Nat.le_succ _
    exact (honce (by omega)).step hinv.sender ht hstep hlt

end SendHistory

/-! ## Results -/

open SendHistory

/-- **Every retransmission is accounted for.** In every run each packet has been sent as
often as its item was set to be sent again, by the sweep or by fast retransmission, or
once more: as often while it waits to be sent, once more while it is in flight. Fast
retransmission happens at most once for every packet, as long as fewer than `2 ^ 31`
acknowledgements arrive. -/
theorem transmissions_accounted (ht : t.InRange) (hreach : t.sendHistories.Reachable h) (n : ℕ) :
    h.expired n + h.retransmitted n ≤ h.sent n ∧
      h.sent n ≤ h.expired n + h.retransmitted n + 1 ∧
      (∀ item, h.sender.itemAt n = some item →
        (item.state = .notSent ∨ item.state = .timeout →
            h.sent n = h.expired n + h.retransmitted n) ∧
          (item.state = .sent ∨ item.state = .resent →
            h.sent n = h.expired n + h.retransmitted n + 1)) ∧
      (h.arrived < 2 ^ 31 → h.retransmitted n ≤ 1) := by
  have hbalanced := (inv_of_reachable ht hreach).balanced n
  refine ⟨hbalanced.le, hbalanced.le_succ, fun item hitem => ⟨fun hstate => ?_, fun hstate => ?_⟩,
    fun harrived => (fastOnce_of_reachable ht hreach harrived).once n⟩
  · refine hbalanced.sendable item hitem ?_
    rw [SlideWindowSenderItem.isSendable, Bool.or_eq_true, decide_eq_true_iff, decide_eq_true_iff]
    exact hstate
  · exact hbalanced.inFlight item hitem (SlideWindowSenderItem.isInFlight_iff.mpr hstate)

/-- A packet that timed out and was acknowledged only after it was sent again. -/
def resentRun : List Operation :=
  [.prepareDataPacketsToSend ⟨0, 0⟩, .checkTimeout 0 ⟨1, 0⟩, .prepareDataPacketsToSend ⟨2, 0⟩,
    .ackArrived ⟨.regular, 1, 0, ⟨0, 0⟩⟩]

/-- It was sent twice, and set to be sent again once. -/
theorem transmissions_accounted_resentRun :
    (Transfer.oneByte.sendHistories.endOf resentRun).sent 0 = 2 ∧
      (Transfer.oneByte.sendHistories.endOf resentRun).expired 0 = 1 ∧
      (Transfer.oneByte.sendHistories.endOf resentRun).sent 0 ≤
        (Transfer.oneByte.sendHistories.endOf resentRun).expired 0 +
          (Transfer.oneByte.sendHistories.endOf resentRun).retransmitted 0 + 1 :=
  ⟨by decide +kernel, by decide +kernel,
    (transmissions_accounted Transfer.oneByte_inRange
      (Transfer.oneByte.sendHistories.reachable_endOf resentRun) 0).2.1⟩

end SlideWindowSender

end ReliablePacket
