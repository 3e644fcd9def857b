/-
# Timeouts of the sender

The sender together with the sending rounds so far. An item that is in flight
carries the clock reading of the last round that returned its packet, since only
a round puts an item in flight and it stamps what it returns. So the timeout sweep
compares with its threshold the time that has passed since then.
-/
import ReliablePacket.Protocol.Clock
import ReliablePacket.Protocol.SenderRuns

set_option autoImplicit false

namespace ReliablePacket

open NumberedQueue

namespace SlideWindowSenderItem

variable {item : SlideWindowSenderItem} {now : Timeval} {timeoutThresholdUs : UInt64}

/-- The microseconds that have passed since the item was sent last. -/
def age (now : Timeval) (item : SlideWindowSenderItem) : ℤ :=
  now.usecs - item.lastSentTime.usecs

theorem isInFlight_iff : item.isInFlight = true ↔ item.state = .sent ∨ item.state = .resent := by
  rw [isInFlight, Bool.or_eq_true, decide_eq_true_iff, decide_eq_true_iff]

/-- The sweep puts no item in flight. -/
theorem markIfExpired_eq_self
    (hflight : (item.markIfExpired timeoutThresholdUs now).isInFlight = true) :
    item.markIfExpired timeoutThresholdUs now = item := by
  rw [markIfExpired] at hflight ⊢
  split_ifs at hflight ⊢ with hexpired
  · rw [isInFlight_iff] at hflight
    rcases hflight with hsent | hresent
    · cases hsent
    · cases hresent
  · rfl

/-- An acknowledgement puts no item in flight. -/
theorem markAcked_eq_self {ackPacket : AckPacket} {retransmit : Bool} {left n : ℕ}
    (hflight : (item.markAcked ackPacket retransmit left n).isInFlight = true) :
    item.markAcked ackPacket retransmit left n = item := by
  simp only [markAcked] at hflight ⊢
  split_ifs at hflight ⊢
  · cases hflight
  · cases hflight
  · cases hflight
  · rfl

/-- A round stamps what it puts in flight. -/
theorem markIfSendable_cases (now : Timeval) (item : SlideWindowSenderItem) :
    item.isSendable = true ∧ (item.markIfSendable now).seqNum = item.seqNum ∧
        (item.markIfSendable now).lastSentTime = now ∨
      item.isSendable = false ∧ item.markIfSendable now = item := by
  rw [markIfSendable]
  split_ifs with hsend
  · exact .inl ⟨hsend, rfl, rfl⟩
  · exact .inr ⟨Bool.eq_false_iff.mpr hsend, rfl⟩

theorem not_isInFlight_of_isSendable (hsend : item.isSendable = true) :
    ¬ item.isInFlight = true := by
  rw [isSendable, Bool.or_eq_true, decide_eq_true_iff, decide_eq_true_iff] at hsend
  rw [isInFlight_iff]
  rcases hsend with hnew | htimeout
  · rw [hnew]
    decide
  · rw [htimeout]
    decide

/-- Where elapsed time is exact, an item expires when its age exceeds the threshold. -/
theorem hasExpired_iff (helapsed : item.isInFlight = true →
      ((getElapsedUs item.lastSentTime now).toNat : ℤ) = item.age now) :
    item.hasExpired timeoutThresholdUs now = true ↔
      (item.state = .sent ∨ item.state = .resent) ∧
        (timeoutThresholdUs.toNat : ℤ) < item.age now := by
  rw [hasExpired, Bool.and_eq_true, decide_eq_true_iff, isInFlight_iff]
  refine and_congr_right fun hstate => ?_
  rw [← helapsed (isInFlight_iff.mpr hstate), UInt64.lt_iff_toNat_lt, Int.ofNat_lt]

end SlideWindowSenderItem

namespace SlideWindowSender

/-! ## Sending rounds -/

/-- One call of `prepareDataPacketsToSend`: the clock reading and what it returned. -/
structure Round where
  now : Timeval
  packets : List (DataPacket ItemData)

/-- The round returned a packet with this number. -/
def Round.returns (seqNum : UInt32) (round : Round) : Bool :=
  round.packets.any (·.seqNum = seqNum)

/-- The sender with the rounds so far, the latest first. -/
structure RoundHistory where
  sender : SlideWindowSender
  rounds : List Round

/-- The clock reading of the last round that returned a packet with this number. -/
def lastReturned (rounds : List Round) (seqNum : UInt32) : Option Timeval :=
  (rounds.find? (·.returns seqNum)).map (·.now)

/-- The clock reading inside an operation. `ackArrived` makes none. -/
def Operation.reading : Operation → Option Timeval
  | .prepareDataPacketsToSend now => some now
  | .checkTimeout _ now => some now
  | .ackArrived _ => none

/-- The clock readings of a run. -/
def readings (ops : List Operation) : List Timeval := ops.filterMap (·.reading)

end SlideWindowSender

open SlideWindowSender

/-- The sender of a transfer, with its rounds recorded. -/
def Transfer.roundHistories (t : Transfer) : TransitionSystem RoundHistory Operation where
  init := ⟨.new t.fileToSend t.bytesToSend t.fastRetransmission, []⟩
  step op h :=
    match op with
    | .prepareDataPacketsToSend now =>
      (h.sender.prepareDataPacketsToSend false now).toOption.map fun (packets, s) =>
        ⟨s, ⟨now, packets⟩ :: h.rounds⟩
    | op => (t.sender.step op h.sender).map fun s => ⟨s, h.rounds⟩

namespace SlideWindowSender

namespace RoundHistory

variable {t : Transfer} {h h' : RoundHistory} {op : Operation} {ops : List Operation}
variable {item : SlideWindowSenderItem} {now : Timeval} {timeoutThresholdUs : UInt64} {n : ℕ}

/-- What every reachable history satisfies. -/
structure Inv (t : Transfer) (h : RoundHistory) : Prop where
  sender : SenderInv t h.sender
  stamped : ∀ item ∈ h.sender.slideWindow, item.isInFlight = true →
    lastReturned h.rounds item.seqNum = some item.lastSentTime

/-- A sweep is always enabled. -/
theorem step_checkTimeout (t : Transfer) (timeoutThresholdUs : UInt64) (now : Timeval)
    (h : RoundHistory) :
    t.roundHistories.step (.checkTimeout timeoutThresholdUs now) h =
      some ⟨h.sender.timeoutChecked t.shrink timeoutThresholdUs now, h.rounds⟩ := by
  change ((h.sender.checkTimeout t.shrink false timeoutThresholdUs now).toOption).map _ = _
  rw [checkTimeout_release]
  rfl

/-- **Everything one operation does to a history** in a state that satisfies the
invariant. -/
theorem Inv.step_cases (hinv : h.Inv t) (ht : t.InRange)
    (hstep : t.roundHistories.step op h = some h') :
    (∃ now, op = .prepareDataPacketsToSend now ∧
        h' = ⟨h.sender.prepared now, ⟨now, h.sender.preparedPackets now⟩ :: h.rounds⟩) ∨
      (∃ timeoutThresholdUs now, op = .checkTimeout timeoutThresholdUs now ∧
        h' = ⟨h.sender.timeoutChecked t.shrink timeoutThresholdUs now, h.rounds⟩) ∨
      (∃ ackPacket, op = .ackArrived ackPacket ∧
        ackPacket.cumulativeSeqNum.toNat ≤ h.sender.rightEdge ∧
        h' = ⟨h.sender.acked t.shrink ackPacket, h.rounds⟩) := by
  cases op with
  | prepareDataPacketsToSend now =>
    change (h.sender.prepareDataPacketsToSend false now).toOption.map _ = some h' at hstep
    rw [prepareDataPacketsToSend_release] at hstep
    cases hstep
    exact .inl ⟨now, rfl, rfl⟩
  | checkTimeout timeoutThresholdUs now =>
    rw [step_checkTimeout] at hstep
    cases hstep
    exact .inr (.inl ⟨timeoutThresholdUs, now, rfl, rfl⟩)
  | ackArrived ackPacket =>
    obtain ⟨s', hs, rfl⟩ := Option.map_eq_some_iff.mp hstep
    rcases SlideWindowSender.step_cases hinv.sender ht hs with
      ⟨_, hop, -⟩ | ⟨_, _, hop, -⟩ | ⟨_, hop, hcum, rfl⟩
    · cases hop
    · cases hop
    · cases hop
      exact .inr (.inr ⟨ackPacket, rfl, hcum, rfl⟩)

/-! ## The stamps of items in flight -/

theorem lastReturned_of_mem {rounds : List Round} {packets : List (DataPacket ItemData)}
    {packet : DataPacket ItemData} (hmem : packet ∈ packets) :
    lastReturned (⟨now, packets⟩ :: rounds) packet.seqNum = some now := by
  have hreturns : Round.returns packet.seqNum ⟨now, packets⟩ = true :=
    List.any_eq_true.mpr ⟨packet, hmem, decide_eq_true rfl⟩
  rw [lastReturned, List.find?_cons_of_pos hreturns]
  rfl

theorem lastReturned_of_forall_ne {rounds : List Round} {packets : List (DataPacket ItemData)}
    {seqNum : UInt32} (hne : ∀ packet ∈ packets, packet.seqNum ≠ seqNum) :
    lastReturned (⟨now, packets⟩ :: rounds) seqNum = lastReturned rounds seqNum := by
  have hreturns : ¬ Round.returns seqNum ⟨now, packets⟩ = true := by
    intro hreturns
    obtain ⟨packet, hmem, heq⟩ := List.any_eq_true.mp hreturns
    exact hne packet hmem (of_decide_eq_true heq)
  rw [lastReturned, List.find?_cons_of_neg hreturns, lastReturned]

/-- A round returns no packet of an item that is in flight. -/
theorem Inv.seqNum_ne (hinv : h.Inv t) (ht : t.InRange) (hitem : h.sender.itemAt n = some item)
    (hflight : item.isInFlight = true) :
    ∀ packet ∈ h.sender.preparedPackets now, packet.seqNum ≠ item.seqNum := by
  rintro packet hmem heq
  obtain ⟨m, other, hother, -, hsend, rfl⟩ := mem_preparedPackets_iff.mp hmem
  have hnumbered := hinv.sender.numbered ht
  have hlt := hnumbered.rightEdge_lt
  have hn := (itemAt_bounds hitem).2
  have hm := (itemAt_bounds hother).2
  -- equal numbers stand at one place
  have hsame : m = n := by
    have hnat := congrArg UInt32.toNat heq
    rw [toDataPacket, hnumbered.seqNum m other hother, hnumbered.seqNum n item hitem,
      toNat_ofNat (by omega), toNat_ofNat (by omega)] at hnat
    exact hnat
  rw [hsame, hitem] at hother
  cases hother
  exact SlideWindowSenderItem.not_isInFlight_of_isSendable hsend hflight

theorem Inv.prepared (hinv : h.Inv t) (ht : t.InRange) :
    Inv t ⟨h.sender.prepared now, ⟨now, h.sender.preparedPackets now⟩ :: h.rounds⟩ where
  sender := hinv.sender.prepared
  stamped := by
    intro item hmem hflight
    obtain ⟨n, hitem⟩ := mem_iff_itemAt.mp hmem
    rw [itemAt_prepared] at hitem
    obtain ⟨old, hold, rfl⟩ := Option.map_eq_some_iff.mp hitem
    have hkept : old.isInFlight = true →
        lastReturned (⟨now, h.sender.preparedPackets now⟩ :: h.rounds) old.seqNum =
          some old.lastSentTime := by
      intro holdFlight
      rw [lastReturned_of_forall_ne (hinv.seqNum_ne ht hold holdFlight)]
      exact hinv.stamped old (mem_iff_itemAt.mpr ⟨n, hold⟩) holdFlight
    split_ifs at hflight ⊢ with hcw
    · rcases SlideWindowSenderItem.markIfSendable_cases now old with
        ⟨hsend, hseq, htime⟩ | ⟨-, hsame⟩
      · have hpacket : h.sender.toDataPacket now old ∈ h.sender.preparedPackets now :=
          mem_preparedPackets_iff.mpr ⟨n, old, hold, hcw, hsend, rfl⟩
        rw [hseq, htime]
        exact lastReturned_of_mem hpacket
      · rw [hsame] at hflight ⊢
        exact hkept hflight
    · exact hkept hflight

theorem Inv.timeoutChecked (hinv : h.Inv t) (ht : t.InRange) :
    Inv t ⟨h.sender.timeoutChecked t.shrink timeoutThresholdUs now, h.rounds⟩ where
  sender := hinv.sender.timeoutChecked ht
  stamped := by
    intro item hmem hflight
    rw [slideWindow_timeoutChecked] at hmem
    obtain ⟨old, hold, rfl⟩ := List.mem_map.mp hmem
    have hsame := SlideWindowSenderItem.markIfExpired_eq_self hflight
    rw [hsame] at hflight ⊢
    exact hinv.stamped old hold hflight

theorem Inv.acked {ackPacket : AckPacket} (hinv : h.Inv t) (ht : t.InRange)
    (hcum : ackPacket.cumulativeSeqNum.toNat ≤ h.sender.rightEdge) :
    Inv t ⟨h.sender.acked t.shrink ackPacket, h.rounds⟩ where
  sender := hinv.sender.acked ht hcum
  stamped := by
    intro item hmem hflight
    obtain ⟨n, hitem⟩ := mem_iff_itemAt.mp hmem
    have hlast := hinv.sender.toNat_lastPacketSeqNum ht
    have hedge := hinv.sender.rightEdge_le
    have hlt := ht.lt
    obtain ⟨retransmit, hacked⟩ := itemAt_acked t.shrink hcum (by omega) (by omega)
    rw [hacked] at hitem
    split_ifs at hitem with hright hpassed hnew
    · obtain ⟨old, hold, rfl⟩ := Option.map_eq_some_iff.mp hitem
      have hsame := SlideWindowSenderItem.markAcked_eq_self hflight
      rw [hsame] at hflight ⊢
      exact hinv.stamped old (mem_iff_itemAt.mpr ⟨n, hold⟩) hflight
    · -- a new item is not in flight
      cases hitem
      cases hflight

theorem Inv.step (hinv : h.Inv t) (ht : t.InRange) (hstep : t.roundHistories.step op h = some h') :
    h'.Inv t := by
  rcases hinv.step_cases ht hstep with ⟨now, -, rfl⟩ | ⟨thr, now, -, rfl⟩ | ⟨ack, -, hcum, rfl⟩
  · exact hinv.prepared ht
  · exact hinv.timeoutChecked ht
  · exact hinv.acked ht hcum

theorem inv_init (ht : t.InRange) : t.roundHistories.init.Inv t where
  sender := .new ht
  stamped := by
    intro item hmem hflight
    obtain ⟨n, hitem⟩ := mem_iff_itemAt.mp hmem
    obtain ⟨-, rfl⟩ := ht.itemAt_new hitem
    cases hflight

theorem inv_of_reachable (ht : t.InRange) (hreach : t.roundHistories.Reachable h) : h.Inv t :=
  hreach.invariant (inv_init ht) fun _ _ _ hinv hstep => hinv.step ht hstep

/-! ## The readings of a run -/

/-- A round of the history is an old one or was just made. -/
theorem mem_rounds_of_step (hstep : t.roundHistories.step op h = some h') {round : Round}
    (hround : round ∈ h'.rounds) : round ∈ h.rounds ∨ op.reading = some round.now := by
  cases op with
  | prepareDataPacketsToSend now =>
    obtain ⟨⟨packets, s⟩, -, rfl⟩ := Option.map_eq_some_iff.mp hstep
    rcases List.mem_cons.mp hround with rfl | hold
    · exact .inr rfl
    · exact .inl hold
  | checkTimeout timeoutThresholdUs now =>
    obtain ⟨s, -, rfl⟩ := Option.map_eq_some_iff.mp hstep
    exact .inl hround
  | ackArrived ackPacket =>
    obtain ⟨s, -, rfl⟩ := Option.map_eq_some_iff.mp hstep
    exact .inl hround

theorem mem_readings_of_run (hrun : t.roundHistories.run ops h = some h') {round : Round}
    (hround : round ∈ h'.rounds) : round ∈ h.rounds ∨ round.now ∈ readings ops := by
  induction ops generalizing h with
  | nil =>
    cases hrun
    exact .inl hround
  | cons op ops ih =>
    obtain ⟨h₁, hstep, hrest⟩ := Option.bind_eq_some_iff.mp hrun
    rw [readings, List.mem_filterMap]
    rcases ih hrest with hold | hnew
    · rcases mem_rounds_of_step hstep hold with hold | hnow
      · exact .inl hold
      · exact .inr ⟨op, List.mem_cons_self, hnow⟩
    · obtain ⟨op', hmem, hnow⟩ := List.mem_filterMap.mp hnew
      exact .inr ⟨op', List.mem_cons_of_mem _ hmem, hnow⟩

/-- An item in flight was stamped with a reading of the run. -/
theorem lastSentTime_mem_readings (ht : t.InRange)
    (hrun : t.roundHistories.run ops t.roundHistories.init = some h)
    (hmem : item ∈ h.sender.slideWindow) (hflight : item.isInFlight = true) :
    item.lastSentTime ∈ readings ops := by
  have hinv := inv_of_reachable ht (TransitionSystem.Reachable.init.run hrun)
  obtain ⟨round, hfind, hnow⟩ := Option.map_eq_some_iff.mp (hinv.stamped item hmem hflight)
  rcases mem_readings_of_run hrun (List.mem_of_find?_eq_some hfind) with hinit | hreading
  · exact absurd hinit List.not_mem_nil
  · exact hnow ▸ hreading

/-- Elapsed time is exact for what is in flight, when the clock has not gone back. -/
theorem elapsed_of_isInFlight (ht : t.InRange)
    (hrun : t.roundHistories.run ops t.roundHistories.init = some h)
    (hmono : ClockMono (readings ops ++ [now])) (hspan : ClockSpan (readings ops ++ [now]))
    (hmem : item ∈ h.sender.slideWindow) (hflight : item.isInFlight = true) :
    0 ≤ item.age now ∧ ElapsedFits item.lastSentTime now ∧
      ((getElapsedUs item.lastSentTime now).toNat : ℤ) = item.age now := by
  have hsent := lastSentTime_mem_readings ht hrun hmem hflight
  have hnow : now ∈ [now] := List.mem_singleton_self now
  have hle := (List.pairwise_append.mp hmono.mono).2.2 _ hsent now hnow
  have hlt := (List.pairwise_append.mp hspan).2.2 _ hsent now hnow
  exact ⟨Int.sub_nonneg_of_le hle, elapsedFits_of_le
    (hmono.normalised _ (List.mem_append_left _ hsent))
    (hmono.normalised _ (List.mem_append_right _ hnow)) hle hlt, toNat_getElapsedUs_of_le hle hlt⟩

/-- **Timeouts are exact.** After any run, an item in flight carries the reading of the
last round that returned its packet; and when the clock has not gone back, the sweep
times out exactly the items in flight whose age exceeds the threshold. -/
theorem timeouts_exact (ht : t.InRange)
    (hrun : t.roundHistories.run ops t.roundHistories.init = some h) :
    (∀ item ∈ h.sender.slideWindow, item.state = .sent ∨ item.state = .resent →
        lastReturned h.rounds item.seqNum = some item.lastSentTime) ∧
      ∀ timeoutThresholdUs now,
        ClockMono (readings (ops ++ [.checkTimeout timeoutThresholdUs now])) →
        ClockSpan (readings (ops ++ [.checkTimeout timeoutThresholdUs now])) →
        ∃ h' : RoundHistory,
          t.roundHistories.step (.checkTimeout timeoutThresholdUs now) h = some h' ∧
          h'.sender.slideWindow.length = h.sender.slideWindow.length ∧
          ∀ (i : ℕ) (item : SlideWindowSenderItem), h.sender.slideWindow[i]? = some item →
            (item.state = .sent ∨ item.state = .resent →
              0 ≤ item.age now ∧ ElapsedFits item.lastSentTime now ∧
                ((getElapsedUs item.lastSentTime now).toNat : ℤ) = item.age now) ∧
            h'.sender.slideWindow[i]? = some
              (if (item.state = .sent ∨ item.state = .resent) ∧
                  (timeoutThresholdUs.toNat : ℤ) < item.age now then
                { item with state := .timeout }
              else item) := by
  have hinv := inv_of_reachable ht (TransitionSystem.Reachable.init.run hrun)
  refine ⟨fun item hmem hstate => hinv.stamped item hmem
    (SlideWindowSenderItem.isInFlight_iff.mpr hstate), fun thr now hmono hspan => ?_⟩
  have hreadings : readings (ops ++ [.checkTimeout thr now]) = readings ops ++ [now] := by
    rw [readings, List.filterMap_append]
    rfl
  rw [hreadings] at hmono hspan
  refine ⟨_, step_checkTimeout t thr now h, by rw [slideWindow_timeoutChecked, List.length_map],
    fun i item hi => ?_⟩
  have helapsed (hflight : item.isInFlight = true) :=
    elapsed_of_isInFlight ht hrun hmono hspan (List.mem_of_getElem? hi) hflight
  refine ⟨fun hstate => helapsed (SlideWindowSenderItem.isInFlight_iff.mpr hstate), ?_⟩
  rw [slideWindow_timeoutChecked, List.getElem?_map, hi, Option.map_some,
    SlideWindowSenderItem.markIfExpired]
  refine congrArg some (if_congr ?_ rfl rfl)
  exact SlideWindowSenderItem.hasExpired_iff fun hflight => (helapsed hflight).2.2

/-- A packet sent at one second has timed out two milliseconds later. -/
theorem timeouts_exact_oneByte :
    ∃ h h' : RoundHistory,
      Transfer.oneByte.roundHistories.run [.prepareDataPacketsToSend ⟨1, 0⟩]
        Transfer.oneByte.roundHistories.init = some h ∧
      Transfer.oneByte.roundHistories.step (.checkTimeout 1000 ⟨1, 2000⟩) h = some h' ∧
      h'.sender.slideWindow[0]? = some ⟨0, .timeout, ⟨1, 0⟩, 1, [7]⟩ := by
  have hsent : (Transfer.oneByte.roundHistories.run [.prepareDataPacketsToSend ⟨1, 0⟩]
      Transfer.oneByte.roundHistories.init).map (·.sender.slideWindow[0]?) =
        some (some ⟨0, .sent, ⟨1, 0⟩, 1, [7]⟩) := by
    decide +kernel
  obtain ⟨h, hrun, hitem⟩ := Option.map_eq_some_iff.mp hsent
  obtain ⟨h', hstep, -, hitems⟩ := (timeouts_exact Transfer.oneByte_inRange hrun).2 1000 ⟨1, 2000⟩
    ⟨by decide +kernel, by decide +kernel⟩ (by rw [ClockSpan]; decide +kernel)
  refine ⟨h, h', hrun, hstep, ?_⟩
  rw [(hitems 0 _ hitem).2, if_pos (by decide +kernel)]

/-- When the sweep comes `2 ^ 64` microseconds after the packet was sent, elapsed time
wraps to zero and the packet does not time out. -/
theorem not_timeouts_exact_wrapped :
    ∃ (h h' : RoundHistory) (item : SlideWindowSenderItem),
      Transfer.oneByte.roundHistories.run [.prepareDataPacketsToSend ⟨0, 0⟩]
        Transfer.oneByte.roundHistories.init = some h ∧
      ClockMono (readings [.prepareDataPacketsToSend ⟨0, 0⟩,
        .checkTimeout 1000 ⟨18446744073709, 551616⟩]) ∧
      Transfer.oneByte.roundHistories.step (.checkTimeout 1000 ⟨18446744073709, 551616⟩) h =
        some h' ∧
      h.sender.slideWindow[0]? = some item ∧ item.state = .sent ∧
      1000 < item.age ⟨18446744073709, 551616⟩ ∧ h'.sender.slideWindow[0]? = some item := by
  have hsent : ((Transfer.oneByte.roundHistories.run [.prepareDataPacketsToSend ⟨0, 0⟩]
      Transfer.oneByte.roundHistories.init).bind fun h =>
        (Transfer.oneByte.roundHistories.step (.checkTimeout 1000 ⟨18446744073709, 551616⟩) h).map
          fun h' => (h.sender.slideWindow[0]?, h'.sender.slideWindow[0]?)) =
      some (some ⟨0, .sent, ⟨0, 0⟩, 1, [7]⟩, some ⟨0, .sent, ⟨0, 0⟩, 1, [7]⟩) := by
    decide +kernel
  obtain ⟨h, hrun, hrest⟩ := Option.bind_eq_some_iff.mp hsent
  obtain ⟨h', hstep, heq⟩ := Option.map_eq_some_iff.mp hrest
  obtain ⟨hitem, hitem'⟩ := Prod.mk.inj heq
  exact ⟨h, h', _, hrun, ⟨by decide +kernel, by decide +kernel⟩, hstep, hitem, rfl,
    by decide +kernel, hitem'⟩

end RoundHistory

end SlideWindowSender

end ReliablePacket
