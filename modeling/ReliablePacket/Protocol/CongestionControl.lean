/-
# Congestion control

Three places set the congestion window: the penalty of fast retransmission, the
penalty of a timeout, and growth. Each also moves the bound that the left bound
has to reach before the window may grow again, to the left bound plus the new
window. So the bound always tells where the window was last set, and a window of
size `n` grows only after `n` more packets have left.

That is what keeps the sums and products from wrapping: a window is never larger
than the left bound plus 20.
-/
import ReliablePacket.Protocol.SenderRuns

set_option autoImplicit false

namespace ReliablePacket

namespace SlideWindowSender

variable {t : Transfer} {s s' : SlideWindowSender} {op : Operation} {ops : List Operation}
variable {ackPacket : AckPacket} {shrink : CongestionShrink} {now : Timeval}
variable {timeoutThresholdUs : UInt64}

/-! ## The guards -/

/-- `fastRetransmit` reaches the penalty and applies it. -/
def punishesDuplicateAck (ackPacket : AckPacket) (s : SlideWindowSender) : Bool :=
  s.fastRetransmission && s.lastAck == ackPacket.cumulativeSeqNum &&
    s.lastAckAckedCount + 1 == fastRetransmissionThreshold && !s.curCongestionWindowTimeouted

/-- `checkTimeout` applies its penalty. -/
def punishesTimeout (timeoutThresholdUs : UInt64) (now : Timeval) (s : SlideWindowSender) : Bool :=
  !s.curCongestionWindowTimeouted && s.someExpired timeoutThresholdUs now

/-- `growCongestionWindow` sets the window. -/
def grows (s : SlideWindowSender) : Bool :=
  s.congestionLeftBoundSeqNum ≤ s.slideWindowLeftBoundSeqNum

/-- The operation applies a penalty. -/
def Operation.punishes : Operation → SlideWindowSender → Bool
  | .prepareDataPacketsToSend _, _ => false
  | .checkTimeout timeoutThresholdUs now, s => s.punishesTimeout timeoutThresholdUs now
  | .ackArrived ackPacket, s => s.punishesDuplicateAck ackPacket

/-- The operation lets the congestion window grow. -/
def Operation.grows (shrink : CongestionShrink) : Operation → SlideWindowSender → Bool
  | .ackArrived ackPacket, s => (s.beforeGrowth shrink ackPacket).grows
  | _, _ => false

/-! ## What the stages do to the variables -/

/-- The members of congestion control: the window, the threshold, the bound, and
whether a penalty was applied since the last sending round. -/
def congestionVars (s : SlideWindowSender) : UInt32 × UInt32 × UInt32 × Bool :=
  (s.curCongestionWindow, s.curCongestionThreshold, s.congestionLeftBoundSeqNum,
    s.curCongestionWindowTimeouted)

theorem congestionVars_eq_iff {window threshold bound : UInt32} {timeouted : Bool} :
    s.congestionVars = (window, threshold, bound, timeouted) ↔
      s.curCongestionWindow = window ∧ s.curCongestionThreshold = threshold ∧
        s.congestionLeftBoundSeqNum = bound ∧ s.curCongestionWindowTimeouted = timeouted := by
  simp only [congestionVars, Prod.mk.injEq]

/-- The variables after a penalty that sets the window. -/
def punishedVars (shrink : CongestionShrink) (window : UInt32) (s : SlideWindowSender) :
    UInt32 × UInt32 × UInt32 × Bool :=
  (window, s.shrunkThreshold shrink, s.slideWindowLeftBoundSeqNum + window, true)

theorem congestionVars_punishTimeout (some : Bool) :
    (s.punishTimeout shrink some).congestionVars =
      if !s.curCongestionWindowTimeouted && some then s.punishedVars shrink congestionWindowMin
      else s.congestionVars := by
  rw [punishTimeout]
  split_ifs <;> rfl

theorem congestionVars_timeoutChecked (shrink : CongestionShrink) (timeoutThresholdUs : UInt64)
    (now : Timeval) (s : SlideWindowSender) :
    (s.timeoutChecked shrink timeoutThresholdUs now).congestionVars =
      if s.punishesTimeout timeoutThresholdUs now then s.punishedVars shrink congestionWindowMin
      else s.congestionVars :=
  -- marking items does not touch what the guard reads
  congestionVars_punishTimeout (s := s.swept timeoutThresholdUs now)
    (s.someExpired timeoutThresholdUs now)

theorem congestionVars_punishDuplicateAck :
    (s.punishDuplicateAck shrink).congestionVars =
      if s.curCongestionWindowTimeouted then s.congestionVars
      else s.punishedVars shrink (s.shrunkThreshold shrink) := by
  rw [punishDuplicateAck]
  split_ifs <;> rfl

theorem punishesDuplicateAck_iff : s.punishesDuplicateAck ackPacket = true ↔
    s.fastRetransmission = true ∧ s.lastAck = ackPacket.cumulativeSeqNum ∧
      s.lastAckAckedCount + 1 = fastRetransmissionThreshold ∧
      s.curCongestionWindowTimeouted = false := by
  simp only [punishesDuplicateAck, Bool.and_eq_true, beq_iff_eq, Bool.not_eq_true', and_assoc]

theorem congestionVars_timeoutFirstItem (s : SlideWindowSender) :
    s.timeoutFirstItem.congestionVars = s.congestionVars := by
  obtain ⟨items, ready, hitems, -, -⟩ := timeoutFirstItem_eq s
  rw [hitems]
  rfl

theorem congestionVars_fastRetransmit (shrink : CongestionShrink) (ackPacket : AckPacket)
    (s : SlideWindowSender) :
    (s.fastRetransmit shrink ackPacket).congestionVars =
      if s.punishesDuplicateAck ackPacket then s.punishedVars shrink (s.shrunkThreshold shrink)
      else s.congestionVars := by
  -- counting a duplicate concerns none of the variables, so only the penalty matters
  have hpenalty : ({ s with lastAckAckedCount := s.lastAckAckedCount + 1 }.punishDuplicateAck
      shrink).timeoutFirstItem.congestionVars =
        if s.curCongestionWindowTimeouted then s.congestionVars
        else s.punishedVars shrink (s.shrunkThreshold shrink) := by
    rw [congestionVars_timeoutFirstItem]
    exact congestionVars_punishDuplicateAck
  split_ifs with hpunishes
  · obtain ⟨hfast, hsame, hcount, hflag⟩ := punishesDuplicateAck_iff.mp hpunishes
    have hway : s.fastRetransmit shrink ackPacket =
        ({ s with lastAckAckedCount := s.lastAckAckedCount + 1 }.punishDuplicateAck
          shrink).timeoutFirstItem := by
      rw [fastRetransmit, if_pos hfast, if_pos hsame]
      exact if_pos hcount
    rw [hway, hpenalty, hflag]
    rfl
  · rw [punishesDuplicateAck_iff] at hpunishes
    rcases fastRetransmit_cases shrink ackPacket s with
      ⟨heq, -⟩ | ⟨-, -, -, heq⟩ | ⟨hfast, hsame, hcount, heq⟩ | ⟨-, -, heq⟩
    · rw [heq]
    · rw [heq]
      rfl
    · -- the duplicate that counts is not punished when the flag is set already
      have hflag : s.curCongestionWindowTimeouted = true := by
        by_contra hclear
        exact hpunishes ⟨hfast, hsame, hcount, Bool.eq_false_iff.mpr hclear⟩
      rw [heq, hpenalty, if_pos hflag]
    · rw [heq]
      rfl

theorem congestionVars_slid : (s.slid ackPacket).congestionVars = s.congestionVars := by
  simp only [slid]
  split_ifs <;> rfl

theorem congestionVars_beforeGrowth (shrink : CongestionShrink) (ackPacket : AckPacket)
    (s : SlideWindowSender) :
    (s.beforeGrowth shrink ackPacket).congestionVars =
      if s.punishesDuplicateAck ackPacket then s.punishedVars shrink (s.shrunkThreshold shrink)
      else s.congestionVars := by
  have hselected : ∃ items, s.selected ackPacket = { s with slideWindow := items } := by
    simp only [selected]
    split_ifs
    · exact ⟨_, rfl⟩
    · exact ⟨_, rfl⟩
  obtain ⟨items, hitems⟩ := hselected
  rw [beforeGrowth, congestionVars_slid, hitems]
  exact congestionVars_fastRetransmit shrink ackPacket _

/-- Growth, with its guard named. -/
theorem growCongestionWindow_of_grows (h : s.grows = true) :
    s.growCongestionWindow = s.setCongestionWindow s.growCongestionWindow.curCongestionWindow := by
  have hbound : s.congestionLeftBoundSeqNum ≤ s.slideWindowLeftBoundSeqNum := of_decide_eq_true h
  simp only [growCongestionWindow, if_pos hbound]
  split_ifs <;> rfl

theorem growCongestionWindow_of_not_grows (h : s.grows = false) : s.growCongestionWindow = s :=
  if_neg (of_decide_eq_false h)

/-- Filling the window and the readiness flag concern none of the variables. -/
theorem congestionVars_fill (s : SlideWindowSender) :
    s.fill.updateNewDataReady.congestionVars = s.congestionVars := by
  simp only [updateNewDataReady, fill, congestionVars]

theorem congestionVars_acked (shrink : CongestionShrink) (ackPacket : AckPacket)
    (s : SlideWindowSender) : (s.acked shrink ackPacket).congestionVars =
    (s.beforeGrowth shrink ackPacket).growCongestionWindow.congestionVars :=
  congestionVars_fill (s.refilled shrink ackPacket)

/-! ## The penalty flag -/

/-- A stage that punishes or leaves the variables alone sets the flag when it punishes. -/
theorem timeouted_of_vars {punishes : Bool} {window : UInt32}
    (hvars : s'.congestionVars =
      if punishes then s.punishedVars shrink window else s.congestionVars) :
    s'.curCongestionWindowTimeouted = (s.curCongestionWindowTimeouted || punishes) := by
  cases punishes with
  | true => rw [(congestionVars_eq_iff.mp hvars).2.2.2, Bool.or_true]
  | false => rw [(congestionVars_eq_iff.mp hvars).2.2.2, Bool.or_false]

theorem timeouted_timeoutChecked :
    (s.timeoutChecked shrink timeoutThresholdUs now).curCongestionWindowTimeouted =
      (s.curCongestionWindowTimeouted || s.punishesTimeout timeoutThresholdUs now) :=
  timeouted_of_vars (congestionVars_timeoutChecked shrink timeoutThresholdUs now s)

/-- An acknowledgement that did not fail, with the variables and the left bound as they
stand when the congestion window may grow. -/
theorem ackArrived_congestion {debug : Bool} (h : s.ackArrived shrink debug ackPacket = .ok s') :
    ∃ u : SlideWindowSender, s' = u.growCongestionWindow.fill.updateNewDataReady ∧
      (u.congestionVars =
        if s.punishesDuplicateAck ackPacket then s.punishedVars shrink (s.shrunkThreshold shrink)
        else s.congestionVars) ∧
      u.leftBound = max s.leftBound ackPacket.cumulativeSeqNum.toNat ∧
      u.fastRetransmission = s.fastRetransmission ∧
      (s.fastRetransmission = true →
        u.lastAck.toNat = max s.lastAck.toNat ackPacket.cumulativeSeqNum.toNat) := by
  obtain ⟨s₁, s₂, hselect, hslide, rfl⟩ := ackArrived_stages h
  obtain ⟨items, rfl⟩ := selectiveAck_frame hselect
  obtain ⟨_, _, rfl⟩ := slide_frame hslide
  set f := ({ s with slideWindow := items } : SlideWindowSender).fastRetransmit shrink ackPacket
  obtain ⟨hparams, -, hleft, -, -⟩ :=
    fastRetransmit_frame shrink ackPacket { s with slideWindow := items }
  refine ⟨_, rfl, ?_, ?_, ?_, fun hfast => ?_⟩
  · change (f.slid ackPacket).congestionVars = _
    rw [congestionVars_slid]
    exact congestionVars_fastRetransmit shrink ackPacket { s with slideWindow := items }
  · change (f.slid ackPacket).leftBound = _
    rw [leftBound_slid]
    exact congrArg (max · _) hleft
  · change (f.slid ackPacket).fastRetransmission = _
    exact congrArg (·.2.2.2.2) (params_slid.trans hparams)
  · change (f.slid ackPacket).lastAck.toNat = _
    rw [lastAck_slid]
    exact lastAck_fastRetransmit (s := { s with slideWindow := items }) hfast

theorem timeouted_of_ackArrived {debug : Bool}
    (h : s.ackArrived shrink debug ackPacket = .ok s') :
    s'.curCongestionWindowTimeouted =
      (s.curCongestionWindowTimeouted || s.punishesDuplicateAck ackPacket) := by
  obtain ⟨u, rfl, hvars, -⟩ := ackArrived_congestion h
  obtain ⟨window, bound, hgrow⟩ := growCongestionWindow_frame u
  rw [hgrow]
  change u.curCongestionWindowTimeouted = _
  exact timeouted_of_vars hvars

/-- Under fast retransmission `lastAck` is the left bound. -/
def LastAckOk (s : SlideWindowSender) : Prop :=
  s.fastRetransmission = true → s.lastAck = s.slideWindowLeftBoundSeqNum

theorem LastAckOk.ackArrived {debug : Bool} (hlast : s.LastAckOk)
    (h : s.ackArrived shrink debug ackPacket = .ok s') : s'.LastAckOk := by
  obtain ⟨u, rfl, -, hleft, hflag, hmax⟩ := ackArrived_congestion h
  obtain ⟨window, bound, hgrow⟩ := growCongestionWindow_frame u
  rw [hgrow]
  intro hfast
  change u.fastRetransmission = true at hfast
  change u.lastAck = u.slideWindowLeftBoundSeqNum
  rw [hflag] at hfast
  rw [← UInt32.toNat_inj, hmax hfast, hlast hfast]
  exact hleft.symm

/-- The window after a duplicate acknowledgement's penalty, in any state. When the bound
wraps the window grows at once. -/
theorem curCongestionWindow_of_ackArrived {debug : Bool} (hlast : s.LastAckOk)
    (h : s.ackArrived shrink debug ackPacket = .ok s')
    (hpunishes : s.punishesDuplicateAck ackPacket = true) :
    s'.curCongestionWindow =
      if s.slideWindowLeftBoundSeqNum + s.shrunkThreshold shrink ≤ s.slideWindowLeftBoundSeqNum then
        s.shrunkThreshold shrink + congestionThresholdMin
      else s.shrunkThreshold shrink := by
  obtain ⟨u, rfl, hvars, hleft, -⟩ := ackArrived_congestion h
  obtain ⟨hfast, hsame, -, -⟩ := punishesDuplicateAck_iff.mp hpunishes
  rw [if_pos hpunishes] at hvars
  obtain ⟨hwindow, hthreshold, hbound, -⟩ := congestionVars_eq_iff.mp hvars
  -- a duplicate acknowledges up to the left bound and does not slide the window
  have hstays : u.slideWindowLeftBoundSeqNum = s.slideWindowLeftBoundSeqNum := by
    rw [← hsame, hlast hfast] at hleft
    exact UInt32.toNat_inj.mp (hleft.trans (max_self _))
  change u.growCongestionWindow.curCongestionWindow = _
  rw [growCongestionWindow, hwindow, hthreshold, hbound, hstays, if_neg (UInt32.lt_irrefl _)]
  split_ifs
  · rfl
  · exact hwindow

/-! ## No wraps -/

/-- The bounds that the two penalties compute do not wrap. -/
structure PenaltySumsOk (shrink : CongestionShrink) (s : SlideWindowSender) : Prop where
  timeout : (s.slideWindowLeftBoundSeqNum + congestionWindowMin).toNat = s.leftBound + 10
  duplicateAck : (s.slideWindowLeftBoundSeqNum + s.shrunkThreshold shrink).toNat =
    s.leftBound + (s.shrunkThreshold shrink).toNat

/-- Nothing that growth computes wraps. -/
structure GrowthOk (s : SlideWindowSender) : Prop where
  double : (s.curCongestionWindow * 2).toNat = s.curCongestionWindow.toNat * 2
  add : (s.curCongestionWindow + congestionThresholdMin).toNat = s.curCongestionWindow.toNat + 20
  bound : (s.slideWindowLeftBoundSeqNum + s.growCongestionWindow.curCongestionWindow).toNat =
    s.leftBound + s.growCongestionWindow.curCongestionWindow.toNat

/-- A sum of the left bound and a window near it does not wrap. -/
theorem toNat_leftBound_add (hleft : s.leftBound < 2 ^ 31 - 20) {window : UInt32}
    (hwindow : window.toNat ≤ s.leftBound + 20) :
    (s.slideWindowLeftBoundSeqNum + window).toNat = s.leftBound + window.toNat := by
  rw [UInt32.toNat_add, ← leftBound]
  omega

theorem CongestionOk.penaltySumsOk (h : s.CongestionOk) (hleft : s.leftBound < 2 ^ 31 - 20)
    (shrink : CongestionShrink) : s.PenaltySumsOk shrink where
  timeout := toNat_leftBound_add hleft (by
    have hmin : congestionWindowMin.toNat = 10 := rfl
    omega)
  duplicateAck := toNat_leftBound_add hleft (h.shrunkThreshold shrink).2

/-- Growth comes only when the bound has been reached, which keeps twice the window
below the left bound plus 20. -/
theorem CongestionOk.growthOk (h : s.CongestionOk) (hleft : s.leftBound < 2 ^ 31 - 20)
    (hgrows : s.grows = true) : s.GrowthOk := by
  have hbound : s.congestionLeftBoundSeqNum.toNat ≤ s.leftBound := of_decide_eq_true hgrows
  have hmax := h.windowMax
  refine ⟨?_, ?_, toNat_leftBound_add hleft ?_⟩
  · rw [UInt32.toNat_mul, show (2 : UInt32).toNat = 2 from rfl]
    omega
  · rw [UInt32.toNat_add, show congestionThresholdMin.toNat = 20 from rfl]
    omega
  · have hgrown := (h.growCongestionWindow hleft).window_le_left
    rw [growCongestionWindow_of_grows hgrows] at hgrown
    exact hgrown

/-- A penalty moves the bound out of reach, so the same acknowledgement does not also
let the window grow. -/
theorem not_grows_of_punishes (h : SenderInv t s) (ht : t.InRange)
    (hpunishes : s.punishesDuplicateAck ackPacket = true) :
    (s.beforeGrowth t.shrink ackPacket).grows = false := by
  obtain ⟨hfast, hsame, -, -⟩ := punishesDuplicateAck_iff.mp hpunishes
  have hsum := (h.congestion.penaltySumsOk (h.leftBound_lt ht) t.shrink).duplicateAck
  have hmin := (h.congestion.shrunkThreshold t.shrink).1
  -- `lastAck` follows the left bound, so a duplicate does not slide the window
  have hlast : s.lastAck.toNat = s.leftBound := by
    refine h.lastAck ?_
    rw [← hfast]
    exact (congrArg (·.2.2.2.2) h.params).symm
  have hbefore := leftBound_beforeGrowth t.shrink ackPacket s
  rw [← hsame, hlast, max_self] at hbefore
  have hvars := congestionVars_beforeGrowth t.shrink ackPacket s
  rw [if_pos hpunishes] at hvars
  refine decide_eq_false fun hle => ?_
  have hbound : (s.beforeGrowth t.shrink ackPacket).congestionLeftBoundSeqNum.toNat ≤
      (s.beforeGrowth t.shrink ackPacket).leftBound := hle
  rw [(congestionVars_eq_iff.mp hvars).2.2.1, hsum, hbefore] at hbound
  omega

/-! ## The window after a penalty -/

theorem curCongestionWindow_timeoutChecked (shrink : CongestionShrink)
    (hpunishes : s.punishesTimeout timeoutThresholdUs now = true) :
    (s.timeoutChecked shrink timeoutThresholdUs now).curCongestionWindow =
      congestionWindowMin := by
  have hvars := congestionVars_timeoutChecked shrink timeoutThresholdUs now s
  rw [if_pos hpunishes] at hvars
  exact (congestionVars_eq_iff.mp hvars).1

theorem congestionThresholdMin_le_shrunkThreshold (shrink : CongestionShrink) :
    congestionThresholdMin ≤ s.shrunkThreshold shrink := by
  simp only [shrunkThreshold]
  split_ifs with hlt
  · exact UInt32.le_refl _
  · exact UInt32.not_lt.mp hlt

/-- Shrinking stays below the window unless the minimum is above it. -/
theorem shrunkThreshold_le_iff (shrink : CongestionShrink) :
    s.shrunkThreshold shrink ≤ s.curCongestionWindow ↔
      congestionThresholdMin ≤ s.curCongestionWindow := by
  refine ⟨UInt32.le_trans (congestionThresholdMin_le_shrunkThreshold shrink), fun hwindow => ?_⟩
  simp only [shrunkThreshold]
  split_ifs
  · exact hwindow
  · exact shrink.apply_le _

/-! ## Where the window was last set -/

/-- A sender with the left bound at which its congestion window was last set. -/
structure WindowHistory where
  sender : SlideWindowSender
  windowSetAt : UInt32

/-- The left bound at which the window was last set, after one more operation. In
`ackArrived` growth comes after the penalty. -/
def windowSetAtAfter (shrink : CongestionShrink) (op : Operation) (h : WindowHistory) : UInt32 :=
  match op with
  | .prepareDataPacketsToSend _ => h.windowSetAt
  | .checkTimeout timeoutThresholdUs now =>
    if h.sender.punishesTimeout timeoutThresholdUs now then h.sender.slideWindowLeftBoundSeqNum
    else h.windowSetAt
  | .ackArrived ackPacket =>
    if (h.sender.beforeGrowth shrink ackPacket).grows then
      (h.sender.beforeGrowth shrink ackPacket).slideWindowLeftBoundSeqNum
    else if h.sender.punishesDuplicateAck ackPacket then h.sender.slideWindowLeftBoundSeqNum
    else h.windowSetAt

/-- The operation neither punishes nor lets the window grow. -/
def WindowHistory.keepsWindow (shrink : CongestionShrink) (h : WindowHistory) (op : Operation) :
    Bool :=
  !op.punishes h.sender && !op.grows shrink h.sender

end SlideWindowSender

open SlideWindowSender

/-- The sender of a transfer, observed. -/
def Transfer.windowHistories (t : Transfer) : TransitionSystem WindowHistory Operation where
  init := ⟨.new t.fileToSend t.bytesToSend t.fastRetransmission, 0⟩
  step op h := (t.sender.step op h.sender).map fun s => ⟨s, windowSetAtAfter t.shrink op h⟩

namespace SlideWindowSender

namespace WindowHistory

variable {t : Transfer} {h h' : WindowHistory} {op : Operation} {ops : List Operation}
variable {ackPacket : AckPacket}

/-- The bound is where the window was last set plus the window. -/
structure Inv (t : Transfer) (h : WindowHistory) : Prop where
  sender : SenderInv t h.sender
  windowSetAt_le : h.windowSetAt.toNat ≤ h.sender.leftBound
  bound : h.sender.congestionLeftBoundSeqNum.toNat =
    h.windowSetAt.toNat + h.sender.curCongestionWindow.toNat

/-- A stage that punishes or leaves the variables alone keeps the bound where the window
was last set plus the window. -/
theorem Inv.bound_of_vars {s : SlideWindowSender} {punishes : Bool} {window : UInt32}
    (hinv : h.Inv t)
    (hsum : (h.sender.slideWindowLeftBoundSeqNum + window).toNat =
      h.sender.leftBound + window.toNat)
    (hvars : s.congestionVars =
      if punishes then h.sender.punishedVars t.shrink window else h.sender.congestionVars) :
    s.congestionLeftBoundSeqNum.toNat =
      (if punishes then h.sender.slideWindowLeftBoundSeqNum else h.windowSetAt).toNat +
        s.curCongestionWindow.toNat := by
  cases punishes with
  | true =>
    obtain ⟨hwindow, -, hbound, -⟩ := congestionVars_eq_iff.mp hvars
    rw [hwindow, hbound]
    exact hsum
  | false =>
    obtain ⟨hwindow, -, hbound, -⟩ := congestionVars_eq_iff.mp hvars
    rw [hwindow, hbound]
    exact hinv.bound

theorem Inv.timeoutChecked (hinv : h.Inv t) (ht : t.InRange) {timeoutThresholdUs : UInt64}
    {now : Timeval} : Inv t
      ⟨h.sender.timeoutChecked t.shrink timeoutThresholdUs now,
        windowSetAtAfter t.shrink (.checkTimeout timeoutThresholdUs now) h⟩ := by
  have hsums := hinv.sender.congestion.penaltySumsOk (hinv.sender.leftBound_lt ht) t.shrink
  refine ⟨hinv.sender.timeoutChecked ht, ?_, hinv.bound_of_vars hsums.timeout
    (congestionVars_timeoutChecked t.shrink timeoutThresholdUs now h.sender)⟩
  rw [leftBound_timeoutChecked]
  simp only [windowSetAtAfter]
  split_ifs
  · exact le_rfl
  · exact hinv.windowSetAt_le

/-- An acknowledgement that lets the window grow sets it at the new left bound. -/
theorem Inv.acked_of_grows (hinv : h.Inv t) (ht : t.InRange)
    (hcum : ackPacket.cumulativeSeqNum.toNat ≤ h.sender.rightEdge)
    (hgrows : (h.sender.beforeGrowth t.shrink ackPacket).grows = true) : Inv t
      ⟨h.sender.acked t.shrink ackPacket, windowSetAtAfter t.shrink (.ackArrived ackPacket) h⟩ := by
  have hgrowth := (hinv.sender.congestion_beforeGrowth ht).growthOk
    (hinv.sender.leftBound_beforeGrowth_lt ht hcum) hgrows
  have hat : windowSetAtAfter t.shrink (.ackArrived ackPacket) h =
      (h.sender.beforeGrowth t.shrink ackPacket).slideWindowLeftBoundSeqNum := if_pos hgrows
  have hvars := congestionVars_acked t.shrink ackPacket h.sender
  obtain ⟨hwindow, -, hbound, -⟩ := congestionVars_eq_iff.mp hvars
  refine ⟨hinv.sender.acked ht hcum, ?_, ?_⟩
  · rw [hat, leftBound_acked t.shrink hcum, ← leftBound_beforeGrowth t.shrink]
    exact le_rfl
  · rw [hat, hbound, hwindow, growCongestionWindow_of_grows hgrows]
    exact hgrowth.bound

/-- An acknowledgement that does not grow the window leaves it, unless it punishes. -/
theorem Inv.acked_of_not_grows (hinv : h.Inv t) (ht : t.InRange)
    (hcum : ackPacket.cumulativeSeqNum.toNat ≤ h.sender.rightEdge)
    (hgrows : (h.sender.beforeGrowth t.shrink ackPacket).grows = false) : Inv t
      ⟨h.sender.acked t.shrink ackPacket, windowSetAtAfter t.shrink (.ackArrived ackPacket) h⟩ := by
  have hsums := hinv.sender.congestion.penaltySumsOk (hinv.sender.leftBound_lt ht) t.shrink
  have hat : windowSetAtAfter t.shrink (.ackArrived ackPacket) h =
      if h.sender.punishesDuplicateAck ackPacket then h.sender.slideWindowLeftBoundSeqNum
      else h.windowSetAt := if_neg (Bool.eq_false_iff.mp hgrows)
  have hvars := congestionVars_acked t.shrink ackPacket h.sender
  rw [growCongestionWindow_of_not_grows hgrows, congestionVars_beforeGrowth] at hvars
  refine ⟨hinv.sender.acked ht hcum, ?_, ?_⟩
  · rw [hat, leftBound_acked t.shrink hcum]
    split_ifs
    · exact le_max_left _ _
    · exact hinv.windowSetAt_le.trans (le_max_left _ _)
  · rw [hat]
    exact hinv.bound_of_vars hsums.duplicateAck hvars

theorem Inv.step (hinv : h.Inv t) (ht : t.InRange)
    (hstep : t.windowHistories.step op h = some h') : h'.Inv t := by
  obtain ⟨s', hs, rfl⟩ := Option.map_eq_some_iff.mp hstep
  rcases step_cases hinv.sender ht hs with
    ⟨now, rfl, rfl⟩ | ⟨thr, now, rfl, rfl⟩ | ⟨ack, rfl, hcum, rfl⟩
  · exact ⟨hinv.sender.prepared, hinv.windowSetAt_le, hinv.bound⟩
  · exact hinv.timeoutChecked ht
  · cases hgrows : (h.sender.beforeGrowth t.shrink ack).grows with
    | true => exact hinv.acked_of_grows ht hcum hgrows
    | false => exact hinv.acked_of_not_grows ht hcum hgrows

theorem inv_of_reachable (ht : t.InRange) (hreach : t.windowHistories.Reachable h) : h.Inv t :=
  hreach.invariant ⟨.new ht, Nat.zero_le _, rfl⟩ fun _ _ _ hinv hstep => hinv.step ht hstep

theorem windowSetAtAfter_of_keepsWindow (hkeeps : h.keepsWindow t.shrink op = true) :
    windowSetAtAfter t.shrink op h = h.windowSetAt := by
  rw [keepsWindow, Bool.and_eq_true, Bool.not_eq_true', Bool.not_eq_true'] at hkeeps
  obtain ⟨hpunishes, hgrows⟩ := hkeeps
  cases op with
  | prepareDataPacketsToSend now => rfl
  | checkTimeout thr now => exact if_neg (Bool.eq_false_iff.mp hpunishes)
  | ackArrived ack =>
    exact (if_neg (Bool.eq_false_iff.mp hgrows)).trans (if_neg (Bool.eq_false_iff.mp hpunishes))

/-- While no operation sets the window, the record of where it was set stays. -/
theorem windowSetAt_run (hrun : t.windowHistories.runVia (keepsWindow t.shrink) ops h = some h') :
    h'.windowSetAt = h.windowSetAt := by
  by_contra hne
  obtain ⟨_, op, _, u, u', -, -, hu, hkeeps, hstep, hu'⟩ :=
    TransitionSystem.exists_exit (I := fun u => u.windowSetAt = h.windowSetAt) rfl hne hrun
  obtain ⟨s', -, rfl⟩ := Option.map_eq_some_iff.mp hstep
  exact hu' ((windowSetAtAfter_of_keepsWindow hkeeps).trans hu)

/-- The window grows only when as many packets as it holds have left since it was set. -/
theorem Inv.windowSetAt_add_le (hinv : h.Inv t) (ht : t.InRange)
    (hcum : ackPacket.cumulativeSeqNum.toNat ≤ h.sender.rightEdge)
    (hgrows : (h.sender.beforeGrowth t.shrink ackPacket).grows = true) :
    h.windowSetAt.toNat + h.sender.curCongestionWindow.toNat ≤
      (h.sender.acked t.shrink ackPacket).leftBound := by
  have hpunishes : ¬ h.sender.punishesDuplicateAck ackPacket = true := by
    intro hpunishes
    rw [not_grows_of_punishes hinv.sender ht hpunishes] at hgrows
    cases hgrows
  have hvars := congestionVars_beforeGrowth t.shrink ackPacket h.sender
  rw [if_neg hpunishes] at hvars
  have hbound : (h.sender.beforeGrowth t.shrink ackPacket).congestionLeftBoundSeqNum.toNat ≤
      (h.sender.beforeGrowth t.shrink ackPacket).leftBound := of_decide_eq_true hgrows
  rw [(congestionVars_eq_iff.mp hvars).2.2.1, hinv.bound, leftBound_beforeGrowth] at hbound
  rw [leftBound_acked t.shrink hcum]
  exact hbound

theorem Inv.step_ackArrived (hinv : h.Inv t) (ht : t.InRange)
    (hstep : t.windowHistories.step (.ackArrived ackPacket) h = some h') :
    ackPacket.cumulativeSeqNum.toNat ≤ h.sender.rightEdge ∧
      h'.sender = h.sender.acked t.shrink ackPacket ∧
      h'.windowSetAt = windowSetAtAfter t.shrink (.ackArrived ackPacket) h := by
  obtain ⟨s', hs, rfl⟩ := Option.map_eq_some_iff.mp hstep
  rcases step_cases hinv.sender ht hs with ⟨_, hop, -⟩ | ⟨_, _, hop, -⟩ | ⟨ack, hop, hcum, rfl⟩
  · cases hop
  · cases hop
  · cases hop
    exact ⟨hcum, rfl, rfl⟩

/-- **Congestion arithmetic stays in range.** The window lies between 10 and the left
bound plus 20, the threshold is at least 20, and the bound is where the window was
last set plus the window. No sum or product wraps. Between two growths without a
penalty the left bound advances by at least the window that grows. -/
theorem congestion_inRange (ht : t.InRange) (hreach : t.windowHistories.Reachable h) :
    10 ≤ h.sender.curCongestionWindow.toNat ∧
      h.sender.curCongestionWindow.toNat ≤ h.sender.slideWindowLeftBoundSeqNum.toNat + 20 ∧
      20 ≤ h.sender.curCongestionThreshold.toNat ∧
      h.windowSetAt ≤ h.sender.slideWindowLeftBoundSeqNum ∧
      h.sender.congestionLeftBoundSeqNum = h.windowSetAt + h.sender.curCongestionWindow ∧
      h.sender.congestionLeftBoundSeqNum.toNat =
        h.windowSetAt.toNat + h.sender.curCongestionWindow.toNat ∧
      h.sender.PenaltySumsOk t.shrink ∧
      (∀ ackPacket h', t.windowHistories.step (.ackArrived ackPacket) h = some h' →
        (h.sender.beforeGrowth t.shrink ackPacket).grows = true →
        (h.sender.beforeGrowth t.shrink ackPacket).GrowthOk) ∧
      ∀ ack₁ h₁ ops h₂ ack₂ h₃,
        t.windowHistories.step (.ackArrived ack₁) h = some h₁ →
        (h.sender.beforeGrowth t.shrink ack₁).grows = true →
        t.windowHistories.runVia (keepsWindow t.shrink) ops h₁ = some h₂ →
        t.windowHistories.step (.ackArrived ack₂) h₂ = some h₃ →
        (h₂.sender.beforeGrowth t.shrink ack₂).grows = true →
        h₁.sender.slideWindowLeftBoundSeqNum.toNat + h₂.sender.curCongestionWindow.toNat ≤
          h₃.sender.slideWindowLeftBoundSeqNum.toNat := by
  have hinv := inv_of_reachable ht hreach
  have hleft := hinv.sender.leftBound_lt ht
  refine ⟨hinv.sender.congestion.windowMin, hinv.sender.congestion.window_le_left,
    hinv.sender.congestion.thresholdMin, UInt32.le_iff_toNat_le.mpr hinv.windowSetAt_le, ?_,
    hinv.bound, hinv.sender.congestion.penaltySumsOk hleft t.shrink, fun ack h' hstep hgrows => ?_,
    fun ack₁ h₁ ops h₂ ack₂ h₃ hstep₁ hgrows₁ hrun hstep₂ hgrows₂ => ?_⟩
  · rw [← UInt32.toNat_inj, UInt32.toNat_add, ← hinv.bound,
      Nat.mod_eq_of_lt (UInt32.toNat_lt _)]
  · exact (hinv.sender.congestion_beforeGrowth ht).growthOk
      (hinv.sender.leftBound_beforeGrowth_lt ht (hinv.step_ackArrived ht hstep).1) hgrows
  · obtain ⟨hcum₁, hs₁, hat₁⟩ := hinv.step_ackArrived ht hstep₁
    have hreach₁ := hreach.step hstep₁
    have hinv₂ : h₂.Inv t :=
      inv_of_reachable ht (hreach₁.runVia (fun _ _ _ => trivial) hrun)
    obtain ⟨hcum₂, hs₂, -⟩ := hinv₂.step_ackArrived ht hstep₂
    -- the first growth set the window at the left bound it left behind
    have hset : h₂.windowSetAt.toNat = h₁.sender.leftBound := by
      rw [windowSetAt_run hrun, hat₁, hs₁, leftBound_acked t.shrink hcum₁,
        ← leftBound_beforeGrowth]
      exact congrArg UInt32.toNat (if_pos hgrows₁)
    have hspace := hinv₂.windowSetAt_add_le ht hcum₂ hgrows₂
    rw [hset, ← hs₂] at hspace
    exact hspace

/-- Thirty packets of a file that turned out to be empty. -/
def thirtyPackets : Transfer := ⟨.empty, 43500, slideWindowFastRetransmission, .truncated⟩

/-- Packets 0 to 9 and then 10 to 29 are acknowledged, and the window grows twice. -/
theorem congestion_inRange_thirtyPackets :
    ∃ h₁ h₂, thirtyPackets.windowHistories.step (.ackArrived ⟨.regular, 10, 9, ⟨0, 0⟩⟩)
        thirtyPackets.windowHistories.init = some h₁ ∧
      thirtyPackets.windowHistories.step (.ackArrived ⟨.regular, 30, 29, ⟨0, 0⟩⟩) h₁ = some h₂ ∧
      h₁.sender.slideWindowLeftBoundSeqNum.toNat + h₁.sender.curCongestionWindow.toNat ≤
        h₂.sender.slideWindowLeftBoundSeqNum.toNat := by
  have hgrows₁ : (thirtyPackets.windowHistories.init.sender.beforeGrowth thirtyPackets.shrink
      ⟨.regular, 10, 9, ⟨0, 0⟩⟩).grows = true := by
    decide +kernel
  have hrun : ((thirtyPackets.windowHistories.step (.ackArrived ⟨.regular, 10, 9, ⟨0, 0⟩⟩)
      thirtyPackets.windowHistories.init).bind fun h₁ =>
        (thirtyPackets.windowHistories.step
          (.ackArrived ⟨.regular, 30, 29, ⟨0, 0⟩⟩) h₁).map fun _ =>
          (h₁.sender.beforeGrowth thirtyPackets.shrink ⟨.regular, 30, 29, ⟨0, 0⟩⟩).grows) =
        some true := by
    decide +kernel
  obtain ⟨h₁, hstep₁, hrest⟩ := Option.bind_eq_some_iff.mp hrun
  obtain ⟨h₂, hstep₂, hgrows₂⟩ := Option.map_eq_some_iff.mp hrest
  have hall := congestion_inRange (t := thirtyPackets) ⟨by decide, by decide⟩ .init
  exact ⟨h₁, h₂, hstep₁, hstep₂, hall.2.2.2.2.2.2.2.2 _ h₁ [] h₁ _ h₂ hstep₁ hgrows₁ rfl hstep₂
    hgrows₂⟩

end WindowHistory

end SlideWindowSender

end ReliablePacket
