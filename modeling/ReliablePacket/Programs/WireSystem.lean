/-
# The two windows over a network of bytes

The composed system again, with datagrams on the network in place of packets. The
sender fills a buffer from each prepared packet and sends the filled part; the
receiver and the sender's `receiveAck` read what arrives. Packets and datagrams
carry one another: each system takes exactly the steps of the other. So what is
proved of the windows over packets holds of the programs that exchange bytes.
-/
import ReliablePacket.Programs.Datagrams
import ReliablePacket.System.Integrity

set_option autoImplicit false

namespace ReliablePacket

open SlideWindowSender

variable {t : Transfer} {sys sys' : System} {a : System.Action}
variable {dataPacket : DataPacket (List UInt8)} {ackPacket : AckPacket}
variable {ret : RetAckPacket} {r r' : SlideWindowReceiver}

/-! ## The programs over bytes -/

/-- What `sendData` sends of a packet: the filled part of its buffer. -/
def SlideWindowSender.fillDatagram (s : SlideWindowSender) (dataPacket : DataPacket ItemData) :
    Option (List UInt8) := do
  let data ← s.readItemData dataPacket.data
  let (bufferContentLength, buffer) ←
    (fillBufferDataPacket ⟨dataPacket.type, dataPacket.seqNum, dataPacket.sentTime,
      dataPacket.dataSize, data⟩ (List.replicate dataPacketSize 0)).toOption
  return buffer.take bufferContentLength

/-- An acknowledgement all of whose bytes are zero. -/
def AckPacket.zero : AckPacket := ⟨.handshake, 0, 0, ⟨0, 0⟩⟩

/-- One pass through the loop of `receiveAck`, when `recvfrom` has a datagram for its
buffer. -/
def receiveAck (shrink : CongestionShrink) (datagram : List UInt8) (s : SlideWindowSender) :
    Except Fault SlideWindowSender := do
  let buffer := datagram.take ackPacketSize
  if buffer.length ≠ ackPacketSize then return s
  let ackPacket ← readBufferAckPacket .zero buffer buffer.length
  if ackPacket.type ≠ .regular then return s
  s.ackArrived shrink false ackPacket

/-- The windows of both programs and every datagram ever sent. -/
structure WireSystem where
  sender : SlideWindowSender
  receiver : SlideWindowReceiver
  dataSent : List (List UInt8)
  acksSent : List (List UInt8)

namespace WireSystem

/-- The choices of the scheduler, the clock and the network. -/
inductive Action
  | prepareDataPacketsToSend (now : Timeval)
  | checkTimeout (timeoutThresholdUs : UInt64) (now : Timeval)
  | receiveAck (datagram : List UInt8)
  | receiveDataReplyAck (datagram : List UInt8)

/-- One operation of the programs. -/
def step (t : Transfer) : Action → WireSystem → Option WireSystem
  | .prepareDataPacketsToSend now, w => do
    let (packets, sender) ← (w.sender.prepareDataPacketsToSend false now).toOption
    let datagrams ← packets.mapM sender.fillDatagram
    return { w with sender := sender, dataSent := datagrams ++ w.dataSent }
  | .checkTimeout timeoutThresholdUs now, w => do
    let sender ← (w.sender.checkTimeout t.shrink false timeoutThresholdUs now).toOption
    return { w with sender := sender }
  | .receiveAck datagram, w =>
    if datagram ∈ w.acksSent then
      (ReliablePacket.receiveAck t.shrink datagram w.sender).toOption.map fun sender =>
        { w with sender := sender }
    else none
  | .receiveDataReplyAck datagram, w =>
    if datagram ∈ w.dataSent then
      (ReliablePacket.receiveDataReplyAck false datagram w.receiver).toOption.map
        fun (replies, receiver) =>
          { w with receiver := receiver, acksSent := replies ++ w.acksSent }
    else none

end WireSystem

/-- The programs of a transfer. -/
def Transfer.wireSystem (t : Transfer) : TransitionSystem WireSystem WireSystem.Action where
  init := ⟨.new t.fileToSend t.bytesToSend t.fastRetransmission, .new, [], []⟩
  step := WireSystem.step t

/-! ## Packets as datagrams -/

/-- A datagram can carry the packet. -/
structure DataPacket.Fits (dataPacket : DataPacket (List UInt8)) : Prop where
  type : dataPacket.type ≠ .invalid
  length_data : dataPacket.data.length = dataPacket.dataSize
  dataSize_le : dataPacket.dataSize ≤ dataPacketDataSize

theorem Transfer.fits_wirePacket (t : Transfer) (now : Timeval) (n : ℕ) :
    (t.wirePacket now n).Fits where
  type := by
    simp only [Transfer.wirePacket]
    split_ifs
    · decide
    · decide
  length_data := rfl
  dataSize_le := (t.length_packetData_le n).trans (Nat.min_le_left _ _)

/-- The receiver reads the packet that was sent. -/
theorem DataPacket.Fits.readBufferDataPacket (h : dataPacket.Fits)
    (target : DataPacket (List UInt8)) :
    readBufferDataPacket target (recvBuffer dataPacket.bytes) dataPacket.bytes.length =
      .ok dataPacket := by
  rw [recvBuffer, DataPacket.length_bytes h.type h.length_data.ge,
    readBufferDataPacket_bytes h.type h.length_data.ge h.dataSize_le,
    List.take_of_length_le h.length_data.le]

/-- The receiver's pass over a packet's datagram is its window's step on the packet,
and its replies are acknowledgements of it. -/
theorem receiveDataReplyAck_bytes (h : dataPacket.Fits)
    (hdata : dataPacket.type = .regular ∨ dataPacket.type = .finish)
    (hreceive : r.receiveDataPacket false dataPacket = .ok (ret, r')) :
    receiveDataReplyAck false dataPacket.bytes r =
      .ok (List.replicate (if r'.finished then finAckNum else 1) (replyAck dataPacket ret).bytes,
        r') := by
  have hpass : receiveDataReplyAck false dataPacket.bytes r =
      answer false dataPacket (recvBuffer dataPacket.bytes) r := by
    simp only [receiveDataReplyAck, h.readBufferDataPacket]
    rfl
  rw [hpass, answer_of_receive hdata hreceive]

/-- The sender's pass over an acknowledgement's datagram is its window's step on the
acknowledgement. -/
theorem receiveAck_bytes (hregular : ackPacket.type = .regular) (shrink : CongestionShrink)
    (s : SlideWindowSender) :
    receiveAck shrink ackPacket.bytes s = s.ackArrived shrink false ackPacket := by
  have htype : ackPacket.type ≠ .invalid := fun hinvalid => by
    rw [hregular] at hinvalid
    cases hinvalid
  have hlength := AckPacket.length_bytes htype
  have hread := readBufferAckPacket_bytes htype .zero []
  rw [List.append_nil] at hread
  rw [receiveAck, List.take_of_length_le hlength.le, hlength]
  simp only [hread, ne_eq, not_true_eq_false, if_false]
  change (if ackPacket.type ≠ .regular then _ else _) = _
  rw [if_neg (not_not.mpr hregular)]

/-- What is sent of a packet is the datagram of what it is marshalled to. -/
theorem fillDatagram_eq {s : SlideWindowSender} {prepared : DataPacket ItemData}
    (hmarshal : s.marshal prepared = some dataPacket) (h : dataPacket.Fits) :
    s.fillDatagram prepared = some dataPacket.bytes := by
  obtain ⟨data, hread, rfl⟩ := Option.map_eq_some_iff.mp hmarshal
  -- only the bytes that are copied matter
  have hfill := fillBufferDataPacket_eq h.type h.length_data.ge (List.replicate dataPacketSize 0)
  simp only [fillBufferDataPacket, List.take_take, Nat.min_self] at hfill
  have hlength := DataPacket.length_bytes h.type h.length_data.ge
  rw [fillDatagram, hread]
  simp only [Option.bind_eq_bind, Option.bind_some, fillBufferDataPacket, hfill, Except.toOption]
  exact congrArg some (List.take_left' hlength)

/-! ## The two systems -/

/-- The same step over bytes. -/
def System.Action.onWire : System.Action → WireSystem.Action
  | .prepareDataPacketsToSend now => .prepareDataPacketsToSend now
  | .checkTimeout timeoutThresholdUs now => .checkTimeout timeoutThresholdUs now
  | .ackArrived ackPacket => .receiveAck ackPacket.bytes
  | .receiveDataPacket dataPacket => .receiveDataReplyAck dataPacket.bytes

namespace WireSystem

variable {w w' : WireSystem} {b : Action}

/-- The windows are the same and the datagrams carry the packets. The receiver may have
sent an acknowledgement several times. -/
structure Carries (w : WireSystem) (sys : System) : Prop where
  sender : w.sender = sys.sender
  receiver : w.receiver = sys.receiver
  dataSent : w.dataSent = sys.dataSent.map (·.bytes)
  acksSent : ∀ datagram, datagram ∈ w.acksSent ↔
    ∃ ackPacket ∈ sys.acksSent, ackPacket.bytes = datagram

theorem carries_init (t : Transfer) : t.wireSystem.init.Carries t.system.init where
  sender := rfl
  receiver := rfl
  dataSent := rfl
  acksSent := by
    intro datagram
    exact iff_of_false List.not_mem_nil fun ⟨_, hmem, _⟩ => absurd hmem List.not_mem_nil

/-- An action over bytes that a carried state enables is that of a step over packets. -/
theorem Carries.exists_step (h : w.Carries sys) (hinv : sys.Inv t) (ht : t.InRange)
    (hstep : t.wireSystem.step b w = some w') :
    ∃ a sys', a.onWire = b ∧ t.system.step a sys = some sys' := by
  cases b with
  | prepareDataPacketsToSend now =>
    exact ⟨.prepareDataPacketsToSend now, _, rfl,
      System.step_prepareDataPacketsToSend now hinv ht⟩
  | checkTimeout timeoutThresholdUs now =>
    exact ⟨.checkTimeout timeoutThresholdUs now, _, rfl, System.checkTimeout_eq hinv ht⟩
  | receiveAck datagram =>
    -- only what is on the network arrives, and that carries an acknowledgement
    obtain ⟨hmem, -⟩ := Option.ite_none_right_eq_some.mp hstep
    obtain ⟨ackPacket, hack, rfl⟩ := (h.acksSent datagram).mp hmem
    exact ⟨.ackArrived ackPacket, _, rfl, System.step_ackArrived hinv ht hack⟩
  | receiveDataReplyAck datagram =>
    obtain ⟨hmem, -⟩ := Option.ite_none_right_eq_some.mp hstep
    rw [h.dataSent] at hmem
    obtain ⟨dataPacket, hdata, rfl⟩ := List.mem_map.mp hmem
    obtain ⟨ret, receiver, -, heq⟩ := System.receiveDataPacket_eq hinv hdata
    have hreceive : t.system.step (.receiveDataPacket dataPacket) sys =
        some { sys with
          receiver := receiver
          acksSent := replyAck dataPacket ret :: sys.acksSent } := by
      change System.step t (.receiveDataPacket dataPacket) sys = _
      rw [System.step, if_pos hdata, heq]
      rfl
    exact ⟨.receiveDataPacket dataPacket, _, rfl, hreceive⟩

/-- A sending round sends the datagrams of its packets. -/
theorem Carries.step_prepareDataPacketsToSend (h : w.Carries sys) (hinv : sys.Inv t)
    (ht : t.InRange) (now : Timeval) :
    t.wireSystem.step (.prepareDataPacketsToSend now) w = some
      { w with
        sender := sys.sender.prepared now
        dataSent := (System.wirePackets t now sys.sender).map (·.bytes) ++ w.dataSent } := by
  have hfill : (sys.sender.preparedPackets now).mapM (sys.sender.prepared now).fillDatagram =
      some ((System.wirePackets t now sys.sender).map (·.bytes)) := by
    rw [System.wirePackets, List.map_map]
    refine mapM_eq_some fun packet hpacket => ?_
    exact fillDatagram_eq (System.marshal_prepared hinv.sender ht hpacket) (t.fits_wirePacket _ _)
  change WireSystem.step t (.prepareDataPacketsToSend now) w = _
  rw [WireSystem.step, h.sender,
    SlideWindowSender.prepareDataPacketsToSend_eq (hinv.sender.numbered ht)]
  simp only [Except.toOption, Option.bind_eq_bind, Option.bind_some, hfill]
  rfl

/-- The datagram of an acknowledgement is processed as the acknowledgement. -/
theorem Carries.step_receiveAck (h : w.Carries sys) (hinv : sys.Inv t) (ht : t.InRange)
    (hmem : ackPacket ∈ sys.acksSent) :
    t.wireSystem.step (.receiveAck ackPacket.bytes) w =
      some { w with sender := sys.sender.acked t.shrink ackPacket } := by
  change WireSystem.step t (.receiveAck ackPacket.bytes) w = _
  rw [WireSystem.step, if_pos ((h.acksSent _).mpr ⟨ackPacket, hmem, rfl⟩), h.sender,
    receiveAck_bytes (hinv.ackType _ hmem),
    SlideWindowSender.ackArrived_eq (hinv.sender.numbered ht) (hinv.cumulativeSeqNum_le hmem)]
  rfl

/-- The datagram of a packet is received as the packet and answered. -/
theorem Carries.step_receiveDataReplyAck (h : w.Carries sys) (hinv : sys.Inv t)
    (hintact : sys.Intact t) (hmem : dataPacket ∈ sys.dataSent)
    (hreceive : sys.receiver.receiveDataPacket false dataPacket = .ok (ret, r')) :
    t.wireSystem.step (.receiveDataReplyAck dataPacket.bytes) w = some
      { w with
        receiver := r'
        acksSent := List.replicate (if r'.finished then finAckNum else 1)
          (replyAck dataPacket ret).bytes ++ w.acksSent } := by
  have hsent : dataPacket.bytes ∈ w.dataSent := by
    rw [h.dataSent]
    exact List.mem_map_of_mem hmem
  obtain ⟨now, n, -, rfl⟩ := hintact.dataSent dataPacket hmem
  change WireSystem.step t (.receiveDataReplyAck _) w = _
  rw [WireSystem.step, if_pos hsent, h.receiver,
    receiveDataReplyAck_bytes (t.fits_wirePacket now n) (hinv.isData hmem) hreceive]
  rfl

/-- **Every step over packets is a step over bytes.** -/
theorem Carries.step (h : w.Carries sys) (hinv : sys.Inv t) (hintact : sys.Intact t)
    (ht : t.InRange) (hstep : t.system.step a sys = some sys') :
    ∃ w', t.wireSystem.step a.onWire w = some w' ∧ w'.Carries sys' := by
  rcases System.step_cases hinv ht hstep with ⟨now, rfl, rfl⟩ | ⟨thr, now, rfl, rfl⟩ |
    ⟨ackPacket, hmem, rfl, rfl⟩ | ⟨dataPacket, hmem, ret, receiver, rfl, hreceive, rfl⟩
  · refine ⟨_, h.step_prepareDataPacketsToSend hinv ht now, ⟨rfl, h.receiver, ?_, h.acksSent⟩⟩
    rw [h.dataSent, ← List.map_append]
    rfl
  · refine ⟨{ w with sender := sys.sender.timeoutChecked t.shrink thr now }, ?_,
      ⟨rfl, h.receiver, h.dataSent, h.acksSent⟩⟩
    change WireSystem.step t (.checkTimeout thr now) w = _
    rw [WireSystem.step, h.sender, checkTimeout_release]
    rfl
  · exact ⟨_, h.step_receiveAck hinv ht hmem, ⟨rfl, h.receiver, h.dataSent, h.acksSent⟩⟩
  · refine ⟨_, h.step_receiveDataReplyAck hinv hintact hmem hreceive,
      ⟨h.sender, rfl, h.dataSent, fun datagram => ?_⟩⟩
    -- the reply is sent at least once
    have hreplies : (if receiver.finished then finAckNum else 1) ≠ 0 := by
      split_ifs
      · decide
      · decide
    simp only [List.mem_append, List.mem_replicate, h.acksSent datagram, List.exists_mem_cons_iff]
    constructor
    · rintro (⟨-, rfl⟩ | hold)
      · exact .inl rfl
      · exact .inr hold
    · rintro (rfl | hold)
      · exact .inl ⟨hreplies, rfl⟩
      · exact .inr hold

/-! ## Runs -/

/-- **What the programs do over bytes the windows do over packets**: every reachable
state over bytes carries a reachable state over packets. -/
theorem exists_carried (ht : t.InRange) (hreach : t.wireSystem.Reachable w) :
    ∃ sys, t.system.Reachable sys ∧ w.Carries sys := by
  refine hreach.simulate (carries_init t) fun w sys b w₁ _ hsys h hstep => ?_
  have hinv := System.inv_of_reachable ht hsys
  obtain ⟨a, sys₁, rfl, hstep'⟩ := h.exists_step hinv ht hstep
  obtain ⟨w₂, hw₂, hcarries⟩ := h.step hinv (System.intact_of_reachable ht hsys) ht hstep'
  rw [hstep] at hw₂
  cases hw₂
  exact ⟨a, sys₁, hstep', hcarries⟩

/-- And the other way round: every reachable state over packets is carried by a
reachable state over bytes. -/
theorem exists_carrying (ht : t.InRange) (hreach : t.system.Reachable sys) :
    ∃ w, t.wireSystem.Reachable w ∧ w.Carries sys := by
  refine hreach.simulate (R := fun sys w => Carries w sys) (carries_init t) ?_
  intro sys w a sys₁ hsys _ h hstep
  obtain ⟨w₁, hw₁, hcarries⟩ :=
    h.step (System.inv_of_reachable ht hsys) (System.intact_of_reachable ht hsys) ht hstep
  exact ⟨a.onWire, w₁, hw₁, hcarries⟩

/-- **The output file agrees with the source** wherever the receiver has written, also
over bytes. -/
theorem agrees_of_reachable (ht : t.InRange) (hreach : t.wireSystem.Reachable w) :
    ∀ write ∈ w.receiver.fileToWrite.map fun write => (write.offset, write.data),
      ByteFile.Agrees t.fileToSend.byte write := by
  obtain ⟨sys, hsys, hcarries⟩ := exists_carried ht hreach
  rw [hcarries.receiver]
  exact (System.intact_of_reachable ht hsys).agrees

/-- **Bytes and packets are the same protocol.** Every state over datagrams carries a
reachable state over packets, with the same windows and the datagrams of its packets and
acknowledgements on the network; and every reachable state over packets is carried by a
reachable one over datagrams. -/
theorem wireSystem_equivalent (ht : t.InRange) :
    (∀ w, t.wireSystem.Reachable w → ∃ sys, t.system.Reachable sys ∧ w.Carries sys) ∧
      ∀ sys, t.system.Reachable sys → ∃ w, t.wireSystem.Reachable w ∧ w.Carries sys :=
  ⟨fun _ hreach => exists_carried ht hreach, fun _ hreach => exists_carrying ht hreach⟩

/-- The receiver has taken the only packet, also over datagrams. -/
theorem wireSystem_equivalent_oneByte : ∃ w, Transfer.oneByte.wireSystem.Reachable w ∧
    w.receiver.finished = true ∧ w.acksSent ≠ [] := by
  have hreach := Transfer.oneByte.system.reachable_endOf
    [.prepareDataPacketsToSend ⟨0, 0⟩, .receiveDataPacket ⟨.finish, 0, ⟨0, 0⟩, 1, [7]⟩]
  have hfinished : (Transfer.oneByte.system.endOf
      [.prepareDataPacketsToSend ⟨0, 0⟩,
        .receiveDataPacket ⟨.finish, 0, ⟨0, 0⟩, 1, [7]⟩]).receiver.finished = true := by
    decide +kernel
  have hack : (⟨.regular, 1, 0, ⟨0, 0⟩⟩ : AckPacket) ∈ (Transfer.oneByte.system.endOf
      [.prepareDataPacketsToSend ⟨0, 0⟩,
        .receiveDataPacket ⟨.finish, 0, ⟨0, 0⟩, 1, [7]⟩]).acksSent := by
    decide +kernel
  obtain ⟨w, hw, hcarries⟩ := (wireSystem_equivalent Transfer.oneByte_inRange).2 _ hreach
  rw [← hcarries.receiver] at hfinished
  exact ⟨w, hw, hfinished,
    List.ne_nil_of_mem ((hcarries.acksSent _).mpr ⟨_, hack, rfl⟩)⟩

end WireSystem

end ReliablePacket
