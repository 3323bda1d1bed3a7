import YumeDisk.Kmdf.ControlMessage

/-!
# From the control driver to the miniport (`control/ioctl.c`, `transport/transport.c`)

An application's request is checked by the control driver, and its SRB again by the miniport.

* `controlEvtIoDeviceControl`: the SRB that a request ends in, or the status it is completed with.
* `Framed`: what the control driver guarantees of the SRB.
* `sent_dispatched`: **what passes the control driver is not refused by the miniport**, whose
  handler finds all of the message in the buffer.
* `reread_outside`: what the output buffer has to do with it.
-/

namespace YumeDisk.Kmdf

open Miniport (NtStatus MessageHeader SrbIoControl StorageRequestBlock Handler IoControlOutcome
  messageBaseSize srbIoControlSize miniportSignature maxUlong ntSuccess statusSuccess
  statusInvalidParameter statusBufferTooSmall statusInvalidDeviceRequest statusSharingViolation
  handlerOf claimSession handleIoControlSrb DispatchesInside)

/-- `STATUS_DEVICE_NOT_READY`. -/
def statusNotReady : NtStatus := -1073741661

/-! ## Requests -/

/-- `YUMEDISK_CANCEL_SLOT`. -/
structure CancelSlot where
  slotId : UInt64
  slotType : UInt32
  targetId : UInt32
deriving DecidableEq, Repr

/-- What is read of a `YUMEDISK_READ_ACK`. -/
structure ReadAck where
  eventId : UInt64
  dataLength : UInt32
  kernelVa : UInt64
deriving DecidableEq, Repr

/-- What `ControlSessionEnterLocked` and `ControlSessionAcquireSlot` see of the session: the status
of its state each time that it is read, the handles, the runtime. -/
structure FileSession where
  stateStatus : NtStatus
  stateStatusAgain : NtStatus
  miniportHandle : Bool
  miniportObjects : Bool
  transportRuntime : Bool
  sessionId : UInt64

/-- `ControlSessionEnterLocked`. -/
def FileSession.enterLocked (s : FileSession) : Except NtStatus UInt64 :=
  if !ntSuccess s.stateStatus then .error s.stateStatus
  else if !s.miniportHandle || s.sessionId = 0 then .error statusNotReady
  else .ok s.sessionId

/-- `ControlSessionAcquireSlot`. -/
def FileSession.acquireSlot (s : FileSession) : Except NtStatus UInt64 :=
  if !ntSuccess s.stateStatus then .error s.stateStatus
  else if !ntSuccess s.stateStatusAgain then .error s.stateStatusAgain
  else if !s.miniportHandle || !s.miniportObjects || s.sessionId = 0 || !s.transportRuntime then
    .error statusNotReady
  else .ok s.sessionId

/-- A request of the application, and what the driver is given on the way.  The message is in a
buffer of the system; the output buffer is the application's own memory. -/
structure AppRequest where
  /-- `IoControlCode` is `IOCTL_YUMEDISK_APP_COMMAND`. -/
  isAppCommand : Bool
  inputBufferLength : Nat
  /-- `WdfRequestRetrieveInputBuffer`. -/
  inputBuffer : Except NtStatus Nat
  outputBufferLength : Nat
  /-- `WdfRequestRetrieveOutputBuffer`, by the size asked for. -/
  outputBuffer : Nat → Except NtStatus Nat
  fileObject : Bool
  session : FileSession
  message : MessageHeader
  txId : UInt64
  rangeCount : UInt32
  cancelSlot : CancelSlot
  readAck : ReadAck
  /-- What the header in the output buffer has become when it is copied to the SRB. -/
  reread : MessageHeader → MessageHeader
  /-- `ControlTransportRuntimeAcquireSyncCommandBuffer`: the size of the buffer. -/
  commandBuffer : UInt32 → Except NtStatus UInt32
  /-- What it takes to submit a slot: the request of the pool, the place of an event slot, the
  IRP, the queue of the dispatcher. -/
  slotRequest : Except NtStatus Unit

namespace AppRequest

variable (r : AppRequest)

/-- `ControlGetOutputBuffer`. -/
def getOutputBuffer (minimumSize : Nat) : Except NtStatus Nat :=
  if r.outputBufferLength < minimumSize then .error statusBufferTooSmall
  else r.outputBuffer minimumSize

/-- `ControlProxyCommand`. -/
def proxyCommand (message : MessageHeader) (inputLength bufferCapacity : UInt32) :
    Except NtStatus StorageRequestBlock :=
  if !r.session.miniportHandle then .error statusNotReady
  else if bufferCapacity.toNat > maxUlong - srbIoControlSize.toNat then
    .error statusInvalidParameter
  else
    match r.commandBuffer (srbIoControlSize + bufferCapacity) with
    | .error status => .error status
    | .ok ioctlBufferSize =>
      sendPreparedMiniportBuffer message inputLength bufferCapacity ioctlBufferSize

/-- `ControlProxyMessage`: the message goes through the output buffer. -/
def proxyMessage (requestLength : UInt32) (sessionId : UInt64) :
    Except NtStatus StorageRequestBlock :=
  match r.getOutputBuffer r.message.size.toNat with
  | .error status => .error status
  | .ok _ =>
    r.proxyCommand (r.reread { r.message with sessionId }) requestLength r.message.size

/-- The SRB that `ControlProxySubmitSlotAsync` and `ControlProxySubmitEventSlotAsync` build;
both payloads have 40 bytes. -/
def submitSlotSrb (command : UInt32) (sessionId : UInt64) : StorageRequestBlock where
  dataBuffer := some (⟨srbIoControlSize, miniportSignature, 88⟩,
    ⟨88, command, sessionId, r.message.targetId, 40⟩)
  dataTransferLength := 116

/-- `ControlHandlePostReadSlot`, `ControlHandlePostWriteSlot` and `ControlHandlePostEventSlot`,
with the function that submits the slot. -/
def postSlot (minimumSize : Nat) (command : UInt32) (sessionId : UInt64) :
    Except NtStatus StorageRequestBlock :=
  if r.message.payloadLength ≠ 0 ∨ r.message.targetId > 254 then .error statusInvalidParameter
  else
    match r.getOutputBuffer minimumSize with
    | .error status => .error status
    | .ok outputSize =>
      -- an event slot has its size checked once more
      if outputSize > maxUlong ∨ r.txId = 0 ∨ (command = 28 ∧ outputSize < 16) then
        .error statusInvalidParameter
      else
        match r.slotRequest with
        | .error status => .error status
        | .ok () => .ok (r.submitSlotSrb command sessionId)

/-- The data of a read ack is left in the output buffer. -/
def directBuffer : Except NtStatus Unit :=
  if r.readAck.dataLength = 0 then .ok ()
  else
    match r.getOutputBuffer r.readAck.dataLength.toNat with
    | .error status => .error status
    | .ok outputSize =>
      if r.readAck.dataLength.toNat > outputSize then .error statusBufferTooSmall else .ok ()

/-- `ControlHandleReadAck` and `ControlProxyReadAck`. -/
def handleReadAck (sessionId : UInt64) : Except NtStatus StorageRequestBlock :=
  if r.message.payloadLength ≠ 24 then .error statusInvalidParameter
  else if r.readAck.eventId = 0 ∨ r.readAck.kernelVa ≠ 0 ∨ r.message.targetId > 254 then
    .error statusInvalidParameter
  else
    match r.directBuffer with
    | .error status => .error status
    | .ok () => r.proxyCommand ⟨72, 22, sessionId, r.message.targetId, 24⟩ 72 72

/-- `ControlValidateNotifyDataChangedRequest`. -/
def validateNotifyDataChanged : Except NtStatus Unit :=
  if r.message.payloadLength ≠ 0 ∨ r.message.targetId > 254 then .error statusInvalidParameter
  else .ok ()

/-- `ControlValidateCancelSlotPayload`. -/
def validateCancelSlot : Except NtStatus Unit :=
  if r.message.payloadLength ≠ 16 then .error statusInvalidParameter
  else if r.cancelSlot.slotId = 0 ∨ r.cancelSlot.targetId > 254 ∨
      (r.cancelSlot.slotType ≠ 1 ∧ r.cancelSlot.slotType ≠ 2) then
    .error statusInvalidParameter
  else .ok ()

/-- The check of a message that is passed on as it is. -/
def validate : Except NtStatus Unit :=
  if r.message.command = 7 then r.validateNotifyDataChanged
  else if r.message.command = 23 then
    controlValidateWriteAckBatchPayload r.rangeCount r.message.payloadLength
  else if r.message.command = 25 then r.validateCancelSlot
  else .ok ()

/-- The commands whose message is passed on. -/
def passesOn : Bool := r.message.command ∈ [2, 26, 3, 7, 4, 5, 23, 25]

/-- The commands of slots: the smallest buffer, and the command that the miniport gets. -/
def slotCommand : Option (Nat × UInt32) :=
  if r.message.command = 20 then some (32, 24)
  else if r.message.command = 21 then some (48, 24)
  else if r.message.command = 27 then some (16, 28)
  else none

/-- `ControlEvtIoDeviceControl` once the session has been entered: `ControlHandleHeartbeat`,
`ControlHandleQueryKmdfInfo`, or what is sent. -/
def handleCommand (requestLength : UInt32) (sessionId : UInt64) :
    Except NtStatus (Option StorageRequestBlock) :=
  if r.message.command = 6 then
    (r.getOutputBuffer messageBaseSize.toNat).map fun _ => none
  else if r.message.command = 1 then
    if r.message.payloadLength ≠ 0 then .error statusInvalidParameter
    else (r.getOutputBuffer (messageBaseSize.toNat + 4)).map fun _ => none
  else if r.passesOn then
    match r.validate with
    | .error status => .error status
    | .ok () => (r.proxyMessage requestLength sessionId).map some
  else if r.message.command = 22 then
    (r.handleReadAck sessionId).map some
  else .error statusInvalidDeviceRequest

end AppRequest

/-- `ControlEvtIoDeviceControl`: the SRB that is sent, or none where the request is answered. -/
def controlEvtIoDeviceControl (r : AppRequest) : Except NtStatus (Option StorageRequestBlock) :=
  if !r.isAppCommand then .error statusInvalidDeviceRequest
  else
    match controlGetInputMessage r.inputBufferLength r.inputBuffer r.message with
    | .error status => .error status
    | .ok requestLength =>
      if !r.fileObject then .error statusInvalidDeviceRequest
      else
        match r.slotCommand with
        | some (minimumSize, command) =>
          match r.session.acquireSlot with
          | .error status => .error status
          | .ok sessionId => (r.postSlot minimumSize command sessionId).map some
        | none =>
          match r.session.enterLocked with
          | .error status => .error status
          | .ok sessionId => r.handleCommand requestLength sessionId

/-- The command that the miniport gets for one of the application's. -/
def sentCommand (command : UInt32) : UInt32 :=
  if command = 20 ∨ command = 21 then 24 else if command = 27 then 28 else command

/-! ## What is sent -/

/-- An SRB whose lengths are those of its buffer and its message. -/
structure Framed (srb : StorageRequestBlock) (message : MessageHeader) : Prop where
  buffer : ∃ capacity, srb.dataBuffer = some (⟨srbIoControlSize, miniportSignature, capacity⟩,
    message) ∧ 28 + capacity.toNat ≤ srb.dataTransferLength.toNat ∧
      message.size.toNat ≤ capacity.toNat
  size : 48 ≤ message.size.toNat
  payload : 48 + message.payloadLength.toNat ≤ message.size.toNat

/-- What the miniport makes of a message with a command of its own. -/
def answer (currentSessionId : UInt64) (message : MessageHeader) (handler : Handler) :
    IoControlOutcome × UInt64 :=
  match claimSession currentSessionId message with
  | .error status => (.completed status, currentSessionId)
  | .ok sessionId => (.dispatched handler, sessionId)

section Sent

variable {r : AppRequest} {srb : StorageRequestBlock} {message : MessageHeader}
  {sessionId : UInt64} {requestLength : UInt32}

/-- **Only the session decides** about an SRB that is framed. -/
theorem Framed.handled (h : Framed srb message) {handler : Handler}
    (hhandler : handlerOf message.command = some handler) (currentSessionId : UInt64) :
    handleIoControlSrb currentSessionId srb = answer currentSessionId message handler := by
  obtain ⟨capacity, hbuffer, hfits, hcapacity⟩ := h.buffer
  have hsum : (srbIoControlSize + messageBaseSize).toNat = 76 := rfl
  have hbase : messageBaseSize.toNat = 48 := rfl
  have hheader : srbIoControlSize.toNat = 28 := rfl
  have hlength := Miniport.toNat_add_wraps srbIoControlSize capacity
  have hpayload := Miniport.toNat_add_wraps messageBaseSize message.payloadLength
  have hd := srb.dataTransferLength.toNat_lt
  have hs := message.size.toNat_lt
  have hsize := h.size
  have hinside := h.payload
  simp only [handleIoControlSrb, hbuffer, answer, UInt32.lt_iff_toNat_lt, gt_iff_lt, hsum, hbase]
  rw [if_neg (by omega), if_neg (by simp), if_neg (by omega), if_neg (by omega)]
  cases claimSession currentSessionId message <;> simp only [hhandler]

theorem Framed.inside (h : Framed srb message) (currentSessionId : UInt64) :
    DispatchesInside currentSessionId srb := by
  obtain ⟨capacity, hbuffer, hfits, hcapacity⟩ := h.buffer
  rw [Miniport.dispatchesInside_iff]
  rintro ⟨srbIoControl, message', hadmitted, -, -, -, hslip⟩
  obtain ⟨rfl, rfl⟩ := Prod.mk.inj (Option.some.inj (hbuffer.symm.trans hadmitted.buffer))
  have hinside := h.payload
  have hs := message.size.toNat_lt
  have hd := srb.dataTransferLength.toNat_lt
  simp only [Miniport.LengthWraps, Miniport.PayloadWraps] at hslip
  omega

theorem enterLocked_ok {s : FileSession} (h : s.enterLocked = .ok sessionId) :
    sessionId = s.sessionId ∧ s.sessionId ≠ 0 := by
  unfold FileSession.enterLocked at h
  split_ifs at h with _ hready
  cases h
  exact ⟨rfl, fun hzero => hready (by simp [hzero])⟩

theorem acquireSlot_ok {s : FileSession} (h : s.acquireSlot = .ok sessionId) :
    sessionId = s.sessionId ∧ s.sessionId ≠ 0 := by
  unfold FileSession.acquireSlot at h
  split_ifs at h with _ _ hready
  cases h
  exact ⟨rfl, fun hzero => hready (by simp [hzero])⟩

theorem proxyCommand_framed {inputLength capacity : UInt32}
    (h : r.proxyCommand message inputLength capacity = .ok srb)
    (hcapacity : message.size.toNat ≤ capacity.toNat) (hsize : 48 ≤ message.size.toNat)
    (hpayload : 48 + message.payloadLength.toNat ≤ message.size.toNat) : Framed srb message := by
  have hheader : srbIoControlSize.toNat = 28 := rfl
  unfold AppRequest.proxyCommand sendPreparedMiniportBuffer at h
  split_ifs at h with _ hlarge
  split at h
  · cases h
  split_ifs at h with hsmall
  obtain rfl := Except.ok.inj h
  have hsum := Miniport.toNat_add_wraps srbIoControlSize capacity
  refine ⟨⟨capacity, rfl, ?_, hcapacity⟩, hsize, hpayload⟩
  simp only [not_or, UInt32.lt_iff_toNat_lt, hheader, maxUlong] at hsmall hlarge ⊢
  omega

theorem submitSlotSrb_framed (r : AppRequest) (command : UInt32) (sessionId : UInt64) :
    Framed (r.submitSlotSrb command sessionId)
      ⟨88, command, sessionId, r.message.targetId, 40⟩ where
  buffer := ⟨88, rfl, show 28 + (88 : UInt32).toNat ≤ (116 : UInt32).toNat by decide, le_rfl⟩
  size := show 48 ≤ (88 : UInt32).toNat by decide
  payload := show 48 + (40 : UInt32).toNat ≤ (88 : UInt32).toNat by decide

theorem postSlot_ok {minimumSize : Nat} {command : UInt32}
    (h : r.postSlot minimumSize command sessionId = .ok srb) :
    srb = r.submitSlotSrb command sessionId := by
  unfold AppRequest.postSlot at h
  split_ifs at h
  split at h
  · cases h
  split_ifs at h
  split at h
  · cases h
  · exact (Except.ok.inj h).symm

theorem handleReadAck_framed (h : r.handleReadAck sessionId = .ok srb) :
    Framed srb ⟨72, 22, sessionId, r.message.targetId, 24⟩ := by
  unfold AppRequest.handleReadAck at h
  split_ifs at h
  split at h
  · cases h
  · refine proxyCommand_framed h le_rfl ?_ ?_
    · exact show 48 ≤ (72 : UInt32).toNat by decide
    · exact show 48 + (24 : UInt32).toNat ≤ (72 : UInt32).toNat by decide

/-- The output buffer keeps what is copied to it. -/
def StaysAsCopied (r : AppRequest) : Prop :=
  r.passesOn = true → ∀ message, r.reread message = message

theorem proxyMessage_framed (hstill : ∀ message, r.reread message = message)
    (hinput : controlGetInputMessage r.inputBufferLength r.inputBuffer r.message =
      .ok requestLength) (h : r.proxyMessage requestLength sessionId = .ok srb) :
    Framed srb { r.message with sessionId } := by
  unfold AppRequest.proxyMessage at h
  split at h
  · cases h
  rw [hstill] at h
  cases hbuffer : r.inputBuffer with
  | error status =>
    rw [hbuffer, controlGetInputMessage] at hinput
    split_ifs at hinput
  | ok inputSize =>
    rw [hbuffer] at hinput
    obtain ⟨hlength, hsize, -⟩ := controlGetInputMessage_inside hinput
    refine proxyCommand_framed h le_rfl ?_ ?_ <;> dsimp only <;> omega

theorem some_of_map {x : Except NtStatus StorageRequestBlock}
    (h : x.map some = .ok (some srb)) : x = .ok srb := by
  cases x with
  | error status => cases h
  | ok srb' =>
    cases h
    rfl

theorem handleCommand_ok (h : r.handleCommand requestLength sessionId = .ok (some srb)) :
    (r.passesOn = true ∧ r.validate = .ok () ∧ r.proxyMessage requestLength sessionId = .ok srb) ∨
      (r.message.command = 22 ∧ r.handleReadAck sessionId = .ok srb) := by
  have hnone : ∀ {x : Except NtStatus Nat},
      (x.map fun _ => (none : Option StorageRequestBlock)) ≠ .ok (some srb) := by
    rintro (status | n) heq <;> cases heq
  unfold AppRequest.handleCommand at h
  split_ifs at h with _ _ _ hpasses hreadAck
  · exact absurd h hnone
  · exact absurd h hnone
  · split at h
    · cases h
    next hvalid => exact .inl ⟨hpasses, hvalid, some_of_map h⟩
  · exact .inr ⟨hreadAck, some_of_map h⟩

/-- **The three ways of an SRB** to the miniport, each with the session of its sender. -/
theorem sent_cases (h : controlEvtIoDeviceControl r = .ok (some srb)) :
    r.session.sessionId ≠ 0 ∧
      ((∃ minimumSize command, r.slotCommand = some (minimumSize, command) ∧
          srb = r.submitSlotSrb command r.session.sessionId) ∨
        (r.passesOn = true ∧ r.validate = .ok () ∧ ∃ requestLength,
          controlGetInputMessage r.inputBufferLength r.inputBuffer r.message = .ok requestLength ∧
            r.proxyMessage requestLength r.session.sessionId = .ok srb) ∨
        (r.message.command = 22 ∧ r.handleReadAck r.session.sessionId = .ok srb)) := by
  unfold controlEvtIoDeviceControl at h
  split at h
  · cases h
  split at h
  · cases h
  next requestLength hinput =>
  split at h
  · cases h
  split at h
  next minimumSize command hslot =>
    split at h
    · cases h
    next sessionId hsession =>
    obtain ⟨rfl, hne⟩ := acquireSlot_ok hsession
    exact ⟨hne, .inl ⟨_, _, hslot, postSlot_ok (some_of_map h)⟩⟩
  next =>
    split at h
    · cases h
    next sessionId hsession =>
    obtain ⟨rfl, hne⟩ := enterLocked_ok hsession
    refine ⟨hne, .inr ?_⟩
    rcases handleCommand_ok h with ⟨hpasses, hvalid, hproxy⟩ | hreadAck
    · exact .inl ⟨hpasses, hvalid, requestLength, hinput, hproxy⟩
    · exact .inr hreadAck

/-! ## The result -/

theorem slotCommand_sent {minimumSize : Nat} {command : UInt32}
    (h : r.slotCommand = some (minimumSize, command)) :
    command = sentCommand r.message.command ∧ ∃ handler, handlerOf command = some handler := by
  unfold AppRequest.slotCommand at h
  split_ifs at h with hread hwrite hevent <;> cases h
  · exact ⟨by rw [hread]; rfl, .submitSlot, rfl⟩
  · exact ⟨by rw [hwrite]; rfl, .submitSlot, rfl⟩
  · exact ⟨by rw [hevent]; rfl, .submitEventSlot, rfl⟩

theorem passesOn_sent (h : r.passesOn = true) :
    sentCommand r.message.command = r.message.command ∧
      ∃ handler, handlerOf r.message.command = some handler := by
  have hmem := of_decide_eq_true h
  simp only [List.mem_cons, List.not_mem_nil, or_false] at hmem
  rcases hmem with hc | hc | hc | hc | hc | hc | hc | hc <;> rw [hc] <;> exact ⟨rfl, _, rfl⟩

/-- **What is sent is framed**, with a command of the miniport and the session of its sender. -/
theorem sent_framed (hstill : StaysAsCopied r) (h : controlEvtIoDeviceControl r = .ok (some srb)) :
    r.session.sessionId ≠ 0 ∧ ∃ message handler, Framed srb message ∧
      message.command = sentCommand r.message.command ∧
      message.sessionId = r.session.sessionId ∧ handlerOf message.command = some handler := by
  obtain ⟨hne, ⟨_, command, hslot, rfl⟩ | ⟨hpasses, -, _, hinput, hproxy⟩ | ⟨hcommand, hreadAck⟩⟩ :=
    sent_cases h
  · obtain ⟨hsent, handler, hhandler⟩ := slotCommand_sent hslot
    exact ⟨hne, _, handler, submitSlotSrb_framed r command _, hsent, rfl, hhandler⟩
  · obtain ⟨hsent, handler, hhandler⟩ := passesOn_sent hpasses
    exact ⟨hne, _, handler, proxyMessage_framed (hstill hpasses) hinput hproxy, hsent.symm, rfl,
      hhandler⟩
  · exact ⟨hne, _, .readAck, handleReadAck_framed hreadAck, by rw [hcommand]; rfl, rfl, rfl⟩

/-- What the miniport answers, by the session that is the current one. -/
def expectedAnswer (r : AppRequest) (handler : Handler) (currentSessionId : UInt64) :
    IoControlOutcome × UInt64 :=
  if r.message.command = 2 ∨ currentSessionId = r.session.sessionId then
    (.dispatched handler, currentSessionId)
  else if currentSessionId = 0 then
    (.dispatched handler, r.session.sessionId)
  else
    (.completed statusSharingViolation, currentSessionId)

theorem answer_eq_expected {handler : Handler}
    (hcommand : message.command = sentCommand r.message.command)
    (hsession : message.sessionId = r.session.sessionId) (hne : r.session.sessionId ≠ 0)
    (currentSessionId : UInt64) :
    answer currentSessionId message handler = expectedAnswer r handler currentSessionId := by
  have hquery : message.command = 2 ↔ r.message.command = 2 := by
    rw [hcommand, sentCommand]
    split_ifs with hslot hevent
    · refine iff_of_false (by decide) ?_
      rintro hquery
      rw [hquery] at hslot
      exact absurd hslot (by decide)
    · rw [hevent]
      decide
    · exact Iff.rfl
  unfold answer claimSession expectedAnswer
  simp only [hquery, hsession, if_neg hne]
  split_ifs <;> simp_all

theorem batch_inside (h : controlEvtIoDeviceControl r = .ok (some srb))
    (hbatch : r.message.command = 23) {b : Miniport.AckBatchCall}
    (hcount : b.rangeCount = r.rangeCount) : Miniport.ReadsInside b := by
  obtain ⟨-, ⟨_, _, hslot, -⟩ | ⟨-, hvalid, -⟩ | ⟨hcommand, -⟩⟩ := sent_cases h
  · rw [AppRequest.slotCommand, hbatch] at hslot
    cases hslot
  · rw [AppRequest.validate, if_neg (by rw [hbatch]; decide), if_pos hbatch, ← hcount] at hvalid
    have hfills := controlValidateWriteAckBatchPayload_fills hvalid
    rw [Miniport.readsInside_iff]
    intro hslips
    have hwraps := hslips.wraps
    have hp := r.message.payloadLength.toNat_lt
    omega
  · rw [hbatch] at hcommand
    exact absurd hcommand (by decide)

/-- **What passes the control driver is not refused by the miniport**: in its own session, and where
no session is the current one, the SRB goes to the handler of the command, which finds all of the
message in the buffer; a batch of acks is read inside its payload, if its range count is still the
one that the control driver has checked. -/
theorem sent_dispatched (hstill : StaysAsCopied r)
    (h : controlEvtIoDeviceControl r = .ok (some srb)) (currentSessionId : UInt64) :
    ∃ handler, handlerOf (sentCommand r.message.command) = some handler ∧
      handleIoControlSrb currentSessionId srb = expectedAnswer r handler currentSessionId ∧
      DispatchesInside currentSessionId srb ∧
      (r.message.command = 23 →
        ∀ b : Miniport.AckBatchCall, b.rangeCount = r.rangeCount → Miniport.ReadsInside b) := by
  obtain ⟨hne, message, handler, hframed, hcommand, hsession, hhandler⟩ := sent_framed hstill h
  refine ⟨handler, hcommand ▸ hhandler, ?_, hframed.inside currentSessionId, fun hbatch b hcount =>
    batch_inside h hbatch hcount⟩
  rw [hframed.handled hhandler, answer_eq_expected hcommand hsession hne]

end Sent

/-- The acks of one range, of session 7. -/
def ackRequest : AppRequest where
  isAppCommand := true
  inputBufferLength := 80
  inputBuffer := .ok 80
  outputBufferLength := 80
  outputBuffer _ := .ok 80
  fileObject := true
  session := ⟨statusSuccess, statusSuccess, true, true, true, 7⟩
  message := ⟨80, 23, 0, 1, 32⟩
  txId := 0
  rangeCount := 1
  cancelSlot := ⟨0, 0, 0⟩
  readAck := ⟨0, 0, 0⟩
  reread := id
  commandBuffer size := .ok size
  slotRequest := .ok ()

theorem sent_dispatched_acks : ∃ srb, controlEvtIoDeviceControl ackRequest = .ok (some srb) ∧
    (∃ handler, handleIoControlSrb 0 srb = (.dispatched handler, 7)) ∧
      DispatchesInside 0 srb ∧
      ∀ b : Miniport.AckBatchCall, b.rangeCount = 1 → Miniport.ReadsInside b := by
  have hsent : controlEvtIoDeviceControl ackRequest = .ok (some
      { dataBuffer := some (⟨srbIoControlSize, miniportSignature, 80⟩, ⟨80, 23, 7, 1, 32⟩)
        dataTransferLength := 108 }) := rfl
  obtain ⟨handler, -, hhandled, hinside, hranges⟩ := sent_dispatched (fun _ _ => rfl) hsent 0
  exact ⟨_, hsent, ⟨handler, hhandled⟩, hinside, hranges rfl⟩

/-- **The output buffer is the application's own**: where it is written between the two copies, the
miniport gets a message whose payload is longer than the buffer. -/
theorem reread_outside : ∃ r srb, controlEvtIoDeviceControl r = .ok (some srb) ∧
    ¬ DispatchesInside r.session.sessionId srb := by
  refine ⟨{ ackRequest with reread := fun message => { message with payloadLength := 0xFFFFFFD0 } },
    { dataBuffer := some (⟨srbIoControlSize, miniportSignature, 80⟩, ⟨80, 23, 7, 1, 0xFFFFFFD0⟩)
      dataTransferLength := 108 }, rfl, fun hinside => ?_⟩
  exact absurd (hinside _ _ .writeAckBatch rfl (by decide)) (by decide)

end YumeDisk.Kmdf
