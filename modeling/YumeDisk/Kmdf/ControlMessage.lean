import YumeDisk.Miniport.IoControl

/-!
# The messages of the control driver (`control/ioctl.c`, `transport/transport.c`)

The control driver checks the lengths that the miniport sums up before it passes a message on.

* `controlGetInputMessage`, `controlValidateWriteAckBatchPayload`: the checks.
* `sendPreparedMiniportBuffer`: the SRB of a message that is passed on.
* `proxied_inside`: **the result**: such a message is framed as the miniport expects it.
-/

namespace YumeDisk.Kmdf

open Miniport (NtStatus MessageHeader SrbIoControl StorageRequestBlock messageBaseSize
  srbIoControlSize writeAckBatchBaseSize writeAckBatchSize miniportSignature maxUlong
  statusInvalidParameter statusBufferTooSmall DispatchesInside LengthsSlip)

/-- `ControlGetInputMessage`: the length of the request.  `retrieved` is what
`WdfRequestRetrieveInputBuffer` returns: the size of the buffer. -/
def controlGetInputMessage (inputBufferLength : Nat) (retrieved : Except NtStatus Nat)
    (message : MessageHeader) : Except NtStatus UInt32 :=
  if inputBufferLength < messageBaseSize.toNat then
    .error statusBufferTooSmall
  else
    match retrieved with
    | .error status => .error status
    | .ok inputSize =>
      if message.payloadLength.toNat > maxUlong - messageBaseSize.toNat then
        .error statusInvalidParameter
      else
        let requestLength := messageBaseSize + message.payloadLength
        if message.size < messageBaseSize ∨ message.size.toNat > inputSize ∨
            message.size < requestLength then
          .error statusInvalidParameter
        else
          .ok requestLength

/-- `ControlValidateWriteAckBatchPayload`. -/
def controlValidateWriteAckBatchPayload (rangeCount payloadLength : UInt32) :
    Except NtStatus Unit :=
  if payloadLength < writeAckBatchBaseSize then
    .error statusInvalidParameter
  else if rangeCount = 0 ∨ rangeCount.toNat > (maxUlong - 8) / 24 then
    .error statusInvalidParameter
  else if payloadLength ≠ writeAckBatchSize rangeCount then
    .error statusInvalidParameter
  else
    .ok ()

/-- `ControlSendPreparedMiniportBuffer`: the SRB that the port driver makes of the buffer. -/
def sendPreparedMiniportBuffer (message : MessageHeader)
    (inputLength bufferCapacity ioctlBufferSize : UInt32) : Except NtStatus StorageRequestBlock :=
  if bufferCapacity < messageBaseSize ∨
      bufferCapacity.toNat > maxUlong - srbIoControlSize.toNat ∨
      ioctlBufferSize < srbIoControlSize + bufferCapacity ∨
      inputLength < messageBaseSize ∨ inputLength > bufferCapacity then
    .error statusInvalidParameter
  else
    .ok { dataBuffer := some (⟨srbIoControlSize, miniportSignature, bufferCapacity⟩, message)
          dataTransferLength := ioctlBufferSize }

/-! ## The checks -/

theorem controlGetInputMessage_inside {inputBufferLength inputSize : Nat}
    {message : MessageHeader} {requestLength : UInt32}
    (h : controlGetInputMessage inputBufferLength (.ok inputSize) message = .ok requestLength) :
    requestLength.toNat = 48 + message.payloadLength.toNat ∧
      requestLength.toNat ≤ message.size.toNat ∧ message.size.toNat ≤ inputSize := by
  have hbase : messageBaseSize.toNat = 48 := rfl
  have hsum := Miniport.toNat_add_wraps messageBaseSize message.payloadLength
  simp only [controlGetInputMessage, UInt32.lt_iff_toNat_lt, hbase, maxUlong] at h
  split at h
  · cases h
  split at h
  · cases h
  split at h
  · cases h
  obtain rfl := Except.ok.inj h
  omega

/-- The ranges of a batch that passes fill its payload. -/
theorem controlValidateWriteAckBatchPayload_fills {rangeCount payloadLength : UInt32}
    (h : controlValidateWriteAckBatchPayload rangeCount payloadLength = .ok ()) :
    8 + rangeCount.toNat * 24 = payloadLength.toNat := by
  have hbase : writeAckBatchBaseSize.toNat = 8 := rfl
  have hrange : Miniport.writeAckRangeSize.toNat = 24 := rfl
  rw [controlValidateWriteAckBatchPayload, maxUlong] at h
  split at h
  · cases h
  split at h
  · cases h
  split at h
  · cases h
  rename_i hcount hsize
  have hsize : payloadLength.toNat = (writeAckBatchSize rangeCount).toNat :=
    congrArg UInt32.toNat (not_not.mp hsize)
  rw [writeAckBatchSize, UInt32.toNat_add, UInt32.toNat_mul, hbase, hrange] at hsize
  omega

/-- **What the control driver passes on lies in the buffer**, with the session of its sender:
neither sum of the miniport's checks wraps around, and a batch of acks that has been validated is
read inside its payload. -/
theorem proxied_inside {inputBufferLength inputSize : Nat} {message : MessageHeader}
    {requestLength ioctlBufferSize : UInt32} {srb : StorageRequestBlock}
    (hinput : controlGetInputMessage inputBufferLength (.ok inputSize) message = .ok requestLength)
    {sessionId : UInt64} (hsend : sendPreparedMiniportBuffer { message with sessionId }
      requestLength message.size ioctlBufferSize = .ok srb) (currentSessionId : UInt64) :
    DispatchesInside currentSessionId srb ∧
      ∀ b : Miniport.AckBatchCall, b.message = { message with sessionId } →
        controlValidateWriteAckBatchPayload b.rangeCount message.payloadLength = .ok () →
        Miniport.ReadsInside b := by
  obtain ⟨hlength, hle, -⟩ := controlGetInputMessage_inside hinput
  constructor
  · rw [Miniport.dispatchesInside_iff]
    rintro ⟨srbIoControl, message', hadmitted, -, -, -, hslip⟩
    rw [sendPreparedMiniportBuffer] at hsend
    split at hsend
    · cases hsend
    rename_i hsize
    obtain rfl := Except.ok.inj hsend
    obtain ⟨rfl, rfl⟩ := Prod.mk.inj (Option.some.inj hadmitted.buffer)
    have hheader : srbIoControlSize.toNat = 28 := rfl
    have hp := message.payloadLength.toNat_lt
    rw [maxUlong, hheader] at hsize
    simp only [Miniport.LengthWraps, Miniport.PayloadWraps] at hslip
    have hs := message.size.toNat_lt
    omega
  · rintro b - hvalid
    rw [Miniport.readsInside_iff]
    intro hslips
    have hfills := controlValidateWriteAckBatchPayload_fills hvalid
    have hwraps := hslips.wraps
    have hp := message.payloadLength.toNat_lt
    omega

end YumeDisk.Kmdf
