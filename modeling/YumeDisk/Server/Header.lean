import YumeDisk.Server.Auth

/-!
# The header of a payload (`proto/header.go`), and the body of a storer's registration

`parseHeader_encodeHeader`: a header reads back, whatever the body.
-/

namespace YumeDisk.Server

open YumeDisk.Lib

def protocolVersion : UInt8 := 2

def headerSize : Nat := 24

def flagResponse : UInt8 := 1

def flagNotice : UInt8 := 2

def opSessionCloseNotice : UInt8 := 0x05

def opSessionDataChangedNotice : UInt8 := 0x06

def opStorerRegister : UInt8 := 0x20

def opLinkHeartbeat : UInt8 := 0x21

def statusOK : Nat := 0x0000

def statusBadBody : Nat := 0x1003

def statusInvalidRequest : Nat := 0x1004

def statusAuthFailed : Nat := 0x1101

structure Header where
  protocolVersion : UInt8 := protocolVersion
  headerLen : UInt8 := 24
  opCode : UInt8
  flags : UInt8 := 0
  statusCode : Nat := 0
  reserved : Nat := 0
  requestID : Nat
  sessionID : Nat := 0
deriving DecidableEq, Repr

/-- The fields fit their widths. -/
structure Header.Fits (h : Header) : Prop where
  statusCode : h.statusCode < 2 ^ 16
  reserved : h.reserved < 2 ^ 16
  requestID : h.requestID < 2 ^ 64
  sessionID : h.sessionID < 2 ^ 64

def encodeHeader (h : Header) : Bytes :=
  [h.protocolVersion, h.headerLen, h.opCode, h.flags] ++ putUint16 h.statusCode ++
    putUint16 h.reserved ++ putUint64 h.requestID ++ putUint64 h.sessionID

/-- `none` is `ErrPayloadTooSmall`. -/
def parseHeader : Bytes → Option Header
  | version :: len :: op :: flags :: s₁ :: s₀ :: r₁ :: r₀ :: rest =>
    if rest.length < 16 then
      none
    else
      some {
        protocolVersion := version
        headerLen := len
        opCode := op
        flags
        statusCode := uint16 s₁ s₀
        reserved := uint16 r₁ r₀
        requestID := uint64 (rest.take 8)
        sessionID := uint64 ((rest.drop 8).take 8) }
  | _ => none

@[simp] theorem length_encodeHeader (h : Header) : (encodeHeader h).length = headerSize := rfl

/-- **A header reads back**. -/
theorem parseHeader_encodeHeader {h : Header} (hf : h.Fits) (body : Bytes) :
    parseHeader (encodeHeader h ++ body) = some h := by
  have hreq : (putUint64 h.requestID ++ (putUint64 h.sessionID ++ body)).take 8 =
      putUint64 h.requestID := List.take_left' (length_putUint64 _)
  have hses : ((putUint64 h.requestID ++ (putUint64 h.sessionID ++ body)).drop 8).take 8 =
      putUint64 h.sessionID := by
    rw [List.drop_left' (length_putUint64 _)]
    exact List.take_left' (length_putUint64 _)
  show parseHeader (_ :: _ :: _ :: _ :: _ :: _ :: _ :: _ ::
    (putUint64 h.requestID ++ (putUint64 h.sessionID ++ body))) = _
  rw [parseHeader, if_neg (by simp; omega), hreq, hses, uint64_putUint64 hf.requestID,
    uint64_putUint64 hf.sessionID, uint16_putUint16 hf.statusCode, uint16_putUint16 hf.reserved]

def validateCommonHeader (h : Header) : Bool :=
  h.protocolVersion == protocolVersion && h.headerLen == 24 && h.reserved == 0 &&
    (h.flags &&& ~~~(flagResponse ||| flagNotice)) == 0

def validateNoticeHeader (h : Header) : Bool :=
  validateCommonHeader h && h.flags == flagNotice && h.requestID == 0

def buildResponse (req : Header) (status : Nat) (body : Bytes) : Bytes :=
  encodeHeader {
    opCode := req.opCode
    flags := flagResponse
    statusCode := status
    requestID := req.requestID
    sessionID := req.sessionID } ++ body

def buildErrorResponse (req : Header) (status : Nat) : Bytes := buildResponse req status []

def buildSuccessResponse (req : Header) (body : Bytes) : Bytes := buildResponse req statusOK body

/-- `ParseStorerRegisterRequestBody`: the token, the disk id and the verifier. -/
def parseStorerRegisterRequestBody : Bytes → Option (Bytes × DiskID × Bytes)
  | hi :: lo :: rest =>
    let tokenLen := uint16 hi lo
    if rest.length < diskIDLength + authProofSize ∨ tokenLen = 0 ∨
        rest.length ≠ tokenLen + diskIDLength + authProofSize then
      none
    else
      let diskID := slice rest tokenLen diskIDLength
      if isAlphaNumericASCII diskID then
        some (rest.take tokenLen, diskID, rest.drop (tokenLen + diskIDLength))
      else
        none
  | _ => none

end YumeDisk.Server
