import YumeDisk.Client.FrameStream
import YumeDisk.Client.Header

/-!
# The hello of a connection (`bootstrap/hello.go`, `hello_client.rs`)

Before the first frame the client sends a request of one message and the gateway answers with one.

* `Message.encode`: the bytes of a message; `Bootstrap.readMessage` and `readMessage` are the
  readers of the two sides, `readMessage_ok_iff` what both accept.
* `Bootstrap.acceptClient`, `performClientHello`: the two ends, each with the bytes that it sends.
* `HelloExchange`: both ends, with what has arrived of what the other has sent.
* `accepts_exactly`: **which clients the gateway accepts**, whatever bytes come.
* `hello_agrees`: **the two ends agree**, and the first frame begins where the hello ends.
-/

namespace YumeDisk.Server.Bootstrap

open YumeDisk.Lib

def helloVersion : UInt8 := 1

def headerSize : Nat := 12

def maxBodySize : Nat := 64 * 1024

def messageTypeRequest : UInt8 := 1

def messageTypeResponse : UInt8 := 2

def statusOK : UInt16 := 0

def statusProtocolVersion : UInt16 := 1

/-- `YDHL`. -/
def headerMagic : Bytes := [89, 68, 72, 76]

inductive HelloError where
  | eof
  | unexpectedEOF
  /-- The error of a `Write`. -/
  | write
  | invalidHello
  | protocolVersion
  | payloadTooLarge
deriving DecidableEq, Repr

/-- What `writeMessage` gets and `readMessage` returns. -/
structure Message where
  version : UInt8
  messageType : UInt8
  status : UInt16
  body : Bytes
deriving DecidableEq, Repr

structure Response where
  version : UInt8
  status : UInt16
  serverCapabilities : Bytes
deriving DecidableEq, Repr

/-- The header that both sides write. -/
def Message.header (m : Message) : Bytes :=
  headerMagic ++ [m.version, m.messageType] ++ putUint16 m.status.toNat ++
    putUint32 m.body.length

def Message.encode (m : Message) : Bytes := m.header ++ m.body

/-- `io.ReadFull` of `n` bytes. -/
def ioReadFull (n : Nat) (reads : List Bytes) : Except HelloError (Bytes × List Bytes) :=
  match readFull n reads with
  | some read => .ok read
  | none => .error (if reads.flatten = [] then .eof else .unexpectedEOF)

def readMessage (reads : List Bytes) : Except HelloError (Message × List Bytes) := do
  let (header, reads) ← ioReadFull headerSize reads
  if slice header 0 4 ≠ headerMagic then
    throw .invalidHello
  else
    let bodyLen := uint32 (slice header 8 4)
    if bodyLen > maxBodySize then
      throw .payloadTooLarge
    else
      let (body, reads) ← ioReadFull bodyLen reads
      return ({
        version := header.getD 4 0
        messageType := header.getD 5 0
        status := .ofNat (uint16 (header.getD 6 0) (header.getD 7 0))
        body }, reads)

/-- The bytes that a connection takes of `data` where it takes `room` bytes and then fails, and
whether it takes them all. -/
def writeAll (room : Option Nat) (data : Bytes) : Bool × Bytes :=
  match room with
  | none => (true, data)
  | some n => (data.length ≤ n, data.take n)

/-- `writeMessage`, with the bytes that are sent. -/
def writeMessage (room : Option Nat) (m : Message) : Except HelloError Unit × Bytes :=
  if m.body.length > maxBodySize then
    (.error .payloadTooLarge, [])
  else
    match writeAll room m.header with
    | (false, sent) => (.error .write, sent)
    | (true, sent) =>
      if m.body.length = 0 then
        (.ok (), sent)
      else
        match writeAll (room.map (· - sent.length)) m.body with
        | (false, sent') => (.error .write, sent ++ sent')
        | (true, sent') => (.ok (), sent ++ sent')

def readHelloRequest (reads : List Bytes) : Except HelloError (UInt8 × List Bytes) := do
  let (m, reads) ← readMessage reads
  if m.messageType ≠ messageTypeRequest ∨ m.status ≠ 0 ∨ m.body.length ≠ 0 then
    throw .invalidHello
  else
    return (m.version, reads)

def writeHelloResponse (room : Option Nat) (response : Response) : Except HelloError Unit × Bytes :=
  writeMessage room {
    version := response.version
    messageType := messageTypeResponse
    status := response.status
    body := response.serverCapabilities }

/-- `AcceptClient` on what comes in; it returns what comes after the hello, and what it has sent. -/
def acceptClient (room : Option Nat) (reads : List Bytes) :
    Except HelloError (List Bytes) × Bytes :=
  match readHelloRequest reads with
  | .error e => (.error e, [])
  | .ok (version, reads) =>
    if version ≠ helloVersion then
      match writeHelloResponse room {
        version := helloVersion, status := statusProtocolVersion, serverCapabilities := [] } with
      | (.error e, sent) => (.error e, sent)
      | (.ok (), sent) => (.error .protocolVersion, sent)
    else
      match writeHelloResponse room {
        version := helloVersion, status := statusOK, serverCapabilities := [] } with
      | (.error e, sent) => (.error e, sent)
      | (.ok (), sent) => (.ok reads, sent)

end YumeDisk.Server.Bootstrap

namespace YumeDisk.Client

open Lib (Bytes Whole readFull readTimes slice readFull_append readFull_none readFull_flatten
  readTimes_encoded)
open Server (putUint16 uint16 putUint32 uint32 PayloadInRange frame)
open Server.Bootstrap (Message acceptClient)

def helloVersion : UInt8 := 1

def helloHeaderSize : Nat := 12

def maxHelloBodyBytes : Nat := 64 * 1024

def messageTypeRequest : UInt8 := 1

def messageTypeResponse : UInt8 := 2

def helloStatusOk : UInt16 := 0

def helloStatusProtocolVersion : UInt16 := 1

/-- `YDHL`. -/
def helloHeaderMagic : Bytes := [89, 68, 72, 76]

structure HelloResponse where
  serverCapabilities : Bytes
deriving DecidableEq, Repr

/-- `HelloError`; the text of an `Io` is the operating system's. -/
inductive HelloError where
  | invalidHello
  | unsupportedVersion (actual : UInt8)
  | unexpectedStatus (status : UInt16)
  | payloadTooLarge (size : Nat)
  | io
deriving DecidableEq, Repr

/-- `read_exact`. -/
def helloReadExact (n : Nat) (reads : List Bytes) : Except HelloError (Bytes × List Bytes) :=
  match readFull n reads with
  | some read => .ok read
  | none => .error .io

/-- `read_message`. -/
def readMessage (reads : List Bytes) : Except HelloError (Message × List Bytes) := do
  let (header, reads) ← helloReadExact helloHeaderSize reads
  if slice header 0 4 ≠ helloHeaderMagic then
    throw .invalidHello
  else
    let bodyLen := uint32 (slice header 8 4)
    if bodyLen > maxHelloBodyBytes then
      throw (.payloadTooLarge bodyLen)
    else
      let (body, reads) ← if bodyLen > 0 then helloReadExact bodyLen reads else .ok ([], reads)
      return ({
        version := header.getD 4 0
        messageType := header.getD 5 0
        status := .ofNat (uint16 (header.getD 6 0) (header.getD 7 0))
        body }, reads)

/-- `write_message`, with the bytes that are sent. -/
def writeMessage (room : Option Nat) (m : Message) : Except HelloError Unit × Bytes :=
  if m.body.length > maxHelloBodyBytes then
    (.error (.payloadTooLarge m.body.length), [])
  else
    match Server.Bootstrap.writeAll room m.header with
    | (false, sent) => (.error .io, sent)
    | (true, sent) =>
      if m.body = [] then
        (.ok (), sent)
      else
        match Server.Bootstrap.writeAll (room.map (· - sent.length)) m.body with
        | (false, sent') => (.error .io, sent ++ sent')
        | (true, sent') => (.ok (), sent ++ sent')

/-- The request of `perform_client_hello`. -/
def helloRequest (version : UInt8) : Message :=
  { version, messageType := messageTypeRequest, status := 0, body := [] }

/-- `perform_client_hello` after its request: what it makes of what comes in. -/
def readHelloResponse (reads : List Bytes) : Except HelloError (HelloResponse × List Bytes) := do
  let (m, reads) ← readMessage reads
  if m.messageType ≠ messageTypeResponse then
    throw .invalidHello
  else if m.version ≠ helloVersion then
    throw (.unsupportedVersion m.version)
  else if m.status = helloStatusOk then
    return (⟨m.body⟩, reads)
  else if m.status = helloStatusProtocolVersion then
    throw (.unsupportedVersion m.version)
  else
    throw (.unexpectedStatus m.status)

/-- `perform_client_hello` on what comes in; it returns what comes after the hello, and what it has
sent. -/
def performClientHello (room : Option Nat) (reads : List Bytes) :
    Except HelloError (HelloResponse × List Bytes) × Bytes :=
  match writeMessage room (helloRequest helloVersion) with
  | (.error e, sent) => (.error e, sent)
  | (.ok (), sent) => (readHelloResponse reads, sent)

/-! ## Messages on a stream -/

section Messages

variable {m : Message} {reads rest : List Bytes} {more : Bytes}

theorem length_header (m : Message) : m.header.length = 12 := rfl

theorem putUint16_uint16 (hi lo : UInt8) : putUint16 (uint16 hi lo) = [hi, lo] := by
  have hhi := hi.toNat_lt
  have hlo := lo.toNat_lt
  have hdiv : (hi.toNat * 256 + lo.toNat) / 256 = hi.toNat := by omega
  have hmod : UInt8.ofNat (hi.toNat * 256 + lo.toNat) = lo := by
    rw [← UInt8.toNat_inj, UInt8.toNat_ofNat']
    omega
  rw [putUint16, uint16, hdiv, hmod, UInt8.ofNat_toNat]

theorem putUint32_uint32 (a b c d : UInt8) : putUint32 (uint32 [a, b, c, d]) = [a, b, c, d] := by
  have ha := a.toNat_lt
  have hb := b.toNat_lt
  have hc := c.toNat_lt
  have hd := d.toNat_lt
  simp only [putUint32, uint32, List.foldl, Nat.zero_mul, Nat.zero_add]
  congr 1
  · rw [← UInt8.toNat_inj, UInt8.toNat_ofNat']
    omega
  congr 1
  · rw [← UInt8.toNat_inj, UInt8.toNat_ofNat']
    omega
  congr 1
  · rw [← UInt8.toNat_inj, UInt8.toNat_ofNat']
    omega
  congr 1
  rw [← UInt8.toNat_inj, UInt8.toNat_ofNat']
  omega

/-- The message that a header and a body make. -/
def messageOf (header body : Bytes) : Message where
  version := header.getD 4 0
  messageType := header.getD 5 0
  status := .ofNat (uint16 (header.getD 6 0) (header.getD 7 0))
  body := body

/-- A header with the magic is the header of the message that is read from it. -/
theorem header_messageOf {header body : Bytes} (hlen : header.length = 12)
    (hmagic : slice header 0 4 = Server.Bootstrap.headerMagic)
    (hbody : body.length = uint32 (slice header 8 4)) :
    (messageOf header body).header = header := by
  match header, hlen with
  | [a0, a1, a2, a3, a4, a5, a6, a7, a8, a9, a10, a11], _ =>
    have hbody' : body.length = uint32 [a8, a9, a10, a11] := hbody
    have hmagic' : [a0, a1, a2, a3] = Server.Bootstrap.headerMagic := hmagic
    have hstatus : (UInt16.ofNat (uint16 a6 a7)).toNat = uint16 a6 a7 := by
      rw [UInt16.toNat_ofNat']
      exact Nat.mod_eq_of_lt (uint16_lt a6 a7)
    show Server.Bootstrap.headerMagic ++ [a4, a5] ++
      putUint16 (UInt16.ofNat (uint16 a6 a7)).toNat ++ putUint32 body.length = _
    rw [hstatus, hbody', putUint16_uint16, putUint32_uint32, ← hmagic']
    rfl

theorem slice_header_magic (m : Message) :
    slice m.header 0 4 = Server.Bootstrap.headerMagic := rfl

theorem slice_header_length (h : m.body.length ≤ 64 * 1024) :
    uint32 (slice m.header 8 4) = m.body.length :=
  Server.uint32_putUint32 (by omega)

theorem messageOf_header (m : Message) : messageOf m.header m.body = m := by
  have hstatus : UInt16.ofNat (uint16 (UInt8.ofNat (m.status.toNat / 256))
      (UInt8.ofNat m.status.toNat)) = m.status := by
    rw [Server.uint16_putUint16 m.status.toNat_lt, UInt16.ofNat_toNat]
  exact congrArg (Message.mk m.version m.messageType · m.body) hstatus

/-- What is left of a stream after `n` bytes of it. -/
theorem readFull_some {n : Nat} {bytes : Bytes} (h : Whole reads)
    (hread : readFull n reads = some (bytes, rest)) :
    bytes.length = n ∧ Whole rest ∧ reads.flatten = bytes ++ rest.flatten := by
  have hflatten := readFull_flatten reads n h
  split_ifs at hflatten with hlen
  · obtain ⟨rest', hread', hwhole, hrest⟩ := hflatten
    obtain ⟨rfl, rfl⟩ := Prod.mk.inj (Option.some.inj (hread.symm.trans hread'))
    exact ⟨List.length_take_of_le hlen, hwhole, by rw [hrest, List.take_append_drop]⟩
  · rw [hread] at hflatten
    cases hflatten

/-- `read_message` as one match: a header, then its checks, then the body. -/
theorem readMessage_eq (reads : List Bytes) : readMessage reads =
    match readFull 12 reads with
    | none => .error .io
    | some (header, middle) =>
      if slice header 0 4 ≠ helloHeaderMagic then .error .invalidHello
      else if uint32 (slice header 8 4) > maxHelloBodyBytes then
        .error (.payloadTooLarge (uint32 (slice header 8 4)))
      else
        match readFull (uint32 (slice header 8 4)) middle with
        | none => .error .io
        | some (body, rest) => .ok (messageOf header body, rest) := by
  unfold readMessage helloReadExact helloHeaderSize
  cases readFull 12 reads with
  | none => rfl
  | some read =>
    obtain ⟨header, middle⟩ := read
    simp only [bind, Except.bind]
    by_cases hmagic : slice header 0 4 ≠ helloHeaderMagic
    · rw [if_pos hmagic, if_pos hmagic]
      rfl
    rw [if_neg hmagic, if_neg hmagic]
    by_cases hlarge : uint32 (slice header 8 4) > maxHelloBodyBytes
    · rw [if_pos hlarge, if_pos hlarge]
      rfl
    rw [if_neg hlarge, if_neg hlarge]
    by_cases hzero : uint32 (slice header 8 4) > 0
    · rw [if_pos hzero]
      cases readFull (uint32 (slice header 8 4)) middle <;> rfl
    · rw [if_neg hzero, Nat.eq_zero_of_not_pos hzero, readFull]
      rfl

/-- `readMessage` the same way. -/
theorem goReadMessage_eq (reads : List Bytes) : Server.Bootstrap.readMessage reads =
    match readFull 12 reads with
    | none => .error (if reads.flatten = [] then .eof else .unexpectedEOF)
    | some (header, middle) =>
      if slice header 0 4 ≠ Server.Bootstrap.headerMagic then .error .invalidHello
      else if uint32 (slice header 8 4) > Server.Bootstrap.maxBodySize then
        .error .payloadTooLarge
      else
        match readFull (uint32 (slice header 8 4)) middle with
        | none => .error (if middle.flatten = [] then .eof else .unexpectedEOF)
        | some (body, rest) => .ok (messageOf header body, rest) := by
  unfold Server.Bootstrap.readMessage Server.Bootstrap.ioReadFull Server.Bootstrap.headerSize
  cases readFull 12 reads with
  | none => rfl
  | some read =>
    obtain ⟨header, middle⟩ := read
    simp only [bind, Except.bind]
    by_cases hmagic : slice header 0 4 ≠ Server.Bootstrap.headerMagic
    · rw [if_pos hmagic, if_pos hmagic]
      rfl
    rw [if_neg hmagic, if_neg hmagic]
    by_cases hlarge : uint32 (slice header 8 4) > Server.Bootstrap.maxBodySize
    · rw [if_pos hlarge, if_pos hlarge]
      rfl
    rw [if_neg hlarge, if_neg hlarge]
    cases readFull (uint32 (slice header 8 4)) middle <;> rfl

/-- **What `read_message` accepts**: a stream that begins with the bytes of a message. -/
theorem readMessage_ok (h : Whole reads) (hread : readMessage reads = .ok (m, rest)) :
    Whole rest ∧ m.body.length ≤ 64 * 1024 ∧ reads.flatten = m.encode ++ rest.flatten := by
  rw [readMessage_eq] at hread
  split at hread
  · cases hread
  next header middle hheader =>
  split_ifs at hread with hmagic hlarge
  split at hread
  · cases hread
  next body rest' hbody =>
  obtain ⟨rfl, rfl⟩ := Prod.mk.inj (Except.ok.inj hread)
  obtain ⟨hlen, hmiddle, hflatten⟩ := readFull_some h hheader
  obtain ⟨hbodyLen, hrest, hflatten'⟩ := readFull_some hmiddle hbody
  refine ⟨hrest, hbodyLen ▸ not_lt.mp hlarge, ?_⟩
  rw [Message.encode, header_messageOf hlen (not_not.mp hmagic) hbodyLen, hflatten, hflatten',
    List.append_assoc]
  rfl

theorem readMessage_encode (h : Whole reads) (hbody : m.body.length ≤ 64 * 1024)
    (hflatten : reads.flatten = m.encode ++ more) :
    ∃ rest, readMessage reads = .ok (m, rest) ∧ Whole rest ∧ rest.flatten = more := by
  rw [Message.encode, List.append_assoc] at hflatten
  obtain ⟨middle, hheader, hmiddle, hrest⟩ := readFull_append h hflatten
  obtain ⟨rest, hread, hwhole, hmore⟩ := readFull_append hmiddle hrest
  rw [length_header] at hheader
  have hmagic : ¬ slice m.header 0 4 ≠ helloHeaderMagic := not_not.mpr (slice_header_magic m)
  have hsmall : ¬ m.body.length > maxHelloBodyBytes := not_lt.mpr hbody
  refine ⟨rest, ?_, hwhole, hmore⟩
  rw [readMessage_eq, hheader]
  dsimp only
  rw [if_neg hmagic, slice_header_length hbody, if_neg hsmall, hread]
  dsimp only
  rw [messageOf_header]

/-- The two sides accept the same messages. -/
theorem goReadMessage_ok_iff {x : Message × List Bytes} :
    Server.Bootstrap.readMessage reads = .ok x ↔ readMessage reads = .ok x := by
  have hmagic : Server.Bootstrap.headerMagic = helloHeaderMagic := rfl
  have hmax : Server.Bootstrap.maxBodySize = maxHelloBodyBytes := rfl
  rw [goReadMessage_eq, readMessage_eq, hmagic, hmax]
  cases readFull 12 reads with
  | none => simp
  | some read =>
    obtain ⟨header, middle⟩ := read
    dsimp only
    split_ifs
    · simp
    · simp
    · cases readFull (uint32 (slice header 8 4)) middle <;> simp
    · cases readFull (uint32 (slice header 8 4)) middle <;> simp

end Messages

/-! ## The two ends -/

section Ends

variable {reads rest : List Bytes} {more : Bytes} {room : Option Nat} {version : UInt8}

/-- The answer of the gateway to a request of a version. -/
def helloAnswer (version : UInt8) : Message where
  version := helloVersion
  messageType := messageTypeResponse
  status := if version = helloVersion then helloStatusOk else helloStatusProtocolVersion
  body := []

/-- A connection that takes `n` bytes. -/
def Takes (room : Option Nat) (n : Nat) : Prop := ∀ k ∈ room, n ≤ k

theorem writeAll_takes {data : Bytes} (h : Takes room data.length) :
    Server.Bootstrap.writeAll room data = (true, data) := by
  cases room with
  | none => rfl
  | some n =>
    have hle : data.length ≤ n := h n rfl
    rw [Server.Bootstrap.writeAll, List.take_of_length_le hle, decide_eq_true hle]

/-- What a connection takes that does not take everything. -/
theorem writeAll_fails {data : Bytes} (h : ¬ Takes room data.length) :
    ∃ n < data.length, Server.Bootstrap.writeAll room data = (false, data.take n) := by
  obtain ⟨n, hn, hlt⟩ : ∃ n ∈ room, ¬ data.length ≤ n := by
    unfold Takes at h
    push Not at h
    exact h.imp fun n hn => ⟨hn.1, not_le.mpr hn.2⟩
  obtain rfl : room = some n := hn
  exact ⟨n, not_le.mp hlt, by rw [Server.Bootstrap.writeAll, decide_eq_false hlt]⟩

/-- A message without a body, written by the client. -/
theorem writeMessage_takes {m : Message} (hbody : m.body = []) (h : Takes room 12) :
    writeMessage room m = (.ok (), m.encode) := by
  have hsmall : ¬ m.body.length > maxHelloBodyBytes := by simp [hbody]
  rw [writeMessage, if_neg hsmall, writeAll_takes h]
  dsimp only
  rw [if_pos hbody, Message.encode, hbody, List.append_nil]

theorem writeMessage_fails {m : Message} (hbody : m.body = []) (h : ¬ Takes room 12) :
    ∃ n < 12, writeMessage room m = (.error .io, m.encode.take n) := by
  have hsmall : ¬ m.body.length > maxHelloBodyBytes := by simp [hbody]
  obtain ⟨n, hn, hwrite⟩ := @writeAll_fails _ m.header h
  refine ⟨n, hn, ?_⟩
  rw [writeMessage, if_neg hsmall, hwrite, Message.encode, hbody, List.append_nil]

/-- The same for the gateway's writer. -/
theorem goWriteMessage_takes {m : Message} (hbody : m.body = []) (h : Takes room 12) :
    Server.Bootstrap.writeMessage room m = (.ok (), m.encode) := by
  have hsmall : ¬ m.body.length > Server.Bootstrap.maxBodySize := by simp [hbody]
  rw [Server.Bootstrap.writeMessage, if_neg hsmall, writeAll_takes h]
  dsimp only
  rw [if_pos (List.length_eq_zero_iff.mpr hbody), Message.encode, hbody, List.append_nil]

theorem goWriteMessage_fails {m : Message} (hbody : m.body = []) (h : ¬ Takes room 12) :
    ∃ n < 12, Server.Bootstrap.writeMessage room m = (.error .write, m.encode.take n) := by
  have hsmall : ¬ m.body.length > Server.Bootstrap.maxBodySize := by simp [hbody]
  obtain ⟨n, hn, hwrite⟩ := @writeAll_fails _ m.header h
  refine ⟨n, hn, ?_⟩
  rw [Server.Bootstrap.writeMessage, if_neg hsmall, hwrite, Message.encode, hbody, List.append_nil]

theorem length_helloRequest : (helloRequest version).encode.length = 12 := rfl

theorem length_helloAnswer : (helloAnswer version).encode.length = 12 := rfl

/-- What the gateway makes of the end of a stream that is too short for a message. -/
theorem readHelloRequest_short (h : Whole reads) (hshort : reads.flatten.length < 12) :
    ∃ e, Server.Bootstrap.readHelloRequest reads = .error e ∧
      (e = .eof ∨ e = .unexpectedEOF) := by
  have hnone : Server.Bootstrap.readMessage reads =
      .error (if reads.flatten = [] then .eof else .unexpectedEOF) := by
    rw [goReadMessage_eq, readFull_none h hshort]
  refine ⟨_, by simp only [Server.Bootstrap.readHelloRequest, hnone, bind, Except.bind]; rfl, ?_⟩
  split_ifs <;> simp

theorem readHelloRequest_encode (h : Whole reads)
    (hflatten : reads.flatten = (helloRequest version).encode ++ more) :
    ∃ rest, Server.Bootstrap.readHelloRequest reads = .ok (version, rest) ∧ Whole rest ∧
      rest.flatten = more := by
  obtain ⟨rest, hread, hwhole, hmore⟩ := readMessage_encode h (by simp [helloRequest]) hflatten
  refine ⟨rest, ?_, hwhole, hmore⟩
  simp only [Server.Bootstrap.readHelloRequest, goReadMessage_ok_iff.mpr hread, bind, Except.bind]
  rfl

/-- The gateway reads requests only. -/
theorem readHelloRequest_ok (h : Whole reads)
    (hread : Server.Bootstrap.readHelloRequest reads = .ok (version, rest)) :
    Whole rest ∧ reads.flatten = (helloRequest version).encode ++ rest.flatten := by
  unfold Server.Bootstrap.readHelloRequest at hread
  cases hm : Server.Bootstrap.readMessage reads with
  | error e => rw [hm] at hread; cases hread
  | ok read =>
    obtain ⟨m, rest'⟩ := read
    obtain ⟨hwhole, -, hflatten⟩ := readMessage_ok h (goReadMessage_ok_iff.mp hm)
    simp only [hm, bind, Except.bind] at hread
    split_ifs at hread with hother
    obtain ⟨rfl, rfl⟩ := Prod.mk.inj (Except.ok.inj hread)
    obtain ⟨htype, hstatus, hbody⟩ := not_or.mp hother |>.imp not_not.mp not_or.mp
    have hm' : m = helloRequest m.version := by
      obtain ⟨v, ty, st, body⟩ := m
      obtain rfl : ty = messageTypeRequest := htype
      obtain rfl : st = 0 := not_not.mp hstatus
      obtain rfl : body = [] := List.length_eq_zero_iff.mp (not_not.mp hbody)
      rfl
    exact ⟨hwhole, hflatten.trans (by rw [← hm'])⟩

/-- The gateway's answer to a request. -/
theorem acceptClient_request
    (hread : Server.Bootstrap.readHelloRequest reads = .ok (version, rest)) :
    acceptClient room reads =
      match Server.Bootstrap.writeMessage room (helloAnswer version) with
      | (.error e, sent) => (.error e, sent)
      | (.ok (), sent) =>
        (if version = helloVersion then .ok rest else .error .protocolVersion, sent) := by
  rw [acceptClient, hread]
  dsimp only
  by_cases hversion : version = helloVersion
  · have hversion' : ¬ version ≠ Server.Bootstrap.helloVersion := not_not.mpr hversion
    rw [if_neg hversion', if_pos hversion, helloAnswer, if_pos hversion]
    rfl
  · have hversion' : version ≠ Server.Bootstrap.helloVersion := hversion
    rw [if_pos hversion', if_neg hversion, helloAnswer, if_neg hversion]
    rfl

theorem acceptClient_takes (hread : Server.Bootstrap.readHelloRequest reads = .ok (version, rest))
    (h : Takes room 12) :
    acceptClient room reads =
      (if version = helloVersion then .ok rest else .error .protocolVersion,
        (helloAnswer version).encode) := by
  rw [acceptClient_request hread, goWriteMessage_takes rfl h]

theorem acceptClient_fails (hread : Server.Bootstrap.readHelloRequest reads = .ok (version, rest))
    (h : ¬ Takes room 12) :
    ∃ n < 12, acceptClient room reads = (.error .write, (helloAnswer version).encode.take n) := by
  obtain ⟨n, hn, hwrite⟩ := goWriteMessage_fails (m := helloAnswer version) rfl h
  exact ⟨n, hn, by rw [acceptClient_request hread, hwrite]⟩

/-- Whatever a client makes of the answer to a request. -/
theorem readHelloResponse_answer (h : Whole reads)
    (hflatten : reads.flatten = (helloAnswer version).encode ++ more) :
    ∃ rest, Whole rest ∧ rest.flatten = more ∧ readHelloResponse reads =
      if version = helloVersion then .ok (⟨[]⟩, rest)
      else .error (.unsupportedVersion helloVersion) := by
  obtain ⟨rest, hread, hwhole, hmore⟩ := readMessage_encode h (by simp [helloAnswer]) hflatten
  refine ⟨rest, hwhole, hmore, ?_⟩
  simp only [readHelloResponse, hread, bind, Except.bind]
  by_cases hversion : version = helloVersion
  · rw [if_pos hversion, helloAnswer, if_pos hversion]
    rfl
  · rw [if_neg hversion, helloAnswer, if_neg hversion]
    rfl

theorem readHelloResponse_short (h : Whole reads) (hshort : reads.flatten.length < 12) :
    readHelloResponse reads = .error .io := by
  have hnone : readMessage reads = .error .io := by
    rw [readMessage_eq, readFull_none h hshort]
  simp only [readHelloResponse, hnone, bind, Except.bind]

end Ends

/-! ## The exchange -/

/-- Both ends of a connection, with the pieces of what each has sent that have arrived; a connection
may take no more bytes at any point. -/
structure HelloExchange where
  clientRoom : Option Nat
  serverRoom : Option Nat
  /-- What has arrived at the gateway, in the pieces in which it has come. -/
  toServer : List Bytes
  /-- What has arrived at the client. -/
  toClient : List Bytes
  /-- What the client sends after its hello. -/
  clientFrames : Bytes
  /-- What the gateway sends after its hello. -/
  serverFrames : Bytes

namespace HelloExchange

variable (x : HelloExchange)

/-- How the client's end comes out, and the bytes that it sends. -/
def client : Except HelloError (HelloResponse × List Bytes) × Bytes :=
  performClientHello x.clientRoom x.toClient

/-- How the gateway's end comes out. -/
def server : Except Server.Bootstrap.HelloError (List Bytes) × Bytes :=
  acceptClient x.serverRoom x.toServer

/-- What arrives is a first part of what has been sent; only an end that is through with its hello
goes on. -/
structure Sound : Prop where
  toServer : Whole x.toServer
  toClient : Whole x.toClient
  fromClient : x.toServer.flatten <+: x.client.2 ++ x.clientFrames
  fromServer : x.toClient.flatten <+: x.server.2 ++ x.serverFrames
  clientGoesOn : x.clientFrames ≠ [] → ∃ ok, x.client.1 = .ok ok
  serverGoesOn : x.serverFrames ≠ [] → ∃ ok, x.server.1 = .ok ok

variable {x}

theorem client_takes (h : Takes x.clientRoom 12) :
    x.client = (readHelloResponse x.toClient, (helloRequest helloVersion).encode) := by
  rw [client, performClientHello, writeMessage_takes rfl h]

theorem client_fails (h : ¬ Takes x.clientRoom 12) :
    ∃ n < 12, x.client = (.error .io, (helloRequest helloVersion).encode.take n) := by
  obtain ⟨n, hn, hwrite⟩ := writeMessage_fails (m := helloRequest helloVersion) rfl h
  exact ⟨n, hn, by rw [client, performClientHello, hwrite]⟩

theorem server_short (h : Whole x.toServer) (hshort : x.toServer.flatten.length < 12) :
    ∃ e, x.server = (.error e, []) ∧ (e = .eof ∨ e = .unexpectedEOF) := by
  obtain ⟨e, hread, he⟩ := readHelloRequest_short h hshort
  exact ⟨e, by rw [server, acceptClient, hread], he⟩

/-- A stream that has at least the `n` bytes that come first. -/
theorem split_of_isPrefix {stream first after : Bytes} (h : stream <+: first ++ after)
    (hlen : first.length ≤ stream.length) :
    ∃ more, stream = first ++ more ∧ more <+: after := by
  obtain ⟨more, rfl⟩ := List.prefix_of_prefix_length_le (List.prefix_append first after) h hlen
  exact ⟨more, rfl, (List.prefix_append_right_inj first).mp h⟩

/-- Where the client's connection fails in the request, less than a request arrives. -/
theorem Sound.takes (h : x.Sound) (hlen : 12 ≤ x.toServer.flatten.length) :
    Takes x.clientRoom 12 := by
  by_contra hfails
  obtain ⟨n, hn, hclient⟩ := client_fails hfails
  have hframes : x.clientFrames = [] := by
    by_contra hne
    obtain ⟨ok, hok⟩ := h.clientGoesOn hne
    rw [hclient] at hok
    cases hok
  have hle := h.fromClient.length_le
  rw [hclient, hframes, List.append_nil] at hle
  have := List.length_take_le n (helloRequest helloVersion).encode
  dsimp only at hle
  omega

/-- How the gateway's end may come out. -/
theorem Sound.server_cases (h : x.Sound) :
    (∃ e, x.server = (.error e, []) ∧ (e = .eof ∨ e = .unexpectedEOF)) ∨
    (∃ n < 12, x.server = (.error .write, (helloAnswer helloVersion).encode.take n)) ∨
    ∃ rest, x.server = (.ok rest, (helloAnswer helloVersion).encode) ∧ Whole rest ∧
      x.toServer.flatten = (helloRequest helloVersion).encode ++ rest.flatten ∧
      rest.flatten <+: x.clientFrames := by
  by_cases hlen : 12 ≤ x.toServer.flatten.length
  · have hfrom := h.fromClient
    rw [client_takes (h.takes hlen)] at hfrom
    obtain ⟨more, hflatten, hmore⟩ := split_of_isPrefix hfrom hlen
    obtain ⟨rest, hread, hwhole, rfl⟩ := readHelloRequest_encode h.toServer hflatten
    by_cases htakes : Takes x.serverRoom 12
    · exact .inr (.inr ⟨rest, (acceptClient_takes hread htakes).trans (by rw [if_pos rfl]),
        hwhole, hflatten, hmore⟩)
    · exact .inr (.inl (acceptClient_fails hread htakes))
  · exact .inl (server_short h.toServer (not_le.mp hlen))

/-- Where the gateway's end fails, less than an answer arrives. -/
theorem Sound.toClient_short (h : x.Sound) {e : Server.Bootstrap.HelloError}
    (hserver : x.server.1 = .error e) (hsent : x.server.2.length < 12) :
    x.toClient.flatten.length < 12 := by
  have hframes : x.serverFrames = [] := by
    by_contra hne
    obtain ⟨ok, hok⟩ := h.serverGoesOn hne
    rw [hserver] at hok
    cases hok
  have hle := h.fromServer.length_le
  rw [hframes, List.append_nil] at hle
  exact lt_of_le_of_lt hle hsent

/-- An answer arrives of a gateway that has accepted only. -/
theorem Sound.accepted (h : x.Sound) (hlen : 12 ≤ x.toClient.flatten.length) :
    ∃ rest, x.server = (.ok rest, (helloAnswer helloVersion).encode) := by
  rcases h.server_cases with ⟨e, hserver, -⟩ | ⟨n, hn, hserver⟩ | ⟨rest, hserver, -⟩
  · exact absurd (h.toClient_short (congrArg Prod.fst hserver) (by rw [hserver]; simp))
      (not_lt.mpr hlen)
  · refine absurd (h.toClient_short (congrArg Prod.fst hserver) ?_) (not_lt.mpr hlen)
    rw [hserver]
    exact lt_of_le_of_lt (List.length_take_le _ _) hn
  · exact ⟨rest, hserver⟩

/-- How the client's end may come out. -/
theorem Sound.client_cases (h : x.Sound) :
    (x.client.1 = .error .io ∧
      (Takes x.clientRoom 12 → x.toClient.flatten.length < 12)) ∨
    ∃ rest, x.client.1 = .ok (⟨[]⟩, rest) ∧ Whole rest ∧
      x.toClient.flatten = (helloAnswer helloVersion).encode ++ rest.flatten ∧
      rest.flatten <+: x.serverFrames := by
  by_cases htakes : Takes x.clientRoom 12
  · rw [client_takes htakes]
    by_cases hlen : 12 ≤ x.toClient.flatten.length
    · obtain ⟨rest, hserver⟩ := h.accepted hlen
      have hfrom := h.fromServer
      rw [hserver] at hfrom
      obtain ⟨more, hflatten, hmore⟩ := split_of_isPrefix hfrom hlen
      obtain ⟨rest', hwhole, rfl, hread⟩ := readHelloResponse_answer h.toClient hflatten
      exact .inr ⟨rest', hread.trans (if_pos rfl), hwhole, hflatten, hmore⟩
    · exact .inl ⟨readHelloResponse_short h.toClient (not_le.mp hlen), fun _ => not_le.mp hlen⟩
  · obtain ⟨n, -, hclient⟩ := client_fails htakes
    exact .inl ⟨congrArg Prod.fst hclient, fun h => absurd h htakes⟩

end HelloExchange

/-! ## Results -/

section Results

variable {reads : List Bytes} {room : Option Nat}

theorem readHelloRequest_ne_protocolVersion :
    Server.Bootstrap.readHelloRequest reads ≠ .error .protocolVersion := by
  have hmessage : Server.Bootstrap.readMessage reads ≠ .error .protocolVersion := by
    rw [goReadMessage_eq]
    repeat' split
    all_goals simp
  unfold Server.Bootstrap.readHelloRequest
  cases hm : Server.Bootstrap.readMessage reads with
  | error e =>
    intro he
    exact hmessage (hm.trans (congrArg Except.error (Except.error.inj he)))
  | ok read =>
    simp only [bind, Except.bind]
    split_ifs
    · nofun
    · nofun

/-- A stream begins with a request, or the gateway answers nothing. -/
theorem acceptClient_cases (h : Whole reads) :
    (∃ version rest, Server.Bootstrap.readHelloRequest reads = .ok (version, rest) ∧
      ∀ version', (helloRequest version').encode <+: reads.flatten ↔ version' = version) ∨
    (∃ e ≠ .protocolVersion, acceptClient room reads = (.error e, [])) ∧
      ∀ version, ¬ (helloRequest version).encode <+: reads.flatten := by
  have hread : ∀ version, (helloRequest version).encode <+: reads.flatten →
      ∃ rest, Server.Bootstrap.readHelloRequest reads = .ok (version, rest) := by
    rintro version ⟨more, hmore⟩
    obtain ⟨rest, hread, -⟩ := readHelloRequest_encode h hmore.symm
    exact ⟨rest, hread⟩
  cases hrequest : Server.Bootstrap.readHelloRequest reads with
  | error e =>
    refine .inr ⟨⟨e, fun he => readHelloRequest_ne_protocolVersion (he ▸ hrequest), ?_⟩, ?_⟩
    · rw [acceptClient, hrequest]
    · intro version hprefix
      obtain ⟨rest, hok⟩ := hread version hprefix
      rw [hrequest] at hok
      cases hok
  | ok request =>
    obtain ⟨version, rest⟩ := request
    refine .inl ⟨version, rest, rfl, fun version' => ⟨fun hprefix => ?_, ?_⟩⟩
    · obtain ⟨rest', hok⟩ := hread version' hprefix
      rw [hrequest] at hok
      exact (Prod.mk.inj (Except.ok.inj hok)).1.symm
    · rintro rfl
      exact ⟨rest.flatten, (readHelloRequest_ok h hrequest).2.symm⟩

/-- **Which clients the gateway accepts**, whatever bytes come: those whose bytes begin with a
request of its version.  It answers requests only, and a client that gets the answer to a request of
another version reports the version. -/
theorem accepts_exactly (room : Option Nat) {reads : List Bytes} (h : Whole reads) :
    ((∃ rest, (acceptClient room reads).1 = .ok rest) ↔
      Takes room 12 ∧ (helloRequest helloVersion).encode <+: reads.flatten) ∧
    ((acceptClient room reads).1 = .error .protocolVersion ↔
      Takes room 12 ∧ ∃ version ≠ helloVersion,
        (helloRequest version).encode <+: reads.flatten) ∧
    ((acceptClient room reads).2 ≠ [] →
      ∃ version, (helloRequest version).encode <+: reads.flatten) ∧
    ∀ answer, Whole answer → answer.flatten = (acceptClient room reads).2 →
      ((acceptClient room reads).1 = .error .protocolVersion →
        readHelloResponse answer = .error (.unsupportedVersion helloVersion)) ∧
      ((∃ rest, (acceptClient room reads).1 = .ok rest) →
        readHelloResponse answer = .ok (⟨[]⟩, [])) := by
  rcases @acceptClient_cases _ room h with
    ⟨version, rest, hrequest, hbegins⟩ | ⟨⟨e, he, haccept⟩, hnone⟩
  · simp only [hbegins, exists_eq, implies_true, true_and]
    have hversions : (∃ version' ≠ helloVersion, version' = version) ↔ version ≠ helloVersion :=
      ⟨fun ⟨_, hne, heq⟩ => heq ▸ hne, fun hne => ⟨version, hne, rfl⟩⟩
    rw [hversions]
    by_cases htakes : Takes room 12
    · rw [acceptClient_takes hrequest htakes]
      have hanswer : ∀ answer, Whole answer → answer.flatten = (helloAnswer version).encode →
          readHelloResponse answer = if version = helloVersion then .ok (⟨[]⟩, [])
            else .error (.unsupportedVersion helloVersion) := by
        intro answer hwhole hflatten
        obtain ⟨rest', hwhole', hnil, hread⟩ := readHelloResponse_answer hwhole
          (hflatten.trans (List.append_nil _).symm)
        rwa [Lib.eq_nil_of_flatten_nil hwhole' hnil] at hread
      by_cases hversion : version = helloVersion
      · simp only [if_pos hversion] at hanswer ⊢
        simpa [htakes, hversion] using hanswer
      · simp only [if_neg hversion] at hanswer ⊢
        simpa [htakes, hversion, eq_comm] using hanswer
    · obtain ⟨n, -, haccept⟩ := acceptClient_fails hrequest htakes
      rw [haccept]
      simp [htakes]
  · rw [haccept]
    simp [hnone, he]

/-- A request of version 2. -/
theorem accepts_exactly_two :
    readHelloResponse [[89, 68, 72, 76, 1, 2, 0, 1, 0, 0, 0, 0]] =
      .error (.unsupportedVersion helloVersion) := by
  have hwhole : Whole [[89, 68, 72, 76, 2, 1, 0, 0, 0, 0, 0, 0]] := by unfold Whole; decide
  have hanswer : Whole [[89, 68, 72, 76, 1, 2, 0, 1, 0, 0, 0, 0]] := by unfold Whole; decide
  exact ((accepts_exactly none hwhole).2.2.2 _ hanswer rfl).1 rfl

/-- **The two ends agree**, however their bytes are cut and wherever a connection fails: they fail
for their connection only; the client is through only if the gateway has accepted it, and what
follows the hello is left in the stream, so that the frames of each side read back on the other. -/
theorem hello_agrees {x : HelloExchange} (h : x.Sound) :
    (∀ e, x.client.1 = .error e → e = .io) ∧
    (∀ e, x.server.1 = .error e → e = .eof ∨ e = .unexpectedEOF ∨ e = .write) ∧
    (∀ response rest, x.client.1 = .ok (response, rest) →
      response.serverCapabilities = [] ∧ (∃ rest', x.server.1 = .ok rest') ∧
      ∀ payloads : List Bytes, (∀ p ∈ payloads, PayloadInRange p) →
        x.serverFrames = payloads.flatMap frame →
        x.toClient.flatten = x.server.2 ++ x.serverFrames →
        readTimes (readFrameInto maxFramePayloadBytes) payloads.length rest = .ok (payloads, [])) ∧
    (∀ rest, x.server.1 = .ok rest →
      (12 ≤ x.toClient.flatten.length → ∃ ok, x.client.1 = .ok ok) ∧
      ∀ payloads : List Bytes, (∀ p ∈ payloads, PayloadInRange p) →
        x.clientFrames = payloads.flatMap frame →
        x.toServer.flatten = x.client.2 ++ x.clientFrames →
        readTimes (Server.readFrame Server.maxPayloadSize) payloads.length rest =
          .ok (payloads, [])) := by
  refine ⟨fun e he => ?_, fun e he => ?_, fun response rest hok => ?_, fun rest hok => ?_⟩
  · rcases h.client_cases with ⟨hclient, -⟩ | ⟨rest, hclient, -⟩
    · exact Except.error.inj (he.symm.trans hclient)
    · rw [hclient] at he
      cases he
  · rcases h.server_cases with ⟨e', hserver, he'⟩ | ⟨n, -, hserver⟩ | ⟨rest, hserver, -⟩
    · rw [hserver] at he
      exact (Except.error.inj he) ▸ he'.imp_right .inl
    · rw [hserver] at he
      exact .inr (.inr (Except.error.inj he).symm)
    · rw [hserver] at he
      cases he
  · rcases h.client_cases with ⟨hclient, -⟩ | ⟨rest', hclient, hwhole, hflatten, -⟩
    · rw [hclient] at hok
      cases hok
    obtain ⟨rfl, rfl⟩ := Prod.mk.inj (Except.ok.inj (hok.symm.trans hclient))
    obtain ⟨restS, hserver⟩ := h.accepted (by rw [hflatten]; simp [length_helloAnswer])
    refine ⟨rfl, ⟨restS, congrArg Prod.fst hserver⟩, fun payloads hrange hframes hall => ?_⟩
    rw [hserver, hflatten, hframes] at hall
    obtain ⟨last, hread, hlast, hnil⟩ := readTimes_encoded
      (fun _ _ _ hp hreads hflat => readFrameInto_frame hp hreads hflat) payloads hrange hwhole
      ((List.append_cancel_left hall).trans (List.append_nil _).symm)
    rw [hread, Lib.eq_nil_of_flatten_nil hlast hnil]
  · rcases h.server_cases with ⟨e', hserver, he'⟩ | ⟨n, -, hserver⟩ |
      ⟨rest', hserver, hwhole, hflatten, -⟩
    · rw [hserver] at hok
      cases hok
    · rw [hserver] at hok
      cases hok
    rw [hserver] at hok
    obtain rfl := Except.ok.inj hok
    have htakes := h.takes (by rw [hflatten]; simp [length_helloRequest])
    refine ⟨fun hlen => ?_, fun payloads hrange hframes hall => ?_⟩
    · rcases h.client_cases with ⟨-, hshort⟩ | ⟨rest, hclient, -⟩
      · exact absurd (hshort htakes) (not_lt.mpr hlen)
      · exact ⟨_, hclient⟩
    · rw [HelloExchange.client_takes htakes, hflatten, hframes] at hall
      obtain ⟨last, hread, hlast, hnil⟩ := readTimes_encoded
        (fun _ _ _ hp hreads hflat => Server.readFrame_frame hp hreads hflat) payloads hrange hwhole
        ((List.append_cancel_left hall).trans (List.append_nil _).symm)
      rw [hread, Lib.eq_nil_of_flatten_nil hlast hnil]

/-- Hellos and a frame each way, the client's cut in the middle of the magic and of the frame. -/
def cutExchange : HelloExchange where
  clientRoom := none
  serverRoom := some 15
  toServer := [[89, 68], [72, 76, 1, 1, 0, 0, 0, 0, 0, 0, 0], [0], [5]]
  toClient := [[89, 68, 72, 76, 1, 2, 0, 0, 0, 0, 0, 0, 0, 0, 6]]
  clientFrames := frame [5]
  serverFrames := frame [6]

theorem cutExchange_sound : cutExchange.Sound where
  toServer := by unfold Whole; decide
  toClient := by unfold Whole; decide
  fromClient := by decide
  fromServer := by decide
  clientGoesOn := fun _ => ⟨_, rfl⟩
  serverGoesOn := fun _ => ⟨_, rfl⟩

theorem hello_agrees_cut :
    readTimes (readFrameInto maxFramePayloadBytes) 1 [[0, 0, 6]] = .ok ([[6]], []) ∧
    readTimes (Server.readFrame Server.maxPayloadSize) 1 [[0], [0], [5]] = .ok ([[5]], []) := by
  obtain ⟨-, -, hclient, hserver⟩ := hello_agrees cutExchange_sound
  exact ⟨(hclient ⟨[]⟩ [[0, 0, 6]] rfl).2.2 [[6]] (by decide) rfl (by decide),
    (hserver [[0], [0], [5]] rfl).2 [[5]] (by decide) rfl (by decide)⟩

end Results

end YumeDisk.Client
