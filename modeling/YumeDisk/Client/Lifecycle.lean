import Mathlib.Data.Finset.Basic
import YumeDisk.Client.Messages

/-!
# The lifecycle of a connection (`gateway_connection.rs`, `connection_authenticator.rs`)

What a `GatewayConnection` keeps under its `lifecycle` mutex: which exchange is under way, the
sessions that are open and the grants that are still to be used.  Each operation is one section
under the mutex.
-/

namespace YumeDisk.Client

open Lib (Bytes)

inductive NetworkClientError
  | invalidArgument (name : String)
  | invalidState (name : String)
  | unauthorizedDisk (diskId : Bytes)
  | openRejected
  | invalidIo (reason : String)
  | ioFailed
  | sessionUnavailable
  | pendingRequestConflict (requestId : UInt64)
  | unknownPendingRequest (requestId : UInt64)
  | protocol (error : ProtocolClientError)
  | transport (message : String)
  | crypto (message : String)
deriving DecidableEq, Repr

/-! ## Grants -/

structure AuthGrant where
  diskId : Bytes
  authId : UInt64
  diskId_ne : diskId ≠ []
  authId_ne : authId ≠ 0

def AuthGrant.new (diskId : Bytes) (authId : UInt64) : Except NetworkClientError AuthGrant :=
  if hdisk : diskId = [] then
    .error (.invalidArgument "disk_id")
  else if hauth : authId = 0 then
    .error (.invalidArgument "auth_id")
  else
    .ok ⟨diskId, authId, hdisk, hauth⟩

def minClaimSecretBytes : Nat := 64

def minClaimCodeBytes : Nat := diskIdBytes + minClaimSecretBytes

structure ClaimCodeMaterial where
  diskId : Bytes
  authVerifier : Vector UInt8 64
  length_diskId : diskId.length = diskIdBytes
  all_diskId : diskId.all isAsciiAlphanumeric = true

/-- `sha512` is what `crypto_win32::sha512` returns. -/
def parseClaimCode (claimCode : Bytes) (sha512 : Except NetworkClientError (Vector UInt8 64)) :
    Except NetworkClientError ClaimCodeMaterial :=
  if hlength : claimCode.length < minClaimCodeBytes then
    .error (.invalidArgument "claim_code")
  else if hall : claimCode.all isAsciiAlphanumeric = true then
    match sha512 with
    | .error e => .error e
    | .ok authVerifier =>
      .ok {
        diskId := claimCode.take diskIdBytes
        authVerifier
        length_diskId := by
          rw [List.length_take, Nat.min_eq_left]
          exact le_trans (Nat.le_add_right _ _) (not_lt.mp hlength)
        all_diskId := by
          rw [List.all_eq_true] at hall ⊢
          exact fun b hb => hall b (List.mem_of_mem_take hb) }
  else
    .error (.invalidArgument "claim_code")

/-- The disk of a claim code can be asked for. -/
theorem ClaimCodeMaterial.encodeDiskId (m : ClaimCodeMaterial) :
    encodeDiskId m.diskId = .ok m.diskId := by
  unfold Client.encodeDiskId
  rw [if_neg (not_not.mpr m.length_diskId), if_neg (by simp [m.all_diskId])]

/-! ## The sections under the mutex -/

structure ConnectionLifecycle where
  authInFlight : Bool := false
  openInFlight : Bool := false
  activeSessions : Finset UInt64 := ∅
  /-- The auth ids and their disks. -/
  authGrants : List (UInt64 × Bytes) := []

namespace ConnectionLifecycle

variable (l : ConnectionLifecycle)

def beginAuth : Except NetworkClientError ConnectionLifecycle :=
  if l.authInFlight || l.openInFlight then
    .error (.invalidState "auth_start")
  else
    .ok { l with authInFlight := true }

def failAuth : ConnectionLifecycle := { l with authInFlight := false }

def finishAuth : Except NetworkClientError ConnectionLifecycle :=
  if !l.authInFlight || l.openInFlight then
    .error (.invalidState "auth_finish")
  else
    .ok { l with authInFlight := false }

def beginSessionOpen : Except NetworkClientError ConnectionLifecycle :=
  if l.authInFlight || l.openInFlight then
    .error (.invalidState "session_open")
  else
    .ok { l with openInFlight := true }

def failSessionOpen : ConnectionLifecycle := { l with openInFlight := false }

def finishSessionOpen (sessionId : UInt64) : Except NetworkClientError ConnectionLifecycle :=
  if sessionId = 0 then
    .error (.invalidArgument "session_id")
  else if !l.openInFlight || l.authInFlight then
    .error (.invalidState "session_open")
  else
    .ok { l with openInFlight := false, activeSessions := insert sessionId l.activeSessions }

def consumeAuthGrant (authId : UInt64) : ConnectionLifecycle :=
  { l with authGrants := l.authGrants.filter fun g => g.1 ≠ authId }

/-- `HashMap::insert`; the checks of `register_auth_grant` are those of `AuthGrant`. -/
def registerAuthGrant (grant : AuthGrant) : ConnectionLifecycle :=
  { l with authGrants := (grant.authId, grant.diskId) ::
      l.authGrants.filter fun g => g.1 ≠ grant.authId }

def shouldCloseAfterSessionClose : Bool :=
  !l.authInFlight && !l.openInFlight && l.activeSessions = ∅ && l.authGrants.isEmpty

def isSessionActive (sessionId : UInt64) : Bool := sessionId ∈ l.activeSessions

def clearSession (sessionId : UInt64) : ConnectionLifecycle :=
  { l with activeSessions := l.activeSessions.erase sessionId }

/-- `reset_lifecycle`. -/
def reset : ConnectionLifecycle := {}

/-! ### What a section that succeeds has found -/

variable {l l' : ConnectionLifecycle}

theorem beginAuth_ok (h : l.beginAuth = .ok l') :
    l.authInFlight = false ∧ l.openInFlight = false ∧ l' = { l with authInFlight := true } := by
  unfold beginAuth at h
  split_ifs at h with hflags
  rw [Bool.or_eq_true, not_or, Bool.not_eq_true, Bool.not_eq_true] at hflags
  exact ⟨hflags.1, hflags.2, (Except.ok.inj h).symm⟩

theorem finishAuth_ok (h : l.finishAuth = .ok l') :
    l.authInFlight = true ∧ l.openInFlight = false ∧ l' = { l with authInFlight := false } := by
  unfold finishAuth at h
  split_ifs at h with hflags
  rw [Bool.or_eq_true, not_or, Bool.not_eq_true, Bool.not_eq_true, Bool.not_eq_false'] at hflags
  exact ⟨hflags.1, hflags.2, (Except.ok.inj h).symm⟩

theorem beginSessionOpen_ok (h : l.beginSessionOpen = .ok l') :
    l.authInFlight = false ∧ l.openInFlight = false ∧ l' = { l with openInFlight := true } := by
  unfold beginSessionOpen at h
  split_ifs at h with hflags
  rw [Bool.or_eq_true, not_or, Bool.not_eq_true, Bool.not_eq_true] at hflags
  exact ⟨hflags.1, hflags.2, (Except.ok.inj h).symm⟩

theorem finishSessionOpen_ok {sessionId : UInt64} (h : l.finishSessionOpen sessionId = .ok l') :
    sessionId ≠ 0 ∧ l.openInFlight = true ∧ l.authInFlight = false ∧
      l' = { l with
        openInFlight := false, activeSessions := insert sessionId l.activeSessions } := by
  unfold finishSessionOpen at h
  split_ifs at h with hzero hflags
  rw [Bool.or_eq_true, not_or, Bool.not_eq_true, Bool.not_eq_true, Bool.not_eq_false'] at hflags
  exact ⟨hzero, hflags.1, hflags.2, (Except.ok.inj h).symm⟩

end ConnectionLifecycle

end YumeDisk.Client
