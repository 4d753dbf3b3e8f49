import Mathlib.Algebra.Group.Nat.Defs
import Mathlib.Algebra.Ring.Int.Defs
import Mathlib.Data.List.Nodup
import SmsPlatform.Lib.Runs

/-!
# SMPP sessions

The connector keeps one session for each slot of a provider's account and hashes a destination to its slot.
`ensureSession` looks the slot up, opens a session if there is no healthy one, waits for the bind response and only then
attaches the handlers of close and error and stores the session.  The state is that of one process: every session it has
opened, and the map of the stored ones.  The actions are the stretches of code between two awaits.
-/

namespace SmsPlatform

namespace Smpp

structure SmppDispatchRequest where
  providerId : Nat
  host : String
  port : Int
  systemId : String
  maxSessions : Int
  destinationAddr : String

/-- The account at the carrier, which limits the number of its sessions. -/
structure Account where
  providerId : Nat
  host : String
  port : Int
  systemId : String
  deriving DecidableEq

def SmppDispatchRequest.account (request : SmppDispatchRequest) : Account :=
  ⟨request.providerId, request.host, request.port, request.systemId⟩

/-! ### Slots -/

/-- The signed 32-bit integer that a bitwise operator makes of a number. -/
def toInt32 (n : Int) : Int := n.bmod (2 ^ 32)

def computeSessionSlot (destinationAddr : String) (maxSessions : Int) : Int :=
  let normalized := destinationAddr.toList.filter Char.isDigit
  let safeSessions := max maxSessions 1
  let hash := normalized.foldl (fun hash digit => toInt32 (toInt32 (hash * 2 ^ 5) - hash + digit.toNat)) 0
  hash.natAbs % safeSessions

def Account.sessionKey (account : Account) (slot : Int) : String :=
  toString account.providerId ++ ":" ++ account.host ++ ":" ++ toString account.port ++ ":" ++ account.systemId ++
    ":" ++ toString slot

def SmppDispatchRequest.slot (request : SmppDispatchRequest) : Int :=
  computeSessionSlot request.destinationAddr request.maxSessions

def getSessionKey (request : SmppDispatchRequest) : String := request.account.sessionKey request.slot

theorem computeSessionSlot_nonneg (destinationAddr : String) (maxSessions : Int) :
    0 ≤ computeSessionSlot destinationAddr maxSessions := by
  have hpos : (0 : Int) < max maxSessions 1 := by omega
  exact Int.emod_nonneg _ (Int.ne_of_gt hpos)

theorem computeSessionSlot_lt (destinationAddr : String) (maxSessions : Int) :
    computeSessionSlot destinationAddr maxSessions < max maxSessions 1 := by
  have hpos : (0 : Int) < max maxSessions 1 := by omega
  exact Int.emod_lt_of_pos _ hpos

/-! ### Sessions -/

/-- How far `ensureSession` has come: it awaits the bind response, has got it and has yet to go on, has stored the
session, or has thrown. -/
inductive BindPhase
  | binding
  | bound
  | stored
  | failed
  deriving DecidableEq

structure SmppSessionState where
  id : Nat
  request : SmppDispatchRequest
  phase : BindPhase
  healthy : Bool
  closed : Bool

namespace SmppSessionState

def sessionKey (session : SmppSessionState) : String := getSessionKey session.request

/-- The carrier has accepted the bind, and the session is not closed. -/
def isBound (session : SmppSessionState) : Bool :=
  (session.phase == .bound || session.phase == .stored) && !session.closed

/-- Neither bound nor on the way to it, and not to be stored. -/
def settled (session : SmppSessionState) : Bool :=
  match session.phase with
  | .binding => session.closed
  | .bound => false
  | .stored => session.closed
  | .failed => true

end SmppSessionState

/-- `opened` is every session the process has opened, and `sessions` the map from a key to the session stored under
it. -/
structure SmppConnector where
  opened : List SmppSessionState
  sessions : String → Option Nat

/-- What can happen next.  A secret that cannot be resolved makes the call fail like a refused bind. -/
inductive SmppAction
  | submitSm (request : SmppDispatchRequest)
  | bindResponse (id commandStatus : Nat)
  | afterBind (id : Nat)
  | close (id : Nat)
  | error (id : Nat)

namespace SmppConnector

def start : SmppConnector := ⟨[], fun _ => none⟩

variable (connector : SmppConnector)

def find (id : Nat) : Option SmppSessionState := connector.opened.find? fun session => session.id == id

def put (session : SmppSessionState) : SmppConnector :=
  { connector with opened := connector.opened.map fun other => if other.id = session.id then session else other }

def set (sessionKey : String) (id : Nat) : SmppConnector :=
  { connector with sessions := fun key => if key = sessionKey then some id else connector.sessions key }

def delete (sessionKey : String) : SmppConnector :=
  { connector with sessions := fun key => if key = sessionKey then none else connector.sessions key }

def existing (sessionKey : String) : Option SmppSessionState := (connector.sessions sessionKey).bind connector.find

/-- `ensureSession` as far as its await. -/
def ensureSession (request : SmppDispatchRequest) : SmppConnector :=
  if (connector.existing (getSessionKey request)).any SmppSessionState.healthy then connector
  else { connector with opened := connector.opened ++ [⟨connector.opened.length, request, .binding, false, false⟩] }

/-- The handler of both events, which is attached when the session is stored. -/
def handleEvent (session : SmppSessionState) : SmppConnector :=
  if session.phase = .stored then (connector.put { session with healthy := false }).delete session.sessionKey
  else connector.put session

def step : SmppAction → Option SmppConnector
  | .submitSm request => some (connector.ensureSession request)
  | .bindResponse id commandStatus =>
    (connector.find id).bind fun session =>
      if session.phase = .binding ∧ session.closed = false then
        if commandStatus = 0 then some (connector.put { session with healthy := true, phase := .bound })
        else some (connector.put { session with phase := .failed })
      else none
  | .afterBind id =>
    (connector.find id).bind fun session =>
      if session.phase = .bound then
        some ((connector.put { session with phase := .stored }).set session.sessionKey session.id)
      else none
  | .close id =>
    (connector.find id).bind fun session =>
      if session.closed = false then some (connector.handleEvent { session with closed := true })
      else none
  | .error id => (connector.find id).map connector.handleEvent

end SmppConnector

end Smpp

end SmsPlatform
