import EybondLocal.CallbackLedger.Model
import EybondLocal.CallbackMatching
import EybondLocal.SessionRegistry.Handle

/-!
The callback identity transaction (`connection/callback_identity.py`): make one collector
dial in, read its PN on the socket it opened and hand that socket over. A step is what runs
between two awaits; how an await ends, what the listener shows at that moment and whether a
deadline has passed are the environment's, and so are the calls other owners make meanwhile.
-/
namespace CallbackIdentity
open StripText PythonObject CollectorIdentity OrderedDict SessionRegistry CallbackMatching
open CallbackLedger (Ledger)

inductive IdentityResult where
  | ok
  | timeout
  | sessionSilent
  | wireProbeFailed
  | mismatch
  | ambiguous
  | triggerInterference
  | triggerNotSent
  | conflict
  | unverified
  | targetRequired
  | silentSessionStale
  deriving DecidableEq, Repr

def IdentityResult.ofMatch : MatchResult → IdentityResult
  | .ok => .timeout
  | .timeout => .timeout
  | .identityMismatch => .mismatch
  | .identityAmbiguous => .ambiguous
  | .triggerInterference => .triggerInterference

structure WireProbeIntent where
  sessionId : String
  pinned : sessionId ≠ "" ∧ strip sessionId = sessionId

inductive BootstrapProbe where
  | absent
  | untyped
  | typed (intent : WireProbeIntent)

def callbackOnDemand : String := "callback_on_demand"
def inbound : String := "inbound"

structure Request where
  tcpPort : Int
  targetIp : String := ""
  strategy : String := callbackOnDemand
  expectedPn : String := ""
  oldSessionId : String := ""
  ownerPrefix : String := "callback_identity"
  bootstrapProbe : BootstrapProbe := .absent

structure Outcome where
  result : IdentityResult
  collectorPn : String := ""
  sessionId : String := ""
  sessionProtocol : String := ""
  identitySource : PyObj := .str ""
  handoffOwner : String := ""
  silentBootstrapOffer : Option String := none

def Outcome.identityCertified (outcome : Outcome) : Bool :=
  outcome.result == .ok && outcome.collectorPn != "" && outcome.handoffOwner != ""

/-- The sessions of all listeners. `iter_observed_sessions` gives each the port of its
    listener, so the probe scope around the transaction can always key them. -/
structure Inventory where
  sessions : List RawSession
  ported : ∀ raw ∈ sessions, ∃ port, raw.listenerPort = .ok port

structure Reading where
  registered : Bool := true
  inventory : Inventory := ⟨[], by simp⟩
  silent : List PyObj := []
  late : Bool := false

structure Wait where
  baseline : List String
  pendingBaseline : List String
  silentSeen : Bool := false
  offerSessionId : String := ""
  probed : Bool := false

/-- The await the transaction stands at. `closing` and `finished` hold what the body returned
    or raised. -/
inductive Phase where
  | idle
  | leaseWait
  | opening
  | sending (wait : Wait)
  | identifying (wait : Wait)
  | polling (wait : Wait)
  | reading (baseline : List String) (session : CallbackSession) (wire : Wire)
  | closing (result : Except PyError Outcome)
  | finished (result : Except PyError Outcome)

structure State where
  registry : Registry
  ledger : Ledger
  phase : Phase := .idle
  /-- The probe channel holds a listener. -/
  listener : Bool := false
  claimed : Bool := false

inductive Event where
  /-- A registry call of another owner. -/
  | registry (call : Call)
  /-- A move of the ledger: another attempt's lease, or a send of anybody. -/
  | ledger (action : CallbackLedger.Action)
  | begin (reading : Reading)
  | slept (reading : Reading)
  | opened (reading : Reading)
  | sent (reading : Reading)
  | identified (pn : String) (reading : Reading)
  | read (fullPn identitySource : PyObj) (reading : Reading)
  | closed
  /-- The awaited call raises an `Exception`. -/
  | failed (reading : Reading)
  | cancelled

def cancelledError : PyError := ⟨.cancelledError, ""⟩

section Transaction
variable (request : Request) (token : String)

def owner : String := request.ownerPrefix ++ ":" ++ token

def attemptId : String := strip (owner request token)

def strategy : String := if strip request.strategy = "" then inbound else strip request.strategy

def expectedSends : Nat :=
  match request.bootstrapProbe with
  | .absent => if strategy request = callbackOnDemand then 1 else 0
  | _ => 0

def attempt (s : State) : CallbackLedger.Attempt :=
  (s.ledger.attempts.get? (attemptId request token)).getD {}

def failure (result : IdentityResult) : Except PyError Outcome := .ok { result := result }

def refusal (error : PyError) : Except PyError Outcome :=
  if error.kind = .valueError then failure .conflict else .error error

/-- The end of `causality_lease`, and with it of the call. -/
def leaveLease (s : State) (result : Except PyError Outcome) : State :=
  { s with
    ledger := CallbackLedger.releaseCausality s.ledger (attemptId request token)
    phase := .finished result }

/-- The `finally` of the attempt: a claim that is still transient is released, then the
    channel is closed, which awaits when it holds a listener. -/
def leave (s : State) (result : Except PyError Outcome) : State :=
  let released := if s.claimed then (s.registry.release (.str (owner request token))).registry
    else s.registry
  if s.listener then
    { s with registry := released, listener := false, phase := .closing result }
  else leaveLease request token { s with registry := released } result

def sessionViews (s : State) (reading : Reading) : List CallbackSession :=
  if reading.registered then
    match s.registry.normalizedSessions reading.inventory.sessions with
    | .ok sessions => sessions
    | .error _ => []
  else []

def matchView (session : CallbackSession) : SessionView where
  sessionId := .str session.sessionId
  collectorPn := .str session.collectorPn
  state := .str session.state.text
  hasStrongIdentity := .bool session.hasStrongIdentity

def liveWire (session : CallbackSession) : Option Wire :=
  (negotiateSessionAdapters session.raw).writable

def isLive (session : CallbackSession) : Bool :=
  !startsWith (lower (strip session.state.text)) "closed"

def snapshotSilentSessionIds (s : State) (reading : Reading) : List String :=
  if s.listener then (reading.silent.map PyObj.cleanText).filter fun id => id ≠ "" else []

def freshViews (wait : Wait) (views : List CallbackSession) : List CallbackSession :=
  match request.bootstrapProbe with
  | .typed intent => views.filter fun session => session.sessionId = intent.sessionId && isLive session
  | _ => views.filter fun session =>
      session.sessionId ≠ "" && !wait.baseline.contains session.sessionId &&
        session.sessionId ≠ strip request.oldSessionId && isLive session

def preferReadable (first : CallbackSession) (rest : List CallbackSession) : CallbackSession :=
  ((first :: rest).find? fun session => (liveWire session).isSome).getD first

def noteSilent (wait : Wait) (liveSilent : List String) : Wait :=
  match (liveSilent.filter fun id => !wait.pendingBaseline.contains id &&
      !wait.baseline.contains id && id ≠ strip request.oldSessionId).dedup with
  | [] => wait
  | [only] => { wait with silentSeen := true, offerSessionId := only }
  | _ => { wait with silentSeen := true, offerSessionId := "" }

def certify (s : State) (reading : Reading) (baseline : List String) (session : CallbackSession)
    (wire : Wire) (fullPn identitySource : PyObj) : State :=
  let full := fullPn.cleanText
  let matchBaseline := match request.bootstrapProbe with
    | .typed intent => baseline.filter fun id => id ≠ intent.sessionId
    | _ => baseline
  let sends := (attempt request token s).ownSends + (attempt request token s).foreignSends
  let verdict := matchCallbackAnswer ((sessionViews s reading).map matchView) matchBaseline full
    request.expectedPn (strip request.oldSessionId) (some 0) (some sends) (expectedSends request)
  let certified := preferFullPn verdict.collectorPn full
  let handed := owner request token
  if full = "" then leave request token s (failure .unverified)
  else if verdict.confirmed = false then
    leave request token s (failure (.ofMatch verdict.result))
  else if verdict.sessionId ≠ session.sessionId then leave request token s (failure .mismatch)
  else
    match s.registry.promoteClaimToFullPn (.str handed) (.str certified) with
    | ⟨.error error, registry⟩ =>
      leave request token { s with registry := registry } (refusal error)
    | ⟨.ok _, promoted⟩ =>
      match promoted.prepareHandoff (.str handed) (.str certified) with
      | ⟨.error error, registry⟩ =>
        leave request token { s with registry := registry } (refusal error)
      | ⟨.ok _, prepared⟩ =>
        leave request token { s with registry := prepared, claimed := false }
          (.ok
            { result := .ok
              collectorPn := certified
              sessionId := session.sessionId
              sessionProtocol := wire.text
              identitySource := identitySource
              handoffOwner := handed })

def takeSession (s : State) (reading : Reading) (baseline : List String)
    (session : CallbackSession) : State :=
  let claimant := PyObj.str (owner request token)
  let inventory := reading.inventory.sessions
  if (attempt request token s).foreignSends ≠ 0 then
    leave request token s (failure .triggerInterference)
  else
    match s.registry.claimSession inventory claimant (.str session.sessionId) with
    | ⟨.error error, registry⟩ =>
      leave request token { s with registry := registry } (refusal error)
    | ⟨.ok _, registry⟩ =>
      let owning := { s with registry := registry, claimed := true }
      match registry.sessionHandleForClaimedSession inventory claimant request.expectedPn with
      | .error error => leave request token owning (.error error)
      | .ok handle =>
        match handle.bind SessionHandle.writable with
        | none => leave request token owning (failure .unverified)
        | some wire => { owning with phase := .reading baseline session wire }

def endRound (s : State) (reading : Reading) (wait : Wait) : State :=
  if reading.late = false then { s with phase := .polling wait }
  else if wait.silentSeen then
    leave request token s (.ok
      { result := .sessionSilent
        silentBootstrapOffer :=
          if wait.offerSessionId = "" then none else some wait.offerSessionId })
  else leave request token s (failure .timeout)

/-- One round of `_async_wait_for_new_session`. -/
def pollSessions (s : State) (reading : Reading) (wait : Wait) : State :=
  match freshViews request wait (sessionViews s reading) with
  | [only] => takeSession request token s reading wait.baseline only
  | first :: rest => takeSession request token s reading wait.baseline (preferReadable first rest)
  | [] =>
    let liveSilent := snapshotSilentSessionIds s reading
    match request.bootstrapProbe with
    | .typed intent =>
      if liveSilent.contains intent.sessionId = false then
        leave request token s (failure .silentSessionStale)
      else if wait.probed then endRound request token s reading wait
      else { s with phase := .identifying { wait with probed := true } }
    | _ => endRound request token s reading (noteSilent request wait liveSilent)

def checkSends (s : State) (reading : Reading) (wait : Wait) : State :=
  if (attempt request token s).ownSends ≠ expectedSends request then
    leave request token s (failure .triggerNotSent)
  else pollSessions request token s reading wait

def takeBaseline (s : State) (reading : Reading) : State :=
  let wait : Wait :=
    { baseline := (sessionViews s reading).map CallbackSession.sessionId |>.filter fun id => id ≠ ""
      pendingBaseline := snapshotSilentSessionIds s reading }
  if expectedSends request = 0 then checkSends request token s reading wait
  else { s with phase := .sending wait }

def runAttempt (s : State) (reading : Reading) : State :=
  if reading.registered = false then leaveLease request token s (failure .timeout)
  else
    match request.bootstrapProbe with
    | .untyped => leaveLease request token s (failure .wireProbeFailed)
    | _ =>
      if request.tcpPort ≤ 0 then takeBaseline request token s reading
      else { s with phase := .opening }

/-- One try of the lease: a duplicate id raises, a held lease is waited for until the
    deadline, and the transaction answers a lease it could not get. -/
def acquireLease (s : State) (reading : Reading) : State :=
  if (s.ledger.attempts.get? (attemptId request token)).isSome then
    { s with phase := .finished (.error (valueError
      ("callback_attempt_duplicate:" ++ attemptId request token))) }
  else if s.ledger.causalityOwner ≠ "" then
    if reading.late then { s with phase := .finished (failure .triggerNotSent) }
    else { s with phase := .leaseWait }
  else
    runAttempt request token
      { s with ledger := CallbackLedger.tryAcquireCausality s.ledger (owner request token) } reading

def beginTransaction (s : State) (reading : Reading) : State :=
  if strategy request = callbackOnDemand ∧ strip request.targetIp = "" then
    { s with phase := .finished (failure .targetRequired) }
  else acquireLease request token s reading

def resume (s : State) : Event → State
  | .begin reading =>
    match s.phase with
    | .idle => beginTransaction request token s reading
    | _ => s
  | .slept reading =>
    match s.phase with
    | .leaseWait => acquireLease request token s reading
    | .polling wait => pollSessions request token s reading wait
    | _ => s
  | .opened reading =>
    match s.phase with
    | .opening => takeBaseline request token { s with listener := true } reading
    | _ => s
  | .sent reading =>
    match s.phase with
    | .sending wait => checkSends request token s reading wait
    | _ => s
  | .identified pn reading =>
    match s.phase with
    | .identifying wait =>
      if pn = "" then leave request token s (failure .wireProbeFailed)
      else endRound request token s reading wait
    | _ => s
  | .read fullPn identitySource reading =>
    match s.phase with
    | .reading baseline session wire =>
      certify request token s reading baseline session wire fullPn identitySource
    | _ => s
  | .closed =>
    match s.phase with
    | .closing result => leaveLease request token s result
    | _ => s
  | .failed reading =>
    match s.phase with
    | .opening => takeBaseline request token s reading
    | .sending wait => checkSends request token s reading wait
    | .reading _ _ _ => leave request token s (failure .unverified)
    | .closing result => leaveLease request token s result
    | _ => s
  | .cancelled =>
    match s.phase with
    | .leaseWait => { s with phase := .finished (.error cancelledError) }
    | .opening | .sending _ | .identifying _ | .polling _ | .reading _ _ _ =>
      leave request token s (.error cancelledError)
    | .closing _ => leaveLease request token s (.error cancelledError)
    | _ => s
  | _ => s

/-- The call is over in its last state, whatever happens to the registry later. Nobody else
    uses the attempt's owner id. -/
def step (s : State) (event : Event) : State :=
  match s.phase, event with
  | .finished _, _ => s
  | _, .registry call =>
    if call.operation.owner = some (attemptId request token) then s
    else { s with registry := SessionRegistry.step s.registry call }
  | _, .ledger action =>
    if action.leaseOf = some (attemptId request token) then s
    else { s with ledger := CallbackLedger.step s.ledger action }
  | _, event => resume request token s event

end Transaction
end CallbackIdentity
