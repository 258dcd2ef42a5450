import EybondLocal.CollectorIdentity

/-!
Which session answered one callback attempt (`connection/callback_matching.py`). The
verdict rests on the attempt's own triggers, on the sessions that were there before it and
on identities; a session is never bound because it is the only one.
-/
namespace CallbackMatching
open StripText PythonObject CollectorIdentity

inductive MatchResult where
  | ok
  | timeout
  | identityMismatch
  | identityAmbiguous
  | triggerInterference
  deriving DecidableEq, Repr

structure CallbackMatch where
  result : MatchResult
  sessionId : String := ""
  collectorPn : String := ""
  deriving DecidableEq, Repr

def CallbackMatch.confirmed (verdict : CallbackMatch) : Bool :=
  verdict.result == .ok && verdict.collectorPn != ""

structure SessionView where
  sessionId : PyObj
  collectorPn : PyObj
  state : PyObj
  hasStrongIdentity : PyObj

def isSameIdentity (left right : String) : Bool :=
  if left = "" ∨ right = "" then false
  else if left = right then true
  else pnIsSameIdentity left right

def distinctIdentities (pns : List String) : List String :=
  pns.foldl (fun distinct pn =>
    if pn = "" then distinct
    else if distinct.any (isSameIdentity · pn) then distinct
    else distinct ++ [pn]) []

def qualifies (baseline : List String) (oldSessionId : String) (view : SessionView) : Bool :=
  let sessionId := view.sessionId.cleanText
  let state := lower view.state.cleanText
  sessionId != "" && !baseline.contains sessionId &&
    !(oldSessionId != "" && sessionId == oldSessionId) &&
    !(startsWith state "closed" || state == "route_identity_mismatch") &&
    view.hasStrongIdentity.truthy && view.collectorPn.cleanText != ""

def freshSessions (sessions : List SessionView) (baseline : List String) (oldSessionId : String) :
    List (String × String) :=
  (sessions.filter (qualifies baseline oldSessionId)).map fun view =>
    (view.sessionId.cleanText, view.collectorPn.cleanText)

def interferes (before after : Option Int) (expectedOwnTriggers : Int) : Bool :=
  match before, after with
  | some before, some after => after - before != max 0 expectedOwnTriggers
  | _, _ => false

def matchCallbackAnswer (sessions : List SessionView) (baseline : List String)
    (resultPn expectedPn oldSessionId : String) (before after : Option Int)
    (expectedOwnTriggers : Int) : CallbackMatch :=
  if interferes before after expectedOwnTriggers then { result := .triggerInterference }
  else if expectedPn ≠ "" ∧ resultPn = "" then { result := .timeout }
  else if expectedPn ≠ "" ∧ isSameIdentity expectedPn resultPn = false then
    { result := .identityMismatch }
  else
    let fresh := freshSessions sessions baseline oldSessionId
    if fresh = [] then { result := .timeout }
    else if 1 < (distinctIdentities (fresh.map Prod.snd)).length then
      { result := .identityAmbiguous }
    else
      let anchor := if expectedPn = "" then resultPn else expectedPn
      if anchor = "" then { result := .identityMismatch }
      else
        match fresh.find? fun session => isSameIdentity anchor session.2 with
        | some (sessionId, collectorPn) =>
          { result := .ok, sessionId := sessionId, collectorPn := collectorPn }
        | none => { result := .identityMismatch }

end CallbackMatching
