import Mixtape.Json.Value

/-!
# Faults of calls

How a call to the streaming service can go wrong, and which of these faults may pass.

* `CallFault` — the faults.
* `CallFault.failure` — the failure any fault stands for.
* `CallFault.ending` — the failure a call ends with: faults of the service and of the way to it
  are classified, all others stay what they are.
-/

namespace Mixtape.Service

/-- What went wrong with a call. -/
inductive CallFault where
  /-- The service refused the call. -/
  | refused (status : Json) (message : Option String) (code reason : Json)
  /-- The call did not get through; the kind names the trouble. -/
  | undelivered (kind message : String)
  /-- Something else failed. -/
  | other (failure : Failure)
  deriving DecidableEq

namespace CallFault

/-- The status codes of refusals that may pass. -/
def passingStatuses : List Json := [429, 500, 502, 503, 504].map .int

/-- The kinds of trouble on the way that may pass: slow and broken connections. -/
def passingKinds : List String :=
  ["Timeout", "ReadTimeout", "ConnectTimeout", "ConnectionError", "SSLError", "ProxyError"]

/-- A refusal in full, for one without a message. -/
def refusalText (status : Json) (message : Option String) (code reason : Json) : String :=
  "http status: " ++ status.plain ++ ", code: " ++ code.plain ++ " - " ++ message.getD "None"
    ++ ", reason: " ++ reason.plain

/-- Whether a fault may pass. -/
def mayPass : CallFault → Bool
  | refused status _ _ _ => passingStatuses.any (·.isSame status)
  | undelivered kind _ => passingKinds.contains kind
  | other _ => false

/-- What a fault tells. -/
def fault : CallFault → ServiceFault
  | refused status message code reason =>
    { message :=
        match message with
        | some m => if m = "" then refusalText status message code reason else m
        | none => refusalText status message code reason
      status }
  | undelivered kind message => { message := if message = "" then kind else message }
  | other f => { message := f.shown }

/-- The failure a fault stands for. -/
def failure (c : CallFault) : Failure := if c.mayPass then .transient c.fault else .fatal c.fault

/-- The failure a call ends with. -/
def ending : CallFault → Failure
  | other f => f
  | c => c.failure

theorem isPassing_failure (c : CallFault) : c.failure.isPassing = c.mayPass := by
  unfold failure
  split <;> simp_all [Failure.isPassing]

end CallFault

end Mixtape.Service
