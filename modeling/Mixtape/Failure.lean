import Mixtape.Sync.Result

/-!
# Failures

Everything that can go wrong while criteria are read, the library is edited or a platform is
written, by cause.

* `Failure` — the causes.
* `Failure.message`, `Failure.name` — the wording, and the name of the cause.
* `FailureKind`, `FailureKind.covers` — the groups of causes a caller may single out.
-/

namespace Mixtape

/-- What a failed call to a service tells. -/
structure ServiceFault where
  /-- The service's wording. -/
  message : String
  /-- The service. -/
  service : String := "spotify"
  /-- The status code of its answer, if there was one. -/
  status : Json := .null
  deriving DecidableEq

/-- Why an operation failed. -/
inductive Failure where
  /-- A rule, a criteria document or an edit is malformed, at a place in it if one is known. -/
  | invalid (reason : String) (path : Option String)
  /-- A record does not exist. -/
  | notFound (entity : String) (id : String)
  /-- A service failed in a way that may pass. -/
  | transient (fault : ServiceFault)
  /-- A service failed for good. -/
  | fatal (fault : ServiceFault)
  /-- A service failed, and it is not known whether for good. -/
  | external (fault : ServiceFault)
  /-- A job is in flight for the target. -/
  | conflict (target : String) (jobId : String)
  /-- The job was cancelled. -/
  | cancelled
  /-- A sync made no progress; its partial result, if there is one. -/
  | syncFailed (reason : String) (result : Option ResultRecord)
  /-- A call took too long. -/
  | timeout (reason : String)
  /-- A value outside its range. -/
  | outOfRange (reason : String)
  /-- The program was used in a way it does not allow. -/
  | misuse (reason : String)
  /-- A value of the wrong type. -/
  | wrongType (reason : String := "")
  /-- A missing field. -/
  | missingField (reason : String := "")
  /-- A value of a kind without the needed operation. -/
  | unsupported (reason : String := "")
  /-- A number or date beyond what can be represented. -/
  | overflow (reason : String)
  /-- A list too long to be held. -/
  | tooLong
  /-- A division by zero. -/
  | divisionByZero
  /-- A row that breaks a constraint of its table. -/
  | constraint (reason : String := "")
  /-- A value no column holds. -/
  | unstorable
  /-- A value that cannot be written to its column. -/
  | unwritable
  /-- A setting that cannot be read. -/
  | unreadable
  deriving DecidableEq

namespace Failure

/-- The wording of a failure; empty where a failure is told by its cause alone. -/
def message : Failure → String
  | invalid reason path =>
    match path with
    | none => reason
    | some place => if place = "" then reason else place ++ ": " ++ reason
  | notFound entity id => entity ++ " with id " ++ id ++ " not found"
  | transient fault | fatal fault | external fault => fault.message
  | conflict target jobId => "Sync already in progress for " ++ target ++ " (job " ++ jobId ++ ")"
  | cancelled => "cancelled"
  | syncFailed reason _ => reason
  | timeout reason | outOfRange reason | misuse reason | overflow reason | wrongType reason
  | missingField reason | unsupported reason | constraint reason => reason
  | divisionByZero => "integer division or modulo by zero"
  | unstorable | unwritable | unreadable | tooLong => ""

/-- The name of a failure's cause. -/
def name : Failure → String
  | invalid _ _ => "ValidationError"
  | notFound _ _ => "NotFoundError"
  | transient _ => "TransientExternalError"
  | fatal _ => "FatalExternalError"
  | external _ => "ExternalServiceError"
  | conflict _ _ => "ConcurrencyConflict"
  | cancelled => "JobCancelledError"
  | syncFailed _ _ => "SyncFailedError"
  | timeout _ => "TimeoutError"
  | outOfRange _ => "ValueError"
  | misuse _ => "RuntimeError"
  | wrongType _ => "TypeError"
  | missingField _ => "KeyError"
  | unsupported _ => "AttributeError"
  | overflow _ => "OverflowError"
  | tooLong => "MemoryError"
  | divisionByZero => "ZeroDivisionError"
  | constraint _ => "IntegrityError"
  | unstorable => "ProgrammingError"
  | unwritable => "StatementError"
  | unreadable => "SettingsError"

/-- The wording of a failure, or the name of its cause where there is none. -/
def shown (f : Failure) : String := if f.message = "" then f.name else f.message

/-- Whether a failure is one the domain names, apart from faults of values and of the program. -/
def isDomain : Failure → Bool
  | invalid _ _ | notFound _ _ | transient _ | fatal _ | external _ | conflict _ _ | cancelled
  | syncFailed _ _ => true
  | _ => false

/-- Whether the failed call may be tried again later: a passing fault of a service, or a call
that took too long. -/
def isPassing : Failure → Bool
  | transient _ | timeout _ => true
  | _ => false

end Failure

/-- A group of failures. -/
inductive FailureKind where
  /-- Every failure. -/
  | any
  /-- The failures the domain names. -/
  | domain
  /-- Malformed values. -/
  | invalid
  /-- Missing records. -/
  | notFound
  /-- All failures of services. -/
  | external
  /-- Passing failures of services. -/
  | transient
  /-- Lasting failures of services. -/
  | fatal
  /-- Jobs in each other's way. -/
  | conflict
  /-- Cancellation. -/
  | cancelled
  /-- Syncs without progress. -/
  | syncFailed
  /-- Calls that took too long. -/
  | timeout
  /-- Values outside their range. -/
  | outOfRange
  /-- Uses that are not allowed. -/
  | misuse
  /-- Values of the wrong type. -/
  | wrongType
  /-- Missing fields. -/
  | missingField
  /-- Values without the needed operation. -/
  | unsupported
  /-- All failures of a calculation. -/
  | arithmetic
  /-- Numbers and dates beyond what can be represented. -/
  | overflow
  /-- Divisions by zero. -/
  | divisionByZero
  /-- Lists too long to be held. -/
  | tooLong
  /-- All failures of statements to the tables. -/
  | statement
  /-- Rows that break a constraint. -/
  | constraint
  /-- Values no column holds. -/
  | unstorable
  /-- Settings that cannot be read. -/
  | unreadable
  deriving DecidableEq

/-- Whether a failure belongs to a group. -/
def FailureKind.covers : FailureKind → Failure → Bool
  | any, _ => true
  | domain, f => f.isDomain
  | invalid, .invalid _ _ => true
  | notFound, .notFound _ _ => true
  | external, .external _ | external, .transient _ | external, .fatal _ => true
  | transient, .transient _ => true
  | fatal, .fatal _ => true
  | conflict, .conflict _ _ => true
  | cancelled, .cancelled => true
  | syncFailed, .syncFailed _ _ => true
  | timeout, .timeout _ => true
  | outOfRange, .outOfRange _ | outOfRange, .unreadable => true
  | misuse, .misuse _ => true
  | wrongType, .wrongType _ => true
  | missingField, .missingField _ => true
  | unsupported, .unsupported _ => true
  | arithmetic, .overflow _ | arithmetic, .divisionByZero => true
  | overflow, .overflow _ => true
  | divisionByZero, .divisionByZero => true
  | tooLong, .tooLong => true
  | statement, .constraint _ | statement, .unstorable | statement, .unwritable => true
  | constraint, .constraint _ => true
  | unstorable, .unstorable => true
  | unreadable, .unreadable => true
  | _, _ => false

/-- The failures that are put down to one chunk of many: those that may pass. -/
def passingKinds : List FailureKind := [.transient, .timeout]

theorem any_passingKinds (f : Failure) : passingKinds.any (·.covers f) = f.isPassing := by
  cases f <;> rfl

end Mixtape
