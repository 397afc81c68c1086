import CredentialKeeper.Credential
import CredentialKeeper.Refresh.Settings

/-!
# Notices

What the parts of the service report while they work. A `Notice` says what happened; its `Event` is
how that reads in a log: a level, the part that reports it, a message and named values. No notice
holds a secret.
-/

namespace CredentialKeeper.Log

inductive Level where
  | trace
  | debug
  | info
  | warn
  | error
deriving DecidableEq

namespace Level

def name : Level → String
  | trace => "TRACE"
  | debug => "DEBUG"
  | info => "INFO"
  | warn => "WARN"
  | error => "ERROR"

/-- How much a level lets through; the greater, the more. -/
def verbosity : Level → Nat
  | error => 1
  | warn => 2
  | info => 3
  | debug => 4
  | trace => 5

end Level

/-- A value of an event. Numbers differ from texts in structured logs, and quoted texts from others
in plain ones. -/
inductive Value where
  | number (n : Nat)
  | text (s : String)
  | quoted (s : String)
deriving DecidableEq

def Value.toText : Value → String
  | number n => toString n
  | text s | quoted s => s

structure Event where
  level : Level
  target : String
  message : String
  fields : List (String × Value)
deriving DecidableEq

inductive Notice where
  | managerStarting (source : String)
  | startupAttemptFailed (source : String) (attempt : Nat) (failure : Failure) (retryIn : Span)
  | managerRunning (source : String) (expiresAt : Moment)
  | renewalScheduled (source : String) (delay : Span) (failures : Nat)
  | renewed (source : String) (expiresAt : Moment) (recoveredAfter : Nat)
  | renewalFailed (source : String) (attempt : Nat) (failure : Failure)
  | exhausted (source : String) (attempts : Nat) (elapsed : Span) (lastExpiresAt : Moment)
  | stopRequested (source : String)
  | managerStopped (source : String)
  | taskCrashed (source : String)
  | certificateExpiring (source subject : String) (expiresAt : Moment)
  | certificateLoaded (source subject : String) (expiresAt : Moment)
  | tokenObtained (source : String) (expiresIn : Nat)
  | apnsStarting (endpoint : String)
  | fcmStarting
  | serviceStarting (env : String)
  | serviceReady
  | renewalExhausted (error : String)
  | shutdownSignal
deriving DecidableEq

namespace Notice

/-- The name a manager's events are filed under. -/
def managerTarget : String := "push_credentials::manager"
def certificateTarget : String := "nova_apns_shared::source"
def tokenTarget : String := "nova_fcm_shared::token"
def startupTarget : String := "notification_service::credentials"
def serviceTarget : String := "notification_service"

def millisField (name : String) (s : Span) : String × Value := (name, .number s.millis.toNat)

def event : Notice → Event
  | managerStarting source => ⟨.info, managerTarget, "Credential refresh manager starting",
      [("source", .text source), ("state", .text "starting")]⟩
  | startupAttemptFailed source attempt failure retryIn =>
    ⟨.warn, managerTarget, "Initial credential renewal failed; retrying",
      [("source", .text source), ("attempt", .number attempt), ("kind", .text failure.kind.label),
        ("error", .text failure.message), millisField "retry_in_ms" retryIn]⟩
  | managerRunning source expiresAt => ⟨.info, managerTarget, "Credential refresh manager running",
      [("source", .text source), ("expires_at", .text expiresAt.text), ("state", .text "running")]⟩
  | renewalScheduled source delay failures =>
    ⟨.debug, managerTarget, "Next credential renewal scheduled",
      [("source", .text source), millisField "delay_ms" delay,
        ("consecutive_failures", .number failures)]⟩
  | renewed source expiresAt recoveredAfter => ⟨.info, managerTarget, "Credential renewed",
      [("source", .text source), ("expires_at", .text expiresAt.text),
        ("recovered_after", .number recoveredAfter)]⟩
  | renewalFailed source attempt failure => ⟨.warn, managerTarget, "Credential renewal failed",
      [("source", .text source), ("attempt", .number attempt), ("kind", .text failure.kind.label),
        ("error", .text failure.message)]⟩
  | exhausted source attempts elapsed lastExpiresAt =>
    ⟨.error, managerTarget, "Credential renewal backoff exhausted; stopping refresh manager",
      [("source", .text source), ("attempts", .number attempts), millisField "elapsed_ms" elapsed,
        ("last_expires_at", .text lastExpiresAt.text)]⟩
  | stopRequested source => ⟨.info, managerTarget, "Credential refresh manager stop requested",
      [("source", .text source)]⟩
  | managerStopped source => ⟨.info, managerTarget, "Credential refresh manager stopped",
      [("source", .text source), ("state", .text "stopped")]⟩
  | taskCrashed source => ⟨.error, managerTarget, "Credential renewal task panicked",
      [("source", .text source)]⟩
  | certificateExpiring source subject expiresAt => ⟨.warn, certificateTarget,
      "APNs certificate expiring soon, rotate the file on disk",
      [("source", .text source), ("subject", .text subject), ("expires_at", .text expiresAt.text)]⟩
  | certificateLoaded source subject expiresAt => ⟨.debug, certificateTarget,
      "Loaded APNs certificate",
      [("source", .text source), ("subject", .text subject), ("expires_at", .text expiresAt.text)]⟩
  | tokenObtained source expiresIn => ⟨.debug, tokenTarget, "Obtained FCM access token",
      [("source", .text source), ("expires_in", .number expiresIn)]⟩
  | apnsStarting endpoint => ⟨.info, startupTarget, "Starting APNs credential refresh",
      [("endpoint", .quoted endpoint)]⟩
  | fcmStarting => ⟨.info, startupTarget, "Starting FCM credential refresh", []⟩
  | serviceStarting env => ⟨.info, serviceTarget,
      "Starting notification service credential refresh", [("env", .text env)]⟩
  | serviceReady => ⟨.info, serviceTarget, "Push credentials ready", []⟩
  | renewalExhausted error => ⟨.error, serviceTarget, "Push credential renewal exhausted, exiting",
      [("error", .text error)]⟩
  | shutdownSignal => ⟨.info, serviceTarget, "Shutdown signal received", []⟩

end Notice

end CredentialKeeper.Log
