import CredentialKeeper.Service.Program
import Std.Time.DateTime.Timestamp

/-!
# Command line

Runs the service in the surroundings of the process: its variables, its files and its clocks. No
request for a token leaves the process, since it has no way to the network; the endpoint counts as
out of reach.
-/

namespace CredentialKeeper.Service

/-- The variables that the service reads. -/
def variableNames : List String :=
  ["LOG_FORMAT", "RUST_LOG", "APP_ENV", "APNS_CERTIFICATE_PATH", "APNS_PRIVATE_KEY_PATH",
    "APNS_BUNDLE_ID", "APNS_PRODUCTION", "FCM_SERVICE_ACCOUNT_PATH", "FCM_SCOPE"] ++
  ["APNS_REFRESH", "FCM_REFRESH"].flatMap fun stem =>
    Refresh.changes.map fun (name, _) => stem ++ "_" ++ name

def readEnvironment : IO Environment := do
  let entries ← variableNames.filterMapM fun name => do
    let value ← IO.getEnv name
    return value.map fun text => (name, text.toUTF8)
  return ⟨entries⟩

/-- The files that a service with these variables reads, as they are now. -/
def readFiles (env : Environment) : IO Files := do
  let paths := ["APNS_CERTIFICATE_PATH", "APNS_PRIVATE_KEY_PATH", "FCM_SERVICE_ACCOUNT_PATH"]
  let mut files := Files.empty
  for path in variableFile :: paths.filterMap env.text? do
    try
      files := files.set path (some (.file (← IO.FS.readBinFile path)))
    catch _ => pure ()
  return files

def readWall : IO Moment := do
  let now ← Std.Time.Timestamp.now
  return (Moment.ofNanos? now.toNanosecondsSinceUnixEpoch.val).getD .last

def writeLines (format : LogFormat) (filter : Log.Filter) (notices : List Log.Notice) :
    IO Unit := do
  let now ← readWall
  for line in notices.filterMap (logLine? format filter now) do
    IO.println line

/-- Makes the moves of a service until it ends. -/
partial def follow (env : Environment) (write : List Log.Notice → IO Unit) (start : Nat)
    (s : PushService Unit) : IO Stage := do
  if s.isOver then return s.stage
  match s.next? with
  | some (s, notices) =>
    write notices
    follow env write start s
  | none =>
    IO.sleep 10
    let files ← readFiles env
    let elapsed := (← IO.monoNanosNow) - start - s.now
    let s := ((s.step (.tick elapsed)).map Prod.fst).getD s
    let s := ((s.step (.change (fun _ => files) id)).map Prod.fst).getD s
    follow env write start s

def runProgram : IO UInt32 := do
  let own ← readEnvironment
  let env := fullEnvironment own (← readFiles own)
  let finish (stage : Stage) : IO UInt32 := do
    let (code, errors) := outcome stage
    IO.eprint errors
    return UInt32.ofNat (code.getD 0)
  match Settings.load env with
  | .error e => finish (.ended (.error (.settings e)))
  | .ok settings =>
    let write := writeLines settings.logFormat (logFilter env)
    write [.serviceStarting settings.surroundings]
    let files ← readFiles env
    let start ← readWall
    let world : Surroundings Unit :=
      { wall := fun now => (Manager.wallFrom start now).getD .last
        files := fun _ => files
        ask := fun _ _ => ((.atOnce, .unsent), ())
        memory := ()
        draws := [] }
    finish (← follow env write (← IO.monoNanosNow) (ofSettings world settings))

end CredentialKeeper.Service

def main : IO UInt32 := CredentialKeeper.Service.runProgram
