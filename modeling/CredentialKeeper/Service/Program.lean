import CredentialKeeper.Log.Filter
import CredentialKeeper.Log.Line
import CredentialKeeper.Service.Gateways
import CredentialKeeper.Service.Run
import CredentialKeeper.VariableFile

/-!
# The program

The program takes its settings from its environment and from a file of variables, writes its log in
lines, and ends with an exit code. An error is reported with the causes behind it.
-/

namespace CredentialKeeper.Service

def variableFile : String := ".env"

/-- The environment with the variables of the file, if there is one. -/
def fullEnvironment (env : Environment) (files : Files) : Environment :=
  match files.read variableFile with
  | .ok bytes => VariableFile.load env bytes
  | .error _ => env

/-- The filter of the log. A text that is no filter counts as none. -/
def logFilter (env : Environment) : Log.Filter :=
  ((env.text? "RUST_LOG").bind Log.Filter.parse?).getD .standard

/-- The line for a report, unless the log leaves it out. -/
def logLine? (format : LogFormat) (filter : Log.Filter) (now : Moment) (notice : Log.Notice) :
    Option String :=
  let event := notice.event
  if filter.allows event then
    some (match format with
      | .text => event.plainLine now
      | .json => event.jsonLine now)
  else none

/-- A text whose lines after the first stand behind some blanks. -/
def indent (blanks : Nat) (text : String) : String :=
  String.ofList (text.toList.flatMap fun c =>
    if c = '\n' then '\n' :: List.replicate blanks ' ' else [c])

/-- The report of an error: the message, and the causes, numbered if there are several. -/
def errorReport : List String → String
  | [] => "Error: \n"
  | [message] => "Error: " ++ message ++ "\n"
  | [message, cause] =>
    "Error: " ++ message ++ "\n\nCaused by:\n    " ++ indent 4 cause ++ "\n"
  | message :: causes =>
    "Error: " ++ message ++ "\n\nCaused by:\n" ++ String.join (causes.zipIdx.map fun (cause, i) =>
      let number := toString i
      String.ofList (List.replicate (5 - number.length) ' ') ++ number ++ ": " ++
        indent 7 cause ++ "\n")

/-- A run of the program as it looks from outside. -/
structure Transcript where
  exitCode : Option Nat
  lines : List String
  errors : String
deriving DecidableEq

def outcome : Stage → Option Nat × String
  | .ended (.ok ()) => (some 0, "")
  | .ended (.error fault) => (some 1, errorReport fault.chain)
  | .crashed message => (some 101, message ++ "\n")
  | _ => (none, "")

/-- Runs the program for at most so many moves. -/
def transcript {σ : Type} (w : Surroundings σ) (env : Environment) (watch : Watch) (moves : Nat) :
    Transcript :=
  let env := fullEnvironment env (w.files 0)
  match Settings.load env with
  | .error e => ⟨some 1, [], errorReport e.chain⟩
  | .ok settings =>
    let (service, log) := run watch (fun _ => false) moves (ofSettings w settings)
      [(0, .serviceStarting settings.surroundings)]
    let (exitCode, errors) := outcome service.stage
    let filter := logFilter env
    ⟨exitCode,
      log.reverse.filterMap fun (now, notice) =>
        logLine? settings.logFormat filter (w.wall now) notice,
      errors⟩

end CredentialKeeper.Service
