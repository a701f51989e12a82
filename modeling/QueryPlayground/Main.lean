import Std.Time.DateTime.Timestamp
import QueryPlayground.CommandLine.Program

/-!
The program on a real machine. It reads the environment, the accounts, the settings file and the clock, and
carries out what the pure program asks for. There is no transport to a remote service: every exchange fails.
-/
namespace QueryPlayground.CommandLine

/-- The number of the fault of opening a directory as a file. -/
def directoryErrno : UInt32 := 21

/-- The number of the fault of a name that is too long. -/
def nameErrno : UInt32 := 36

/-- The environment of the process. -/
def readEnvironment : IO Environment := do
  let bytes ← IO.FS.readBinFile "/proc/self/environ"
  let entries := Text.pieces '\x00' (String.fromUTF8? bytes |>.getD "").toList
  return entries.filterMap fun entry =>
    let name := entry.takeWhile (· != '=')
    if name.isEmpty then none
    else some (String.ofList name, String.ofList (entry.drop (name.length + 1)))

/-- What is found at a path. -/
def readPath (path : Path) : IO Found := do
  try
    return .file (← IO.FS.readBinFile path.text).toList
  catch
    | .inappropriateType _ number _ => return if number = directoryErrno then .directory else .nothing
    | .invalidArgument _ number _ => return if number = nameErrno then .nameTooLong else .nothing
    | .permissionDenied .. => return .unreadable
    | _ => return .nothing

/-- Whether a file is at a path. -/
def isProgram (path : Path) : IO Bool := return (← readPath path) matches .file _

/-- The number of the account that runs the program, as its status tells it. -/
def ownNumber? (status : String) : Option (List Char) := do
  let line ← (Text.pieces '\n' status.toList).find? ("Uid:".toList.isPrefixOf ·)
  (Text.pieces '\t' line)[1]?

/-- The names, numbers and homes in a list of accounts. -/
def accountsIn (text : String) : List (List Char × List Char × List Char) :=
  (Text.pieces '\n' text.toList).filterMap fun line =>
    match Text.pieces ':' line with
    | name :: _ :: number :: _ :: _ :: home :: _ => some (name, number, home)
    | _ => none

/-- The accounts of the machine. -/
def readAccounts : IO Accounts := do
  let entries := accountsIn (← IO.FS.readFile "/etc/passwd")
  let own? := ownNumber? (← IO.FS.readFile "/proc/self/status")
  let own := entries.find? fun (_, number, _) => own? = some number
  return {
    own := own.map fun (_, _, home) => String.ofList home
    named := entries.map fun (name, _, home) => (String.ofList name, String.ofList home) }

/-- What is said about every settings file that breaks the rules of its format. -/
def refusalText : String := "it breaks the rules of the format"

/-- The machine, as far as a list of words needs it. -/
def readHost (words : List String) : IO Host := do
  let environment ← readEnvironment
  let accounts ← readAccounts
  let programs ← (environment.programPaths Shell.bash.name).filterM isProgram
  let bare : Host := ⟨environment, accounts, fun _ => .nothing, programs, fun _ _ => refusalText⟩
  match settingsFile? bare words with
  | none => return bare
  | some path =>
    let found ← readPath path
    return { bare with look := fun asked => if asked = path then found else .nothing }

/-- The time that the pauses of a run have taken. -/
def pausedTime (trace : Trace) : Binary64 := trace.pauses.foldl (· + ·) .zero

/-- The outside without a service. Its clock starts when the program does and goes on with its pauses. -/
def readOutside : IO Outside := do
  let nanoseconds ← IO.monoNanosNow
  let chance ← IO.rand 0 (Nat.pow 2 53 - 1)
  let unreachable : Service.Reply := .failure "All connection attempts failed"
  return {
    clock := fun trace => .ofRatio false nanoseconds (Nat.pow 10 9) + pausedTime trace
    chance := fun _ => .real (.ofRatio false chance (Nat.pow 2 53))
    health := fun _ => unreachable
    query := fun _ _ => unreachable }

/-- The time for the seeds of the stores, in milliseconds. -/
def readStamp : IO Int := do
  return (← Std.Time.Timestamp.now).toMillisecondsSinceUnixEpoch.val

/-- Carries out an effect. -/
def carryOut (verbose : Bool) : Effect → IO Unit
  | .log line => do
    if isShown verbose line then IO.eprint (String.ofList (shownLine line))
  | .request _ => return ()
  | .sleep seconds => do
    match (seconds * Binary64.ofInt 1000).truncate? with
    | some milliseconds => IO.sleep milliseconds.toNat.toUInt32
    | none => return ()
  | .print .results text => IO.print (String.ofList text)
  | .print .diagnostics text => IO.eprint (String.ofList text)

end QueryPlayground.CommandLine

open QueryPlayground QueryPlayground.CommandLine

def main (words : List String) : IO UInt32 := do
  let host ← readHost words
  let outside ← readOutside
  let stamp ← readStamp
  let ((exit, verbose), trace) := ((program host (.ok stamp) words).run outside).run .start
  trace.effects.forM (carryOut verbose)
  match exit with
  | .code code => return code.toUInt32
  | .untold fault =>
    IO.eprintln fault.message
    return 1
