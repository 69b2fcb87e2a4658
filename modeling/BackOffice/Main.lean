import BackOffice.Command.Run
import BackOffice.Json.Printer
import Std.Time

/-!
# The program

Runs the command on its command line against an empty shop that lives as long as the program.
Documents and events go to standard output, what is said about a command line that was not
understood goes to standard error, and the program ends with the code that `Ending.exitCode` gives.
-/

namespace BackOffice.Program

/-- The current day by universal time. -/
def currentDay : IO Date := do
  let now ← Std.Time.Timestamp.now
  let day := Std.Time.PlainDate.ofEpochDay ⟨now.toSecondsSinceUnixEpoch.val / 86400⟩
  match Date.of? day.year.toInt day.month.val.toNat day.day.val.toNat with
  | some d => return d
  | none => throw (IO.userError "the clock shows no day of the calendar")

/-- A random identifier, with the marks of one that is drawn at random. -/
def freshAddress : IO AddressId := do
  let high ← IO.rand 0 (1 <<< 48 - 1)
  let middle ← IO.rand 0 (1 <<< 12 - 1)
  let low ← IO.rand 0 (1 <<< 62 - 1)
  let val := ((high <<< 4 + 4) <<< 12 + middle) <<< 64 + 1 <<< 63 + low
  match AddressId.ofNat? val with
  | some id => return id
  | none => throw (IO.userError "the identifier is too large")

/-- A random draw for a code. -/
def drawPicks : IO VoucherCode.Picks := do
  let draws ← (List.range VoucherCode.maxLength).mapM fun _ =>
    IO.rand 0 (VoucherCode.alphabet.length - 1)
  return fun i => ⟨draws.getD i 0 % VoucherCode.alphabet.length, Nat.mod_lt _ (by decide)⟩

/-- The environment variables that the program reads. -/
def readEnvironment : IO Environment := do
  let values ← Settings.variableNames.filterMapM fun name => do
    return (← IO.getEnv name).map fun value => (name, value.toUTF8)
  return fun name => values.lookup name

/-- An event on a line of text. -/
def eventLine (e : Event) : String :=
  e.details.foldl (fun line (name, value) => line ++ " " ++ name ++ "=" ++ value.compact)
    (e.level ++ " " ++ e.message)

/-- What is said about a command line that was not understood. -/
def usageText : UsageError → String
  | .help => name ++ ": migrate, user, voucher, sale"
  | .version => versionText
  | .nothingChosen => "a command is missing"
  | .unknownChoice => "there is no such command"
  | .unknownArgument => "there is no such argument"
  | .unlistedValue => "a value is missing or not one of those listed"
  | .unreadableValue => "a value cannot be read"
  | .missingArgument => "an argument is missing"
  | .conflict => "an argument is given twice or excludes another"
  | .unwantedValue => "a switch has no value"

/-- Runs one command line and writes down what came of it. -/
def execute (words : List String) : IO UInt32 := do
  let env ← readEnvironment
  let surroundings : Surroundings := {
    env := env
    today := ← currentDay
    fresh := ← freshAddress
    picks := ← drawPicks }
  let (ending, session) := run words surroundings {}
  for e in session.trace.events do
    IO.println (if logsJson env then e.toJson.compact else eventLine e)
  for document in session.trace.printed do
    try IO.println document.pretty
    catch _ => return Ending.cutOff.exitCode.toUInt32
  match ending with
  | .notRun .help => IO.println (usageText .help)
  | .notRun .version => IO.println (usageText .version)
  | .notRun cause => IO.eprintln (usageText cause)
  | _ => pure ()
  return ending.exitCode.toUInt32

end BackOffice.Program

/-- Runs the command on the command line. -/
def main (words : List String) : IO UInt32 :=
  BackOffice.Program.execute words
