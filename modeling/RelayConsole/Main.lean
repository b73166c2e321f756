import RelayConsole.Console.Basic

namespace RelayConsole.Main

/-- A sink that keeps all bytes until they are printed. -/
structure Pending where
  bytes : List UInt8 := []

instance : Sink Pending where
  write sink bytes := (⟨sink.bytes ++ bytes⟩, .ok bytes.length)
  flush sink := (sink, .ok ())

/-- The variables of this process. -/
def env : IO (List (String × String)) := do
  let bytes ← try IO.FS.readBinFile "/proc/self/environ" catch _ => pure ByteArray.empty
  let entries := (((Utf8.decode? bytes.toList).getD []).splitOn '\x00').filterMap (Text.cutAtFirst? '=')
  return entries.map fun (name, text) => (String.ofList name, String.ofList text)

/-- The texts of those of the named files that can be read. -/
def texts (names : List String) : IO (List (String × String)) :=
  names.filterMapM fun (name : String) => do
    try return some (name, ← IO.FS.readFile name) catch _ => return none

/-- A fresh name for a connection, made of random digits in groups. -/
def freshName : IO String := do
  let groups ← [8, 4, 4, 4, 12].mapM fun width => do
    return String.ofList (Digits.padded 16 width (← IO.rand 0 (Nat.pow 16 width - 1)))
  return String.intercalate "-" groups

/-- Runs a console on what this process finds. There is no transport here, so the attempt to connect fails
as it does on a host without a network. -/
def run : IO UInt32 := do
  let stderr ← IO.getStderr
  let given ← env
  let nearby ← texts [".env"]
  let known := Console.variablesOf given fun name => nearby.lookup name
  let names := Settings.FileName.candidates "config/default" ++
    Settings.FileName.candidates ("config/" ++ Settings.runMode known)
  let files := nearby ++ (← texts names)
  match Console.start given (fun name => files.lookup name) ⟨[], false⟩ (← freshName) ({} : Pending) with
  | .error failure =>
    stderr.putStrLn (Console.complaint failure)
    return 1
  | .ok console =>
    let ended := console.run Console.offline
    ended.log.forM fun line => stderr.putStrLn line.text
    ended.complaints.forM stderr.putStrLn
    let stdout ← IO.getStdout
    stdout.write ⟨ended.session.view.sink.bytes.toArray⟩
    stdout.flush
    return ended.status.toUInt32

end RelayConsole.Main

def main : IO UInt32 :=
  RelayConsole.Main.run
