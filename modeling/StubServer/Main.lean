import Std.Time.DateTime.Timestamp
import StubServer.CommandLine.Run

/-!
# The command line program

Reads the configuration and the requests and writes the answers.
-/

namespace StubServer

namespace CommandLine

/-- What stands at a path. -/
def readFile (path : String) : IO FileContent := do
  try
    return .text (← IO.FS.readFile path)
  catch
    | .noFileOrDirectory .. => return .missing
    | _ => return .unreadable

/-- The time now. -/
def currentInstant : IO Time.Instant := do
  let t ← Std.Time.Timestamp.now
  let nanos := t.toNanosecondsSinceUnixEpoch.val
  let seconds := nanos / 1000000000
  return { day := seconds / 86400, second := (seconds % 86400).toNat,
           nano := (nanos % 1000000000).toNat }

/-- A source of words that differs from run to run. -/
def freshDraws : IO Draws := do
  let bytes ← IO.getRandomBytes 8
  return .ofSeed #[] (bytes.toList.foldl (fun n b => n * 256 + b.toUInt64) 0)

/-- Answers the requests on the lines of the input until it ends. -/
partial def serve (input output : IO.FS.Stream) (s : Server) (draws : Draws) : IO Unit := do
  let line ← input.getLine
  if line = "" then return
  match lineRequest? line with
  | none => serve input output s draws
  | some r =>
    match Server.handle (← currentInstant) r s draws with
    | none => serve input output s draws
    | some ((answer, s), draws) =>
      IO.sleep answer.delay.toUInt32
      output.putStr answer.response.write
      output.flush
      serve input output s draws

end CommandLine

end StubServer

open StubServer CommandLine in
def main (args : List String) : IO UInt32 := do
  let output ← IO.getStdout
  let content ←
    match read args with
    | .run o => readFile o.configPath
    | _ => pure .missing
  match start args fun _ => content with
  | .ended o =>
    output.putStr o.output
    return o.code.toUInt32
  | .serving s =>
    serve (← IO.getStdin) output s (← freshDraws)
    return 0
