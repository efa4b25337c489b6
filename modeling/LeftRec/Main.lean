import LeftRec.Json.Command

/-!
# The command line

Parses the JSON given as the first argument, or else on standard input.
-/

namespace LeftRec

/-- All text on a stream. -/
partial def readAll (stream : IO.FS.Stream) (before : String) : IO String := do
  let line ← stream.getLine
  if line.isEmpty then return before else readAll stream (before ++ line)

end LeftRec

def main (arguments : List String) : IO UInt32 := do
  let text ← match arguments with
    | text :: _ => pure text
    | [] => LeftRec.readAll (← IO.getStdin) ""
  let response := LeftRec.Json.respond text
  IO.print response.output
  IO.eprint response.errors
  return response.code.toUInt32
