import Phrasebook.Demo.CommandLine

/-! The demo as a program: arguments and standard input in, standard output, standard error and
the exit code out. -/

/-- All bytes up to the end of a stream, after those already read. -/
partial def readAll (stream : IO.FS.Stream) (bytes : ByteArray) : IO ByteArray := do
  let more ← stream.read 65536
  if more.isEmpty then return bytes else readAll stream (bytes ++ more)

def main (arguments : List String) : IO UInt32 := do
  let input ← readAll (← IO.getStdin) ByteArray.empty
  match Phrasebook.Demo.run (arguments.map String.toList) input.toList with
  | some finished =>
    IO.print finished.stdout
    IO.eprint finished.stderr
    return UInt32.ofNat finished.code
  | none =>
    IO.eprintln "Error: nested too deep"
    return 1
