import AnnotationContainers.CommandLine

/-! # The program

Files, the environment and the two output streams; everything else is decided by
`CommandLine.run`.
-/

section

open AnnotationContainers

private def readText (file : String) : IO (Option String) :=
  try some <$> IO.FS.readFile file catch _ => return none

def main (args : List String) : IO UInt32 := do
  let outcome ← CommandLine.run readText args (← IO.getEnv CommandLine.metadataVariable)
  match outcome with
  | .printed text => IO.print text
  | .failed context cause => IO.eprintln (CommandLine.failureText context cause)
  | .misused => IO.eprintln CommandLine.helpText
  return outcome.exitCode.toUInt32

end
