import SealedTree.CommandLine

/-!
The program. Called with the word `gateway` first it is the gateway, and otherwise the client. This
system offers no sockets: the network counts as unreachable, and nothing can be served.
-/

open SealedTree SealedTree.CommandLine

def systemWords : IO.Error → String
  | .noFileOrDirectory .. => DiskFault.noSuchFile.message
  | .permissionDenied _ code details
  | .inappropriateType _ code details | .invalidArgument _ code details
  | .resourceExhausted _ code details | .alreadyExists _ code details
  | .noSuchThing _ code details | .otherError code details =>
      details ++ " (os error " ++ toString code ++ ")"
  | e => toString e

def attempt (act : IO α) : IO (Except String α) := do
  match ← act.toBaseIO with
  | .ok a => pure (.ok a)
  | .error e => pure (.error (systemWords e))

def thisSystem : System IO where
  readFile path := attempt (IO.FS.readBinFile path)
  writeFile path text := attempt (IO.FS.writeFile path text)
  send _ := pure .unreachable
  sleep delay := IO.sleep (UInt32.ofNat (delay / 1000000))
  jitter max := do
    let ms ← IO.rand 0 (max / 1000000)
    pure (.ofMillis (UInt64.ofNat ms))
  serve _ _ := pure "Function not implemented (os error 38)"
  print text := IO.print text

def main (words : List String) : IO UInt32 := do
  let ending ← match words with
    | "gateway" :: words => thisSystem.server words
    | words => thisSystem.client words
  if let some message := ending.message then
    IO.eprintln message
  if ending.code = 2 then
    IO.eprintln "error: the command line was not understood"
  pure ending.code.toUInt32
