import SealedTree.CommandLine

/-!
A system without a world around it: files held in memory, no network, ports that are all taken, and
sleep that takes no time. A program rehearsed on it is a function of its words and the files.
-/

namespace SealedTree.CommandLine

structure Rehearsal where
  disk : Disk
  written : List Path := []
  printed : String := ""

namespace Rehearsal

def system : System (StateM Rehearsal) where
  readFile path := do pure (((← get).disk.read path).mapError DiskFault.message)
  writeFile path text := do
    let r ← get
    match r.disk.target path with
    | .ok p =>
        set { r with disk := r.disk.put p text.toUTF8, written := r.written ++ [p] }
        pure (.ok ())
    | .error fault => pure (.error fault.message)
  send _ := pure .unreachable
  sleep _ := pure ()
  jitter _ := pure 0
  serve _ _ := pure "Address already in use (os error 98)"
  print text := modify fun r => { r with printed := r.printed ++ text }

def outputs (r : Rehearsal) : List (Path × ByteArray) :=
  let here := r.written.filter fun p => p.head? ≠ some ".." ∧ p.head? ≠ some "/"
  here.filterMap fun p => (r.disk.file? p).map (p, ·)

end Rehearsal

end SealedTree.CommandLine
