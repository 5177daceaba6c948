import BankLedger.Command.FileTree
import BankLedger.Command.Host

/-!
# Rehearsals of a command

A system that is a file tree: files are read from it and written to it, the time stands still, and
no pause takes any.  It lies on top of any other effects, such as those of a scripted server.
-/

namespace BankLedger.Command

open BankLedger.Settings

namespace FileTree

variable {m : Type → Type} [Monad m]

/-- Looks something up in the tree. -/
def ask {α : Type} (look : FileTree → Except FileFault α) :
    StateT FileTree m (Except String α) := do
  return (look (← get)).mapError FileFault.message

/-- Changes the tree, which stays as it is after a fault. -/
def change (act : FileTree → Except FileFault FileTree) :
    StateT FileTree m (Except String Unit) := do
  match act (← get) with
  | .ok tree =>
      set tree
      return .ok ()
  | .error fault => return .error fault.message

/-- The system with these files, in the directory of this name. -/
def host (home : String) (environment : Environment) (time : String) :
    Host (StateT FileTree m) where
  environment := environment
  environmentFile := return ((← get).read [".env"]).toOption
  readFile path := ask fun tree => tree.read (names home path)
  writeFile path text := change fun tree => tree.write (names home path) (Octets.ofText text)
  makeDirectory path := change fun tree => tree.makeDirectories [] (names home path)
  now := pure time
  pause _ := pure ()

end FileTree

end BankLedger.Command
