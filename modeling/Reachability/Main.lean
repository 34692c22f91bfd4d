/-
# The program

The configuration is the only file that is read from the disk; all else runs on a machine
without a network.
-/
import Reachability.Cli.Run

namespace Reachability

/-- The files that a request reads: the configuration, if it can be read. -/
def filesFor (args : List String) : IO File.Tree := do
  let .request ⟨⟨some path, _, _, _⟩, _⟩ := Cli.read args | return {}
  try
    let content ← IO.FS.readBinFile path
    return File.Tree.withFile {} path content.toList
  catch _ => return {}

/-- The identities that are tried, from a random number on. -/
def randomSupply : IO IdentitySupply := do
  let start ← IO.rand 0 (UInt32.size - 1)
  return .ofValues fun n => Int32.ofNat ((start + n * 2654435769) % UInt32.size)

end Reachability

open Reachability in
/-- Runs the program with its arguments. -/
def main (args : List String) : IO UInt32 := do
  let surroundings : Cli.Surroundings PUnit :=
    { storage := { files := ← filesFor args }
      temporary := (← IO.getEnv "TMPDIR").getD "/tmp"
      supply := ← randomSupply
      clock := .ofInstants []
      machine := .standalone
      state := ⟨⟩ }
  let r := Cli.respond args surroundings
  IO.print r.output
  for line in r.errors do IO.eprintln line
  return r.exit.toUInt32
