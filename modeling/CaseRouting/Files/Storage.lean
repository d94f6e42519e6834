import CaseRouting.Action
import CaseRouting.Text.Utf8

/-!
# Storage

Where whole files are read and written by name. A storage that holds one file in memory stands in
for a disk; its writes are counted and can be made to fail.
-/

namespace CaseRouting.Files

structure Storage (σ : Type) where
  read : String → Action σ Bytes
  write : String → Bytes → Action σ Unit

/-- One file, absent at first if need be, and the message with which writes fail. -/
structure MemoryFile where
  content : Option Bytes
  refusal : Option String
  writes : Nat
  deriving DecidableEq

/-- The storage of one file in memory, under any name. -/
def memory : Storage MemoryFile where
  read path := fun s =>
    match s.content with
    | some bytes => ⟨.ok bytes, s, []⟩
    | none => ⟨.error (.file (.other ("File not found: " ++ path))), s, []⟩
  write _ bytes := fun s =>
    match s.refusal with
    | some message => ⟨.error (.file (.other message)), s, []⟩
    | none => ⟨.ok (), { s with content := some bytes, writes := s.writes + 1 }, []⟩

end CaseRouting.Files
