import AccountWire.Echo.Error
import AccountWire.Text.Utf8

/-!
# Fixtures

Canned bodies lie in files.  Loading one gives the content as it is.
-/

namespace AccountWire.Echo

/-- What lies at a path. -/
inductive FileEntry where
  | missing
  | directory
  | file (content : Bytes)
deriving DecidableEq, Repr

/-- Loads a fixture. -/
def loadFixture : FileEntry → Except Error Bytes
  | .missing => .error (.io .notFound)
  | .directory => .error (.io .isADirectory)
  | .file content => .ok content

/-- The environment variable that chooses what is logged. -/
def logVariable : String := "ECHOBACK_LOG"

end AccountWire.Echo
