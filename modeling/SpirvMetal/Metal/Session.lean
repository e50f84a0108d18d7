import SpirvMetal.Metal.Helper
import SpirvMetal.Store.Ascending

/-!
What the passes over a program have discovered so far: lines that go ahead of the code, and helpers.
-/

namespace SpirvMetal

structure Session where
  pragmas : List String := []
  headers : List String := []
  typedefs : List String := []
  helpers : List Helper := []

namespace Session

def addLine (line : String) (lines : List String) : Bool × List String :=
  (line ∉ lines, insertAscending (fun a b => a < b) line lines)

def addPragma (session : Session) (line : String) : Bool × Session :=
  let (added, pragmas) := addLine line session.pragmas
  (added, { session with pragmas })

def addHeader (session : Session) (line : String) : Bool × Session :=
  let (added, headers) := addLine line session.headers
  (added, { session with headers })

def addTypedef (session : Session) (line : String) : Bool × Session :=
  let (added, typedefs) := addLine line session.typedefs
  (added, { session with typedefs })

def addHelper (session : Session) (helper : Helper) : Bool × Session :=
  let added := helper.closure.any (· ∉ session.helpers)
  let helpers := helper.closure.foldl
    (fun helpers helper => insertAscending Helper.before helper helpers) session.helpers
  (added, { session with helpers })

def hasHelper (session : Session) (helper : Helper) : Bool := helper ∈ session.helpers

end Session

end SpirvMetal
