import PageSync.Blocking.Session
import PageSync.Suspending.Session

/-!
# Proofs/Session/Operation — what a client is asked to do

A session opens a connection and carries out operations one after the other.  An operation that
fails has its fault as a reply and the next one goes on from the world that it left.  The blocking
and the suspending client are asked for the same operations, each by parts of its own.
-/

namespace PageSync

/-- An operation of a client with its arguments. -/
inductive Operation where
  | convert (markdown : String)
  | findPage (database : Json) (key : String)
  | createPage (database : Json) (title markdown : String) (key modified : Option String)
      (extra : Fields)
  | replacePage (page : Json) (markdown : String) (modified : Option String)

/-- What an operation gives. -/
inductive Reply where
  | converted (conversion : Conversion)
  | found (page : Option Json)
  | created (result : Created)
  | replaced (result : Replaced)

/-- The replies to operations that are carried out one after the other. -/
def Operation.repliesTo {σ : Type} (perform : Operation → World σ → Except Fault Reply × World σ) :
    List Operation → World σ → List (Except Fault Reply) × World σ
  | [], w => ([], w)
  | op :: rest, w =>
    let (reply, w) := perform op w
    let (replies, w) := repliesTo perform rest w
    (reply :: replies, w)

namespace Blocking

variable {σ : Type}

/-- Carry out an operation. -/
def Channel.perform (ch : Channel σ) : Operation → Action σ Reply
  | .convert markdown => do return .converted (← ch.convert markdown)
  | .findPage database key => do return .found (← ch.findPage database key)
  | .createPage database title markdown key modified extra => do
    return .created (← ch.createPageFrom database title markdown key modified extra)
  | .replacePage page markdown modified => do
    return .replaced (← ch.replacePageFrom page markdown modified)

/-- **A session of a client that blocks.** -/
def session (k : Config) (n : Network σ) (ops : List Operation) (w : World σ) :
    Except Fault (List (Except Fault Reply) × World σ) :=
  (Connection.ofConfig k).map fun c =>
    Operation.repliesTo (fun op => ((⟨c, n⟩ : Channel σ).perform op).run) ops w

end Blocking

namespace Suspending

variable {σ : Type}

/-- Carry out an operation. -/
def Channel.perform (ch : Channel σ) : Operation → Task σ Reply
  | .convert markdown => do return .converted (← ch.convert markdown)
  | .findPage database key => do return .found (← ch.findPage database key)
  | .createPage database title markdown key modified extra => do
    return .created (← ch.createPageFrom database title markdown key modified extra)
  | .replacePage page markdown modified => do
    return .replaced (← ch.replacePageFrom page markdown modified)

/-- **A session of a client that gives way**: each operation is run to its end before the next one
begins. -/
def session (k : Config) (n : Network σ) (ops : List Operation) (w : World σ) :
    Except Fault (List (Except Fault Reply) × World σ) :=
  (Connection.ofConfig k).map fun c =>
    Operation.repliesTo (fun op => ((⟨c, n⟩ : Channel σ).perform op).run) ops w

end Suspending

end PageSync
