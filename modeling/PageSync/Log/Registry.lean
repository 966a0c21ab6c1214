import PageSync.Log.Record
import PageSync.Text.Case
import PageSync.Text.Quoted

/-!
# Log/Registry — loggers by name

Names are ordered by their dots: `a` stands above `a.b`, and the root above all.  A logger is made
when its name is first asked for, and hangs below the nearest one above it that has been made.  It
is configured once: it gets a level, a handler with a sink of its own, and passes nothing on; later
requests for its name change nothing.  A record goes to the handlers of its logger, and of those
above it as far as each passes it on, when its level reaches the one that counts for the logger: its
own or, at level `0`, that of the nearest logger above it with another one.
-/

namespace PageSync.Log

/-! ## Levels -/

/-- A level as it is asked for. -/
inductive Threshold where
  | level (n : Int)
  | named (name : String)
  deriving DecidableEq, Repr

/-- A name that no level has. -/
structure UnknownLevel where
  name : String
  deriving DecidableEq, Repr

/-- The wording of a refused level. -/
def UnknownLevel.message (e : UnknownLevel) : String :=
  "Unknown log level: " ++ Text.quoted e.name

/-- The levels by name. -/
def namedLevels : Fields :=
  [("CRITICAL", .int 50), ("FATAL", .int 50), ("ERROR", .int 40), ("WARN", .int 30),
    ("WARNING", .int 30), ("INFO", .int 20), ("DEBUG", .int 10), ("NOTSET", .int 0)]

/-- The level that is asked for; the case of a name does not matter. -/
def Threshold.resolve : Threshold → Except UnknownLevel Int
  | .level n => .ok n
  | .named name =>
    match (namedLevels.lookup (Text.upper name)).bind (·.int?) with
    | some n => .ok n
    | none => .error ⟨name⟩

/-! ## Loggers -/

/-- Where a handler writes. -/
inductive Sink where
  | standardError
  /-- A stream that was handed in. -/
  | stream (name : String)
  deriving DecidableEq, Repr

/-- The sink of a handler, for a stream that may be handed in. -/
def Sink.ofStream? : Option String → Sink
  | some name => .stream name
  | none => .standardError

/-- A logger: its level, the sinks of its handlers, and whether it passes records on to the one
above it. -/
structure Logger where
  level : Int
  sinks : List Sink
  propagates : Bool
  deriving DecidableEq, Repr

/-- A logger as it is made. -/
def Logger.blank : Logger :=
  ⟨0, [], true⟩

/-- The logger above all others. -/
def Logger.root : Logger :=
  ⟨warning, [], true⟩

/-! ## Names -/

/-- The name of the logger above all others. -/
def rootName : String :=
  "root"

/-- The name of the logger of a name: the empty name is the root's. -/
def canonical (name : String) : String :=
  if name = "" then rootName else name

/-- What stands before each dot of a name, nearest first, where the name and the parts are read last
character first.  Of two dots in a row only the last counts, and one at the start does not. -/
def beforeDots : List Char → List (List Char)
  | '.' :: c :: rest => (c :: rest) :: beforeDots rest
  | _ :: rest => beforeDots rest
  | [] => []

/-- **The names above a name**, nearest first. -/
def above (name : String) : List String :=
  (beforeDots name.toList.reverse).map fun cs => String.ofList cs.reverse

theorem length_lt_of_mem_beforeDots {cs part : List Char} (h : part ∈ beforeDots cs) :
    part.length < cs.length := by
  fun_induction beforeDots cs with
  | case1 c rest ih =>
    rcases List.mem_cons.mp h with rfl | h
    · exact Nat.lt_succ_self _
    · exact Nat.lt_trans (ih h) (Nat.lt_succ_of_lt (Nat.lt_succ_self _))
  | case2 c rest _ ih => exact Nat.lt_trans (ih h) (Nat.lt_succ_self _)
  | case3 => exact absurd h List.not_mem_nil

/-- A name above another is shorter. -/
theorem length_lt_of_mem_above {name p : String} (h : p ∈ above name) : p.length < name.length := by
  obtain ⟨cs, hcs, rfl⟩ := List.mem_map.mp h
  have := length_lt_of_mem_beforeDots hcs
  rwa [List.length_reverse, String.length_toList, ← List.length_reverse,
    ← String.length_ofList] at this

/-- A logger that has been made, and the one it hangs below; without one that is the root. -/
structure Place where
  name : String
  parent : Option String
  shorter : ∀ p, parent = some p → p.length < name.length

/-- A place after a logger has been made: one below the name hangs below the new logger from now on,
unless it hangs below one whose name begins with the new name. -/
def Place.adoptedBy (place : Place) (name : String) : Place :=
  if h : name ∈ above place.name ∧ ¬ name.toList <+: (place.parent.getD rootName).toList then
    ⟨place.name, some name, by rintro p ⟨⟩; exact length_lt_of_mem_above h.1⟩
  else place

/-! ## The registry -/

/-- Every logger, as it stands. -/
structure Registry where
  /-- The names that have been configured. -/
  configured : List String
  /-- What loggers have been set to, the latest first. -/
  settings : List (String × Logger)
  /-- The loggers that have been made, except for the root. -/
  tree : List Place
  /-- What is known of loggers and levels: whether records of the level are written. -/
  verdicts : List ((String × Int) × Bool)

namespace Registry

/-- No logger has been asked for. -/
def empty : Registry :=
  ⟨[], [], [], []⟩

/-- The logger of a name. -/
def logger (r : Registry) (name : String) : Logger :=
  (r.settings.lookup (canonical name)).getD (if canonical name = rootName then .root else .blank)

/-- The place of a name, once its logger has been made. -/
def place? (r : Registry) (name : String) : Option Place :=
  r.tree.find? (·.name = name)

/-- Whether the logger of a name has been made. -/
def isMade (r : Registry) (name : String) : Bool :=
  (r.place? name).isSome

/-- The place of a new logger: below the nearest one above it that has been made. -/
def newPlace (r : Registry) (name : String) : Place where
  name := name
  parent := (above name).find? r.isMade
  shorter _ h := length_lt_of_mem_above (List.mem_of_find?_eq_some h)

/-- **Make the logger of a name**, unless it is there. -/
def made (r : Registry) (name : String) : Registry :=
  if canonical name = rootName || r.isMade name then r
  else { r with tree := r.newPlace name :: r.tree.map (·.adoptedBy name) }

/-- Set a logger to a level, with one more handler, and let it pass nothing on.  What was known of
levels is forgotten. -/
def configure (r : Registry) (name : String) (level : Int) (sink : Sink) : Registry :=
  { r with
    configured := name :: r.configured
    settings := (canonical name, ⟨level, (r.logger name).sinks ++ [sink], false⟩) :: r.settings
    verdicts := [] }

/-- **Ask for a logger**: the first request for a name with a level that is known configures it. -/
def get (r : Registry) (name : String) (level : Threshold := .level debug)
    (stream : Option String := none) : Except UnknownLevel String × Registry :=
  let r := r.made name
  if name ∈ r.configured then (.ok (canonical name), r)
  else
    match level.resolve with
    | .ok n => (.ok (canonical name), r.configure name n (.ofStream? stream))
    | .error e => (.error e, r)

/-! ## Effective levels -/

/-- The logger above one, unless it is the root. -/
def parent? (r : Registry) (name : String) : Option String :=
  (r.place? name).bind (·.parent)

theorem length_lt_of_parent? {r : Registry} {name p : String} (h : r.parent? name = some p) :
    p.length < name.length := by
  obtain ⟨place, hplace, hp⟩ := Option.bind_eq_some_iff.mp h
  have hname : place.name = name := by simpa using List.find?_some hplace
  exact hname ▸ place.shorter p hp

/-- **A logger and those above it**, up to the root. -/
def lineage (r : Registry) (name : String) : List String :=
  match _h : r.parent? name with
  | some p => name :: r.lineage p
  | none => if name = rootName then [rootName] else [name, rootName]
termination_by name.length
decreasing_by exact length_lt_of_parent? _h

/-- The first level of some loggers that is not `0`. -/
def firstLevel (r : Registry) (names : List String) : Int :=
  ((names.map fun n => (r.logger n).level).find? (· ≠ 0)).getD 0

/-- **The level that counts for a logger**: its own, or that of the nearest one above it with
one. -/
def effectiveLevel (r : Registry) (name : String) : Int :=
  r.firstLevel (r.lineage name)

/-- Whether a logger writes records of a level; those at level `0` or below are never written. -/
def admits (r : Registry) (name : String) (level : Int) : Bool :=
  0 < level && r.effectiveLevel name ≤ level

/-- What is known of a logger and a level, which is found out at most once. -/
def judge (r : Registry) (name : String) (level : Int) : Bool × Registry :=
  match r.verdicts.lookup (name, level) with
  | some known => (known, r)
  | none =>
    (r.admits name level, { r with verdicts := ((name, level), r.admits name level) :: r.verdicts })

/-! ## Records -/

/-- The sinks of some loggers in a row, as far as each passes records on to the next. -/
def sinksOf (r : Registry) : List String → List Sink
  | [] => []
  | n :: rest => (r.logger n).sinks ++ if (r.logger n).propagates then r.sinksOf rest else []

/-- **Log a record** at a time: the lines that are written, each with its sink. -/
def log (r : Registry) (record : Record) (time : String) : List (Sink × String) × Registry :=
  let (written, r) := (r.made record.logger).judge record.logger record.level
  (if written then (r.sinksOf (r.lineage record.logger)).map (·, record.line time) else [], r)

end Registry

end PageSync.Log
