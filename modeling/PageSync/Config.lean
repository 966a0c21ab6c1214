import PageSync.Json.Literal
import PageSync.Text.Search
import PageSync.Url.Host

/-!
# Config — settings that have been accepted

Settings are accepted when the token cannot travel in clear to another machine, the timeout is
positive and a batch holds between one block and as many as one request takes. A `Config` carries
the proof that its settings were accepted.
-/

namespace PageSync

/-- The most blocks that one request takes. -/
def maxBlocksPerRequest : Nat :=
  100

/-- A number of seconds, whole or not. -/
inductive Seconds where
  | whole (n : Int)
  | float (x : Binary64)
  deriving DecidableEq, Repr

namespace Seconds

/-- Whether a time is zero or less. What is not a number is neither. -/
def isNotPositive : Seconds → Bool
  | .whole n => n ≤ 0
  | .float x => !x.isPositive && !x.isNan

/-- The value of a time. -/
def toJson : Seconds → Json
  | .whole n => .int n
  | .float x => .float x

end Seconds

/-- Settings as they are given. -/
structure Settings where
  token : String
  notionVersion : String
  baseUrl : String
  timeout : Seconds
  proxy : Option String
  batchSize : Int
  titleProperty : String
  keyProperty : String
  modifiedProperty : String
  /-- Record metrics. -/
  recordMetrics : Bool
  /-- Show the canonical document of each conversion. -/
  dumpAst : Bool
  /-- Show what is converted and what is exchanged, without secrets. -/
  dumpPayload : Bool
  deriving DecidableEq

namespace Settings

/-- The settings that hold where nothing is given. -/
def default : Settings where
  token := ""
  notionVersion := "2022-06-28"
  baseUrl := "https://api.notion.com/v1"
  timeout := .float (.ofRatio false 30 1)
  proxy := none
  batchSize := maxBlocksPerRequest
  titleProperty := "Name"
  keyProperty := "Drive File ID"
  modifiedProperty := "Drive Modified"
  recordMetrics := false
  dumpAst := false
  dumpPayload := false

/-- Why settings are refused. -/
inductive Fault where
  | address (fault : Url.HostFault)
  | insecure (host : Option String)
  | timeout (seconds : Seconds)
  | batchSize (size : Int)
  deriving DecidableEq, Repr

/-- The wording of a refusal. -/
def Fault.message : Fault → String
  | .address fault => fault.message
  | .insecure host =>
    "base_url uses insecure HTTP for non-local host '" ++ host.getD "None" ++ "'. " ++
      "Use HTTPS to protect your API token, or target localhost for testing."
  | .timeout seconds => "timeout_seconds must be > 0, got " ++ seconds.toJson.literal
  | .batchSize size =>
    "batch_size must be between 1 and " ++ (Json.int maxBlocksPerRequest).literal ++ ", got " ++
      (Json.int size).literal

/-- The hosts to which requests may go in clear. -/
def localHosts : List String :=
  ["localhost", "127.0.0.1", "::1"]

/-- Whether requests to an address stay secret or stay on this machine. -/
def isSecure (scheme : String) (host : Option String) : Bool :=
  scheme != "http" || (host.map localHosts.contains).getD false

/-- **Check settings**: the address first, then the timeout, then the size of batches. -/
def check (s : Settings) : Except Fault Unit :=
  match Url.schemeAndHost s.baseUrl with
  | .error fault => .error (.address fault)
  | .ok (scheme, host) =>
    if !isSecure scheme host then .error (.insecure host)
    else if s.timeout.isNotPositive then .error (.timeout s.timeout)
    else if s.batchSize < 1 ∨ (maxBlocksPerRequest : Int) < s.batchSize then
      .error (.batchSize s.batchSize)
    else .ok ()

/-- The settings by name, in order. -/
def entries (s : Settings) : Fields :=
  [("token", .str s.token),
    ("notion_version", .str s.notionVersion),
    ("base_url", .str s.baseUrl),
    ("timeout_seconds", s.timeout.toJson),
    ("http_proxy", .ofString? s.proxy),
    ("batch_size", .int s.batchSize),
    ("title_property", .str s.titleProperty),
    ("key_property", .str s.keyProperty),
    ("modified_property", .str s.modifiedProperty),
    ("metrics", .null),
    ("debug_dump_ast", .bool s.dumpAst),
    ("debug_dump_payload", .bool s.dumpPayload)]

/-- What is shown of a token: its end, if it has four characters or more. -/
def tokenHint (token : String) : String :=
  let cs := token.toList
  if cs.length ≥ 4 then "..." ++ String.ofList (Text.takeLast 4 cs) else "****"

/-- What is shown of an entry. What records metrics is shown by a text of its own. -/
def entryText (recorder : Option String) (name : String) (value : Json) : String :=
  match name, value with
  | "token", .str token => "token='" ++ tokenHint token ++ "'"
  | "metrics", _ => "metrics=" ++ recorder.getD "None"
  | _, _ => name ++ "=" ++ value.literal

end Settings

/-- Settings that have been accepted. -/
structure Config where
  settings : Settings
  accepted : settings.check = .ok ()

namespace Config

/-- Accept settings, or say why not. -/
def ofSettings (s : Settings) : Except Settings.Fault Config :=
  match h : s.check with
  | .ok () => .ok ⟨s, h⟩
  | .error fault => .error fault

/-- **What is shown of a configuration**: everything but the token, and the given text for what
records metrics, if something does. -/
def shown (c : Config) (recorder : String) : String :=
  let recorder := if c.settings.recordMetrics then some recorder else none
  let entries := c.settings.entries.map fun (name, value) =>
    Settings.entryText recorder name value
  "Drive2NotionConfig(" ++ ", ".intercalate entries ++ ")"

/-- The number of blocks in a batch. -/
def batchSize (c : Config) : Int :=
  c.settings.batchSize

theorem batchSize_bounds (c : Config) : 1 ≤ c.batchSize ∧ c.batchSize ≤ 100 := by
  have h := c.accepted
  unfold Settings.check at h
  split at h
  · simp at h
  · split at h
    · simp at h
    · split at h
      · simp at h
      · split at h
        · simp at h
        · next hb =>
          simp only [maxBlocksPerRequest, not_or, Int.not_lt] at hb
          exact hb

theorem toNat_batchSize_pos (c : Config) : 0 < c.batchSize.toNat := by
  have h := c.batchSize_bounds
  omega

theorem toNat_batchSize_le (c : Config) : c.batchSize.toNat ≤ 100 := by
  have h := c.batchSize_bounds
  omega

end Config

end PageSync
