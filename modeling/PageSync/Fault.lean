import PageSync.Json.Literal

/-!
# Fault — what can go wrong

An error of the service has a kind, a message, a context and possibly a cause. The other faults are
failures below the service, answers that cannot be read, and failures of the caller's own parts.
-/

namespace PageSync

/-- The kinds of errors of the service. -/
inductive ErrorKind where
  | custom (code : String)
  | validation
  | auth
  | permission
  | notFound
  | conflict
  | rateLimit
  | server
  | network
  | batch
  deriving DecidableEq, Repr

namespace ErrorKind

/-- The kinds with a fixed code, in order. -/
def coded : List ErrorKind :=
  [.validation, .auth, .permission, .notFound, .conflict, .rateLimit, .server, .network, .batch]

/-- The code of a kind. -/
def code : ErrorKind → String
  | .custom code => code
  | .validation => "VALIDATION_ERROR"
  | .auth => "AUTH_ERROR"
  | .permission => "PERMISSION_ERROR"
  | .notFound => "NOT_FOUND"
  | .conflict => "CONFLICT"
  | .rateLimit => "RATE_LIMITED"
  | .server => "SERVER_ERROR"
  | .network => "NETWORK_ERROR"
  | .batch => "BATCH_FAILED"

/-- The name of a kind. -/
def name : ErrorKind → String
  | .custom _ => "Drive2NotionError"
  | .validation => "Drive2NotionValidationError"
  | .auth => "Drive2NotionAuthError"
  | .permission => "Drive2NotionPermissionError"
  | .notFound => "Drive2NotionNotFoundError"
  | .conflict => "Drive2NotionConflictError"
  | .rateLimit => "Drive2NotionRateLimitError"
  | .server => "Drive2NotionServerError"
  | .network => "Drive2NotionNetworkError"
  | .batch => "Drive2NotionBatchError"

/-- The code in a log: a fixed code shows that it is one. -/
def codeText : ErrorKind → String
  | .custom code => code
  | kind => "ErrorCode." ++ kind.code

/-- The code in a representation. -/
def codeLiteral : ErrorKind → String
  | .custom code => Text.quoted code
  | kind => "<ErrorCode." ++ kind.code ++ ": '" ++ kind.code ++ "'>"

/-- The kind of a name; a name that is not known has none. -/
def ofName? (name code : String) : Option ErrorKind :=
  if name = "Drive2NotionError" then some (.custom code)
  else coded.find? fun kind => kind.name == name

end ErrorKind

/-- Failures below the service. -/
inductive HttpFailure where
  | connectError
  | readError
  | writeError
  | closeError
  | connectTimeout
  | readTimeout
  | writeTimeout
  | poolTimeout
  | remoteProtocolError
  | localProtocolError
  | proxyError
  | unsupportedProtocol
  | decodingError
  | tooManyRedirects
  deriving DecidableEq, Repr

namespace HttpFailure

/-- Every failure. -/
def all : List HttpFailure :=
  [.connectError, .readError, .writeError, .closeError, .connectTimeout, .readTimeout,
    .writeTimeout, .poolTimeout, .remoteProtocolError, .localProtocolError, .proxyError,
    .unsupportedProtocol, .decodingError, .tooManyRedirects]

/-- The name of a failure. -/
def name : HttpFailure → String
  | .connectError => "ConnectError"
  | .readError => "ReadError"
  | .writeError => "WriteError"
  | .closeError => "CloseError"
  | .connectTimeout => "ConnectTimeout"
  | .readTimeout => "ReadTimeout"
  | .writeTimeout => "WriteTimeout"
  | .poolTimeout => "PoolTimeout"
  | .remoteProtocolError => "RemoteProtocolError"
  | .localProtocolError => "LocalProtocolError"
  | .proxyError => "ProxyError"
  | .unsupportedProtocol => "UnsupportedProtocol"
  | .decodingError => "DecodingError"
  | .tooManyRedirects => "TooManyRedirects"

/-- The failure of a name. -/
def ofName? (name : String) : Option HttpFailure :=
  all.find? fun f => f.name == name

/-- Whether the network failed: it could not be reached, or it took too long. -/
def isNetwork : HttpFailure → Bool
  | .connectError | .readError | .writeError | .closeError => true
  | .connectTimeout | .readTimeout | .writeTimeout | .poolTimeout => true
  | _ => false

end HttpFailure

/-- What can go wrong. -/
inductive Fault where
  | error (kind : ErrorKind) (message : String) (context : Fields) (cause : Option Fault)
  | http (failure : HttpFailure) (message : String)
  /-- A part of the caller failed. -/
  | foreign (message : String)
  /-- An answer lacks a name. -/
  | missing (name : String)
  /-- An answer is no JSON. -/
  | undecodable
  /-- A value is not of the shape that an operation needs. -/
  | wrongShape
  /-- A value lacks an operation. -/
  | wrongKind
  /-- An address cannot be requested. -/
  | badAddress
  /-- A header cannot be sent. -/
  | badHeader
  /-- A value cannot be sent. -/
  | unsendable
  deriving Inhabited

namespace Fault

/-- The kind of an error of the service. -/
def kind? : Fault → Option ErrorKind
  | .error kind _ _ _ => some kind
  | _ => none

/-- The name of the kind of a fault. -/
def name : Fault → String
  | .error kind _ _ _ => kind.name
  | .http failure _ => failure.name
  | .foreign _ => "FakeFailure"
  | .missing _ => "KeyError"
  | .undecodable => "JSONDecodeError"
  | .wrongShape => "TypeError"
  | .wrongKind => "AttributeError"
  | .badAddress => "InvalidURL"
  | .badHeader => "UnicodeEncodeError"
  | .unsendable => "ValueError"

/-- The message of a fault, where it has one of its own. -/
def message? : Fault → Option String
  | .error _ message _ _ => some message
  | .http _ message => some message
  | .foreign message => some message
  | .missing name => some (Text.quoted name)
  | .unsendable => some "Out of range float values are not JSON compliant"
  | _ => none

/-- The message of a fault. -/
def message (f : Fault) : String :=
  f.message?.getD ""

/-- A fault in one line. -/
def shown : Fault → String
  | .error kind message context _ =>
    let context := if context.isEmpty then "" else ", context=" ++ (Json.obj context).literal
    kind.name ++ "(code=" ++ kind.codeLiteral ++ ", message=" ++ Text.quoted message ++ context ++
      ")"
  | f => f.name ++ "(" ++ Text.quoted f.message ++ ")"

/-- The name of the kind of a fault with the place where it is known from. -/
def qualifiedName : Fault → String
  | .error kind _ _ _ => "drive2notion.errors." ++ kind.name
  | f => f.name

/-- A fault as it stands in a log: its kind and, where it says something, its message. -/
def logText (f : Fault) : String :=
  if f.message = "" then f.qualifiedName else f.qualifiedName ++ ": " ++ f.message

end Fault

end PageSync
