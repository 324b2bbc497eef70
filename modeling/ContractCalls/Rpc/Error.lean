import ContractCalls.Json.Parser
import ContractCalls.Text.Lower

/-!
# Errors of a node

What goes wrong between a client and its node, the text of such an error, and what the text says
about its cause.
-/

namespace ContractCalls

/-- An error that a node reports, with data as JSON text. -/
structure ErrorResponse where
  code : Int
  message : String
  data : Option String
  deriving DecidableEq, Repr, Inhabited

/-- An error of a request to a node. -/
inductive RpcError where
  | response (error : ErrorResponse)
  /-- A null answer where there has to be one. -/
  | nullResponse
  | unsupported (feature : String)
  | localUsage (message : String)
  /-- A result that cannot be read, with what is wrong with it and its text. -/
  | unreadable (message result : String)
  | custom (message : String)
  | backendGone
  | noSubscriptions
  | http (status : Nat) (body : String)
  deriving DecidableEq, Repr, Inhabited

namespace RpcError

def text : RpcError → String
  | response error =>
    s!"server returned an error response: error code {error.code}: {error.message}" ++
      error.data.elim "" fun data => s!", data: {data}"
  | nullResponse => "server returned a null response when a non-null response was expected"
  | unsupported feature => s!"unsupported feature: {feature}"
  | localUsage message => s!"local usage error: {message}"
  | unreadable message result => s!"deserialization error: {message}\n{result}"
  | custom message => message
  | backendGone => "backend connection task has stopped"
  | noSubscriptions => "subscriptions are not available on this provider"
  | http status body =>
    if body.isEmpty then s!"HTTP error {status} with empty body"
    else s!"HTTP error {status} with body: {body}"

end RpcError

/-- What the text of an error says about its cause. -/
inductive ErrorKind where
  | executionReverted
  | alreadyKnown
  | networkError
  | unknown
  deriving DecidableEq, Repr, Inhabited

namespace ErrorKind

def revertWordings : List String :=
  ["execution reverted", "revert", "vm exception"]

def knownWordings : List String :=
  ["already known", "already imported", "transaction already exists", "known transaction"]

def networkWordings : List String :=
  ["connection", "timeout", "timed out", "network", "transport", "eof", "broken pipe"]

/-- The first kind of which a wording stands in the message, in whatever case. -/
def ofMessage (message : String) : ErrorKind :=
  let s := Text.lower message
  let mentions (wordings : List String) : Bool := wordings.any (Text.contains ·.toList s)
  if mentions revertWordings then executionReverted
  else if mentions knownWordings then alreadyKnown
  else if mentions networkWordings then networkError
  else unknown

/-- Only trouble with the network passes by itself. -/
def isRetryable (kind : ErrorKind) : Bool :=
  kind == networkError

def isRevert (kind : ErrorKind) : Bool :=
  kind == executionReverted

end ErrorKind

def RpcError.kind (error : RpcError) : ErrorKind :=
  .ofMessage error.text

/-- The bytes in the data of an error: a JSON string of hexadecimal digits or an array of numbers
below
256. -/
def ErrorResponse.bytes? (error : ErrorResponse) : Option Bytes :=
  error.data >>= Json.parse? >>= Json.bytes?

end ContractCalls
