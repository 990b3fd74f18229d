import Lending.Json.Access
import Lending.Json.Body
import Lending.Reply
import Lending.Storage.Address

/-! # Storage clients

Requests to storage for one tenant, and the records in the answers.
-/

namespace Lending

/-- How a request to storage ends. An answer may be such that it cannot be written. -/
inductive StorageAnswer where
  | response (status : Int) (body : List UInt8)
  | unwritable (fault : DataFault)
  | timedOut
  | failed (reason : Text)
deriving DecidableEq, Repr

structure Response where
  status : Int
  body : List UInt8
deriving DecidableEq, Repr

/-- The body as a text, with replacement characters for bytes that write none. -/
def Response.text (r : Response) : String :=
  String.ofList (Text.Utf8.decode (r.body.map UInt8.toNat))

/-- The storage behind a gateway: what it answers to each request. -/
abbrev Storage := SentRequest → StorageAnswer

/-- A gateway and the tenant, token and patience to speak to it with. Tenant and token are given as
they are set; only a text can be sent. -/
structure Client where
  storage : Storage
  baseUrl : Text
  tenant : Json
  token : Option Json
  timeout : Text

namespace Client

def defaultUrl : Text := "http://localhost:9130"

def defaultTenant : Text := "diku"

def defaultTimeout : Text := "5.0"

def withoutSlashes (url : Text) : Text :=
  .ofList (url.toList.reverse.dropWhile (· == .char '/')).reverse

/-- A client with defaults for settings that do not count; a token that does not count is none. -/
def make (storage : Storage) (baseUrl tenant token timeout : Json) : Result Client := do
  return {
    storage
    baseUrl := withoutSlashes ((← baseUrl.textIfAny).getD defaultUrl)
    tenant := if tenant.counts then tenant else .str defaultTenant
    token := if token.counts then some token else none
    timeout := if timeout.counts then timeout.inline else defaultTimeout }

def parameterText : Json → Text
  | .null => ""
  | .bool b => if b then "true" else "false"
  | v => v.inline

/-- The parameters of a query that a value makes: one for each item of a list. -/
def parameter (name : Text) : Json → List (Text × Text)
  | .arr items => items.map fun v => (name, parameterText v)
  | v => [(name, parameterText v)]

/-- A setting as it is sent along; only ASCII can be sent. -/
def headerText : Json → Result String
  | .str s =>
    Result.orFail .unencodable ((s.chars?.filter HostName.isAscii).map String.ofList)
  | _ => .error .wrongType

/-- The first name of a path, by which requests are counted. -/
def areaOf (path : Text) : Text :=
  match Text.pieces (· == .char '/') path.toList with
  | _ :: area :: _ => .ofList area
  | _ => ""

def requestTo (c : Client) (address : Address) (params : Option (List (Text × Text))) :
    Result SentRequest := do
  let tenant ← headerText c.tenant
  let token ← c.token.mapM headerText
  let address ← address.forRequest params
  address.checkHost
  return { url := address.text, path := address.target, params := params.getD [], tenant, token }

/-- What a request's end means for the one who made it. An answer from an address that does not say
where to go cannot be used. -/
def outcome (c : Client) (path : Text) (isAbsolute : Bool) : StorageAnswer → Result Response
  | .response status body => if isAbsolute then .ok { status, body } else Result.fail .malformed
  | .unwritable fault => Result.fail fault
  | .timedOut => .error (.outage (.timedOut c.timeout path))
  | .failed reason => .error (.outage (.unreachable reason))

/-- Ask storage; a request that cannot be made is counted too. -/
def get (c : Client) (path : Text) (params : Option (List (Text × Text))) :
    Reply Response := do
  let area := Counter.storageRequest (areaOf path)
  let made : Result (Address × SentRequest) := do
    let address ← Address.ofText (c.baseUrl ++ path)
    return (address, ← c.requestTo address params)
  match made with
  | .error e =>
    Reply.count area 1
    Reply.ofResult (.error e)
  | .ok (address, request) =>
    Reply.note (.sent request)
    Reply.count area 1
    c.outcome path address.isAbsolute (c.storage request)

/-- A record by its path; `missing` is the answer where storage has none. -/
def fetchRecord (c : Client) (path : Text) (recordType : String) (missing : Result Json) :
    Reply Json := do
  let response ← c.get path none
  if response.status = 200 then
    match Json.ofBody response.body with
    | .ok record => return record
    | .error .depth => Reply.ofResult (Result.fail .tooDeep)
    | .error e => Reply.fail (.broken (.invalidRecord recordType e.message))
  else if response.status = 404 then missing
  else Reply.fail (.broken (.fetchFailed recordType response.status response.text))

def unreadableFault : Json.Unreadable → DataFault
  | .bytes .. => .undecodable
  | .digits _ => .malformed
  | .depth => .tooDeep
  | .text _ => .notJson

/-- The answer to a request that has no record behind it. -/
def bodyOf (response : Response) : Result Json :=
  (Json.ofBody response.body).mapError fun e => .data (unreadableFault e)

end Client

end Lending
