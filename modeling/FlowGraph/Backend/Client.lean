/-
# The backend over the network

How a call becomes a request, and what a call's caller makes of the answer. The network itself is
not part of this: a request is data, and so is everything that can become of it. Each failed
transport, each refusal by the backend and each unreadable answer is a backend failure.
-/

import FlowGraph.Address.Credentials
import FlowGraph.Backend.Call
import FlowGraph.Json.Encoding
import FlowGraph.Value.Display

namespace FlowGraph

/-- A connection: where the backend is, who asks, and with which token. -/
structure Client where
  base : Address
  organization : String
  token : Option String

/-- The verb of a request. -/
inductive Verb where
  | get
  | post
  deriving DecidableEq, Repr

/-- The name of a verb. -/
def Verb.name : Verb → String
  | get => "GET"
  | post => "POST"

/-- What a call asks for: a path below the workflows of the organization, the pairs of a query, and
a body. A query can be there without pairs. -/
structure Outline where
  verb : Verb
  path : String
  query : Option (List (String × String)) := none
  body : Option Value := none

/-- A request to the backend. -/
structure Request where
  verb : Verb
  path : String
  address : Address
  body : Option Value

/-- The content of an answer, byte by byte. -/
structure Body where
  bytes : List UInt8
  deriving DecidableEq

/-- The content that is a text in the usual encoding. -/
def Body.ofText (s : String) : Body := { bytes := s.toList.flatMap String.utf8EncodeChar }

instance : Coe String Body := ⟨Body.ofText⟩

/-- The JSON value in the content. -/
def Body.json? (body : Body) : Option Value := Json.readArrived? (body.bytes.map UInt8.toNat)

/-- What can become of a request. -/
inductive Transfer where
  /-- There was no answer. -/
  | failed (message : String)
  /-- The request could not be sent: its address cannot be read. -/
  | misaddressed
  /-- An answer arrived. -/
  | answered (status : Int) (body : Body)

namespace Client

/-- The text without slashes at its end. -/
def dropSlashes (s : String) : String :=
  String.ofList (s.toList.reverse.dropWhile fun c => c = '/').reverse

/-- An address, or the failure to read one. -/
def addressed {α : Type} : Option α → Except Failure α
  | some address => .ok address
  | none => .error .badAddress

/-- The connection that settings describe. The address has to be a text that can be read, and the
token to consist of ASCII characters. -/
def ofSettings (settings : Fields Value) : Except Failure Client := do
  let setting := fun name => (Fields.get? settings name).getD .null
  match setting "base_url" with
  | .text text =>
    let base ← addressed ((Address.ofText? (dropSlashes text)).bind Address.withSlash?)
    let token := setting "api_token"
    let shown := token.display
    if token.isTruthy && shown.toList.any fun c => !Punycode.isAscii c then .error .badToken
    else
      return {
        base
        organization := (setting "org_id").trimmedText
        token := if token.isTruthy then some shown else none }
  | _ => .error .notMapping

/-- The authorization that goes with a request: a user in the address comes before the token. -/
def authorization (client : Client) (request : Request) : Option String :=
  request.address.authorization?.or (client.token.map fun token => "Bearer " ++ token)

/-- What each request accepts. -/
def accepted : String := "application/json"

/-- The version to ask for: a positive integer. -/
def versionQuery : Value → Option (List (String × String))
  | .int n => if 0 < n then some [("version", Decimal.intText n)] else none
  | .bool true => some [("version", "true")]
  | _ => none

/-- A value in a query. -/
def queryText : Value → String
  | .null => ""
  | .bool b => if b then "true" else "false"
  | value => value.display

/-- The pairs of a query for what is given under a name: one for each item of a list. -/
def queryPairs (name : String) : Value → List (String × String)
  | .list items => items.map fun item => (name, queryText item)
  | value => [(name, queryText value)]

/-- The query of what is given under some names; null is not given. -/
def queryOf (fields : Fields Value) : Option (List (String × String)) :=
  let given := fields.filter fun (_, value) =>
    match value with
    | .null => false
    | _ => true
  if given.isEmpty then none else some (given.flatMap fun (name, value) => queryPairs name value)

/-- The field, if there is something to say. -/
def fieldIf (isSaid : Bool) (name : String) (value : Value) : Fields Value :=
  if isSaid then [(name, value)] else []

/-- The value is null. -/
def isNull : Value → Bool
  | .null => true
  | _ => false

/-- What a call asks for. -/
def outline : Call → Outline
  | .createTemplate name definition mode description changeNote =>
    { verb := .post, path := "/templates"
      body := some (.object
        [("name", name), ("description", description), ("isActive", .bool true),
         ("definition", definition), ("definitionMode", mode), ("changeNote", changeNote)]) }
  | .createVersion templateId definition mode changeNote =>
    { verb := .post, path := "/templates/" ++ templateId.display ++ "/versions"
      body := some (.object
        [("definition", definition), ("definitionMode", mode), ("changeNote", changeNote)]) }
  | .readDefinition templateId version =>
    { verb := .get, path := "/templates/" ++ templateId.display ++ "/definition"
      query := versionQuery version }
  | .listTemplates includeInactive =>
    { verb := .get, path := "/templates"
      query := if includeInactive.isTruthy then some [("include_inactive", "true")] else none }
  | .startRun templateId version input context key =>
    { verb := .post, path := "/runs/manual"
      body := some (.object
        ([("templateId", templateId), ("input", input), ("context", context),
          ("idempotencyKey", key)] ++ fieldIf (!isNull version) "templateVersion" version)) }
  | .readRun runId => { verb := .get, path := "/runs/" ++ runId.display }
  | .listRuns templateId status limit offset =>
    { verb := .get, path := "/runs"
      query := queryOf
        [("templateId", templateId), ("status", status), ("limit", limit), ("offset", offset)] }
  | .completeTask taskId decision note =>
    { verb := .post, path := "/tasks/" ++ taskId.display ++ "/complete"
      body := some (.object (("decision", decision) :: fieldIf note.isTruthy "note" note)) }

/-- A decision on a task has to be one of the possible ones. -/
def checkDecision : Call → Except Failure Unit
  | .completeTask _ decision _ =>
    if (decision.asText?.map Failure.decisions.contains).getD false then .ok ()
    else .error (.badDecision decision.display)
  | _ => .ok ()

/-- The path under which all workflows of the organization are found. -/
def root (client : Client) : String := "/orgs/" ++ client.organization ++ "/workflows"

/-- A body can be sent if every number in it is finite. -/
def checkBody : Option Value → Except Failure Unit
  | some body => if body.isFinite then .ok () else .error .notFinite
  | none => .ok ()

/-- The request that a call sends. Without an organization nothing can be asked for. -/
def request (client : Client) (call : Call) : Except Failure Request := do
  checkDecision call
  if client.organization = "" then .error (.backend "No org selected" none)
  else
    let outline := outline call
    let path := client.root ++ outline.path
    let below ← addressed ((Address.ofText? path).bind client.base.below?)
    let address ←
      match outline.query with
      | some pairs => addressed (below.withPairs? pairs)
      | none => .ok below
    checkBody outline.body
    return { verb := outline.verb, path, address, body := outline.body }

/-- The status stands for a refusal. -/
def isRefusal (status : Int) : Bool := 400 ≤ status && status ≤ 599

/-- The fields in which a refusal may be explained, first come first. -/
def explanationFields : List String := ["message", "error", "detail"]

/-- The explanation under a field: a text that is not blank. -/
def explanation? (payload : Value) (field : String) : Option String :=
  match payload.field field with
  | .text s => if Text.trim s = "" then none else some (Text.trim s)
  | _ => none

/-- The wording of a refusal. -/
def refusal (status : Int) (body : Body) : String :=
  (explanationFields.findSome? (explanation? (body.json?.getD .null))).getD
    ("Workflow backend returned HTTP " ++ Decimal.intText status)

/-- What a call's caller gets: the object that was sent back, or a failure. No content counts as
an empty object, and what is no object is wrapped in one. An answer from an address that does not
tell how to go there is not looked at. -/
def receive (request : Request) : Transfer → Reply
  | .failed message => .error (.backend ("Request to workflow backend failed: " ++ message) none)
  | .misaddressed => .error .badAddress
  | .answered status body =>
    if !request.address.isOpenable then .error (.unknownScheme request.address.shown)
    else if isRefusal status then .error (.backend (refusal status body) (some status))
    else if body.bytes = [] then .ok (.object [])
    else
      match body.json? with
      | some (.object fields) => .ok (.object fields)
      | some value => .ok (.object [("data", value)])
      | none =>
        .error (.backend
          ("Workflow backend returned invalid JSON for " ++ request.verb.name ++ " "
            ++ request.path) (some status))

end Client

end FlowGraph
