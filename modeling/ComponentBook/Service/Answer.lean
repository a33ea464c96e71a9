import ComponentBook.Batch.Report
import ComponentBook.Json.Value
import ComponentBook.Service.Request
import ComponentBook.World.Opening

/-! # Answers

The service has a **`Route`** for its health, for the list of its tools, for each operation and for
the pages that describe it to readers, which are not JSON and have no text here.
**`answer`** is the response to a request, in surroundings that the request may change. The settings
are loaded anew for each operation. A request that is not well written is turned down before the
settings are loaded, and one whose payload does not fit after that. The report of an operation is
answered as a JSON object, with one object for each source (**`BatchReport.toJson`**). What cannot be
written as JSON is no answer, whatever has been done. -/

namespace ComponentBook

open Json (Value)

/-- A path as a value. -/
def Path.toJson? (p : Option Path) : Value := .ofText? (p.map Path.text)

/-- What became of a source, as a value. -/
def FileReport.toJson (r : FileReport) : Value := .ofMembers [
  ("path".toList, .text r.path),
  ("success".toList, .boolean r.success),
  ("component".toList, .ofText? r.component),
  ("doc_path".toList, Path.toJson? r.pagePath),
  ("message".toList, .text r.message),
  ("error".toList, .ofText? r.error)]

/-- What became of a run, as a value. -/
def BatchReport.toJson (r : BatchReport) : Value := .ofMembers [
  ("success".toList, .boolean r.success),
  ("processed".toList, .integer r.results.length),
  ("message".toList, .text r.message),
  ("index_path".toList, Path.toJson? r.indexPath),
  ("index_error".toList, .ofText? r.indexError),
  ("results".toList, .array (r.results.map FileReport.toJson))]

end ComponentBook

namespace ComponentBook.Service

open Json (Value Codes)

/-- The name of the service. -/
def title : Text := "CompDoc Service".toList

/-- Where the service listens. -/
structure Address where
  host : Text
  port : Int
  deriving DecidableEq, Repr

/-- The address as it is shown. -/
def Address.text (a : Address) : Text :=
  "http://".toList ++ a.host ++ ':' :: Text.signedDecimal a.port

/-- The places of the service. -/
inductive Route where
  | health
  | tools
  | operation (o : Operation)
  /-- A page that describes the service to readers. -/
  | manual (path : Text)
  deriving DecidableEq, Repr

/-- The path of an operation. -/
def Operation.path : Operation → Text
  | .all => "/docs/all".toList
  | .component => "/docs/component".toList
  | .staged => "/docs/staged".toList

/-- The path of a route. -/
def Route.path : Route → Text
  | .health => "/health".toList
  | .tools => "/tools".toList
  | .operation o => o.path
  | .manual path => path

/-- The method of an operation. -/
def operationMethod : Text := "POST".toList

/-- The methods of a route. -/
def Route.methods : Route → List Text
  | .health | .tools => ["GET".toList]
  | .operation _ => [operationMethod]
  | .manual _ => ["GET".toList, "HEAD".toList]

/-- Every operation. -/
def operations : List Operation := [.all, .component, .staged]

/-- The paths of the pages that describe the service. -/
def manualPaths : List Text :=
  ["/openapi.json".toList, "/docs".toList, "/docs/oauth2-redirect".toList, "/redoc".toList]

/-- Every route. -/
def routes : List Route :=
  manualPaths.map .manual ++ [.health, .tools] ++ operations.map .operation

/-- A response: its status and what it holds. -/
structure Response where
  status : Nat
  body : Value

/-- The name of the member with an explanation. -/
def detailKey : Text := "detail".toList

/-- A response that holds only an explanation. -/
def Response.explain (status : Nat) (detail : Value) : Response where
  status := status
  body := .ofMembers [(detailKey, detail)]

/-- A response that holds only a text. -/
def Response.detail (status : Nat) (detail : Text) : Response := .explain status (.text detail)

/-- The response that holds complaints. -/
def Response.complaints (cs : List Complaint) : Response :=
  .explain 422 (.array (cs.map Complaint.toJson))

/-- A response, if it can be written. -/
def Response.written (r : Response) : Except Failure Response :=
  match r.body.fault? with
  | none => .ok r
  | some fault => .error (.unwritable fault)

/-- The tool that an operation is: its name and what it does. -/
def Operation.tool : Operation → Text × Text
  | .all => ("generate_all_component_docs".toList,
      "Generate documentation for every component.".toList)
  | .component => ("generate_component_doc".toList,
      "Generate documentation for one component.".toList)
  | .staged => ("generate_staged_component_docs".toList,
      "Generate documentation for components staged in git.".toList)

/-- The type of an argument. -/
def typeMember (word : String) : Text × Value := ("type".toList, .text word.toList)

/-- The arguments of an operation, and the names of those that it needs. -/
def Operation.arguments : Operation → List (Text × Value) × List Text
  | .component =>
    ([(nameKey, .ofMembers [typeMember "string",
        ("description".toList, .text "Component name without the file extension.".toList)]),
      (stagingKey, .ofMembers [typeMember "boolean"])], [nameKey])
  | _ => ([(stagingKey, .ofMembers [typeMember "boolean"])], [])

/-- An operation as a tool. -/
def Operation.toJson (o : Operation) : Value := .ofMembers [
  ("name".toList, .text o.tool.1),
  ("description".toList, .text o.tool.2),
  ("method".toList, .text operationMethod),
  ("path".toList, .text o.path),
  ("parameters".toList, .ofMembers [
    typeMember "object",
    ("properties".toList, .ofMembers o.arguments.1),
    ("required".toList, .array (o.arguments.2.map .text))])]

/-- The part of the program that tells about the service. -/
def part : String := "service"

/-- The response to a call that failed. Problems of the project are explained; any other failure is
one of the service. -/
def answerFailure (w : World) (f : Failure) : Except Failure Response × World :=
  match f with
  -- a missing component is an ordinary answer, and is not told in the log
  | .noComponent .. => (.ok (.detail 404 f.message), w)
  | f =>
    if f.isExpected then
      (.ok (.detail 400 f.message),
        w.tell (.of .error part ("Request failed: ".toList ++ f.message)))
    else (.error f, w)

/-- The text about a component that is not there, whatever its name is. -/
def notFound (s : Settings) (name : Codes) : Value :=
  let (front, behind) := notFoundParts s.componentsDirectory.text
  .string (.ofText front ++ name ++ .ofText behind)

/-- The response to a call under the settings of a project. -/
def answerCall (w : World) (s : Settings) (call : Call) : Except Failure Response × World :=
  match (w.forProject s).attempt (call.plan s), call with
  | (.ok report, w), _ => (.ok { status := 200, body := report.toJson }, w)
  | (.error (.noComponent ..), w), .unnameable name => (.ok (.explain 404 (notFound s name)), w)
  | (.error f, w), _ => answerFailure w f

/-- The response to a request for an operation on the project in a directory. -/
def answerOperation (w : World) (root : Path) (o : Operation) (r : Request) :
    Except Failure Response × World :=
  match r.payload with
  | .error .malformed =>
    (.ok (.complaints [{ kind := .notJson, place := [], input := .object [] }]), w)
  | .error _ => (.ok (.detail 400 "There was an error parsing the body".toList), w)
  | .ok payload =>
    match loadSettings w.disk root with
    | .error f => answerFailure w f
    | .ok s =>
      match o.call payload with
      | .error cs => (.ok (.complaints cs), w)
      | .ok call => answerCall w s call

/-- The route with a path, behind which a line feed may stand. -/
def Route.find? (path : Text) : Option Route :=
  routes.find? fun route => path = route.path ∨ path = route.path ++ ['\n']

/-- A path without the slashes behind it. -/
def withoutSlashes (path : Text) : Text := path.dropRightWhile (· = '/')

/-- The response to a request for a path without a route. If there is a route once the slashes behind
the path are left out, the request is sent there. -/
def answerElsewhere (path : Text) : Response :=
  if path.endsWith ['/'] ∧ (Route.find? (withoutSlashes path)).isSome then
    { status := 307, body := .null }
  else .detail 404 "Not Found".toList

/-- What is done for a request, and the response to it. -/
def respond (w : World) (root : Path) (r : Request) : Except Failure Response × World :=
  match Route.find? r.path with
  | none => (.ok (answerElsewhere r.path), w)
  | some route =>
    if !route.methods.contains r.method then (.ok (.detail 405 "Method Not Allowed".toList), w) else
    match route with
    | .health => (.ok { status := 200
                        body := .ofMembers [("status".toList, .text "ok".toList)] }, w)
    | .tools => (.ok { status := 200, body := .array (operations.map Operation.toJson) }, w)
    | .operation o => answerOperation w root o r
    | .manual _ => (.ok { status := 200, body := .null }, w)

/-- The response to a request to the service for the project in a directory. -/
def answer (w : World) (root : Path) (r : Request) : Except Failure Response × World :=
  let (response, w) := respond w root r
  (response.bind Response.written, w)

end ComponentBook.Service
