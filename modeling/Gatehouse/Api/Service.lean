import Gatehouse.Api.Bearer
import Gatehouse.Api.Requests
import Gatehouse.Api.Responses
import Gatehouse.Api.Route
import Gatehouse.Directory.Catalog

/-!
# Answering requests

`handle` answers a request: it finds the place of its path, checks the method, and does what the
place is for. The place that ends sessions of others is guarded by a permission, which is checked
before anything else of the request is looked at.
-/

namespace Gatehouse.Api

open Http (Request Response)

/-- What requests are answered with the help of. -/
structure App where
  services : Services
  hasDatabase : Bool

namespace App

/-- The response with the value of an action, or with its failure. -/
def respond {α : Type} (a : Action α) (json : α → Json) : Action Response := do
  match ← a.attempt with
  | .ok x => return answered 200 (json x)
  | .error e => return failed e

/-- Checks the rules on fields, then acts. -/
def checked {α : Type} (faults : List FieldFault) (a : Action α) : Action α := do
  Action.ofExcept (FieldFault.check faults)
  a

/-- Answers with what a body asks for, or with the status of what is wrong with it. -/
def withBody {α : Type} (body : Except BodyFault α) (act : α → Action Response) :
    Action Response :=
  match body with
  | .error fault => return .bare fault.status
  | .ok x => act x

/-- Logs in. -/
def logIn (app : App) (r : Request) : Action Response :=
  withBody (LoginRequest.ofRequest r) fun q =>
    respond (checked q.faults (app.services.logIn q.email q.password)) pairJson

/-- Exchanges a refresh token. -/
def refresh (app : App) (r : Request) : Action Response :=
  withBody (RefreshRequest.ofRequest r) fun q =>
    respond (checked q.faults (app.services.refresh q.token)) pairJson

/-- Who makes a request, by the token it shows. -/
def caller (app : App) (r : Request) : Action AuthenticatedSession := do
  let token ← Action.ofExcept (bearerToken r)
  app.services.authenticate token

/-- Logs the caller out. -/
def logOut (app : App) (r : Request) : Action Response :=
  respond (do Session.logoutPair (← app.caller r).session) fun _ =>
    messageJson "Logged out successfully"

/-- The caller's own session. -/
def ownSession (app : App) (r : Request) : Action Response :=
  respond (do
    let caller ← app.caller r
    let found ← Session.describe caller.session
    return (caller, found)) fun (caller, found) => ownSessionJson caller found

/-- Ends a session and the other session of its pair. -/
def endSession (name : List Char) : Action Response :=
  match sessionOfName? name with
  | none => return .bare 400
  | some session => respond (Session.logoutPair session) fun _ => messageJson "Session revoked"

/-- Answers a request if its token is authorized for a permission. -/
def guarded (app : App) (permission : String) (r : Request) (act : Action Response) :
    Action Response := do
  let allowed := do
    let token ← Action.ofExcept (bearerToken r)
    app.services.authorize token permission
  match ← allowed.attempt with
  | .ok _ => act
  | .error e => return failed e

/-- The state of the database. -/
def databaseState (app : App) : Action DatabaseState :=
  if app.hasDatabase then do
    match ← (Action.ask .database Action.done).attempt with
    | .ok true => return .connected
    | _ => return .unreachable
  else return .notConfigured

/-- The state of the service. -/
def checkHealth (app : App) : Action Response := do
  let store ← (Action.callStore .health).attempt
  let database ← app.databaseState
  return health (store matches .ok true) database

/-- Does what a place is for. -/
def serve (app : App) (r : Request) : Route → Action Response
  | .login => app.logIn r
  | .refresh => app.refresh r
  | .logout => app.logOut r
  | .own => app.ownSession r
  | .session name => endSession name
  | .health => app.checkHealth

/-- Does what a place is for if the method is the right one. -/
def serveMethod (app : App) (r : Request) (route : Route) : Action Response :=
  if route.takes r.method then app.serve r route else return .bare 405

/-- Answers a request, the body included. -/
def answer (app : App) (r : Request) : Action Response :=
  match Route.ofPath? r.path with
  | none => return .bare 404
  | some (.session name) =>
    app.guarded Catalog.revokeSession r (app.serveMethod r (.session name))
  | some route => app.serveMethod r route

/-- Answers a request; the answer to `HEAD` has no body. -/
def handle (app : App) (r : Request) : Action Response := do
  let response ← app.answer r
  return if r.method = "HEAD" then .bare response.status else response

end App

end Gatehouse.Api
