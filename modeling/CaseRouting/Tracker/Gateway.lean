import CaseRouting.Gateway
import CaseRouting.Json.Bytes
import CaseRouting.Settings.Validation
import CaseRouting.Text.Base64
import CaseRouting.Tracker.Issue
import CaseRouting.Tracker.Query
import CaseRouting.Tracker.Server

/-!
# The gateway to the tracker

A command fetches its issue, applies the change to the test case it stands for, and only then sends
one request that makes the same change in the tracker. A query is one request that changes nothing.
-/

namespace CaseRouting.Tracker

open Address (WebAddress)
open Json (Value)
open Settings (TrackerSettings)

/-- The way to a tracker: its address, and how to talk to it. -/
structure Connection where
  base : WebAddress
  settings : TrackerSettings

def connect (s : TrackerSettings) : Except Fault Connection := do
  let base ← Settings.checkBaseUrl "sources.jira.base_url" s.baseUrl
  pure ⟨base, s⟩

def issueFields : String := "summary,status,priority,labels,updated"

def logTarget : String := "tc_router::adapters::jira"

def note (message : String) (data : List (String × Log.Datum)) : Log.Event :=
  ⟨.debug, logTarget, message, data⟩

namespace Connection

/-- The address of a resource. -/
def resource (t : Connection) (segments : List String) : WebAddress :=
  t.base.extend (["rest", "api", "2"] ++ segments)

/-- How the requests say on whose behalf they are sent. -/
def authorization (t : Connection) : Option String :=
  match t.settings.username, t.settings.apiToken with
  | some user, token => some ("Basic " ++ Text.base64 (user ++ ":" ++ token.getD ""))
  | none, some token => some ("Bearer " ++ token)
  | none, none =>
    if t.base.userInfo.isEmpty then none
    else
      let user := t.base.userInfo.dropLast
      let user := if user.contains ':' then user else user ++ [':']
      match Text.decodeUtf8 (Address.decode user) with
      | .ok s => some ("Basic " ++ Text.base64 s)
      | .error _ => none

def request (t : Connection) (method : Method) (address : WebAddress) (query : String)
    (body : Option Value) : Request where
  method := method
  url := .ofList address.chars ++ if query.isEmpty then "" else "?" ++ query
  authorization := t.authorization
  body := body

/-- The fault that a refusal stands for, about one issue or none. -/
def refusal (id : Option String) (status : Nat) (message : String) : Fault :=
  if status = 404 ∧ id.isSome then .notFound (id.getD "")
  else if status = 409 then .conflict (id.getD "") message
  else if status = 400 ∨ status = 422 then .refused message
  else .backend .tracker ("HTTP " ++ statusText status ++ ": " ++ message)

/-- Lets a reply of success pass. -/
def accept {σ : Type} (id : Option String) (reply : Reply) : Action σ Unit :=
  if reply.isSuccess then pure ()
  else do
    let message := complaintText (Text.decodeLossy reply.body)
    Action.log (note "Jira request rejected" [
      ("status", .shown (statusText reply.status)),
      ("id", .shown (id.getD "")),
      ("message", .shown message)])
    Action.fail (refusal id reply.status message)

/-- Decodes the body of a reply. -/
def decodeBody {α : Type} (decoder : Decoder α) (reply : Reply) : Except Fault α :=
  match Json.decodeBytes decoder reply.body with
  | .ok a => .ok a
  | .error _ => .error (.request .undecodable)

/-! ## Requests -/

def issueAddress (t : Connection) (id : String) : WebAddress := t.resource ["issue", id]

def transitionsAddress (t : Connection) (id : String) : WebAddress :=
  t.resource ["issue", id, "transitions"]

def searchAddress (t : Connection) : WebAddress := t.resource ["search"]

/-- Asks for an issue. -/
def issueRequest (t : Connection) (id : String) : Request :=
  t.request .get (t.issueAddress id) (Address.query [("fields", issueFields)]) none

/-- Asks for so many of the issues that a filter may pick. -/
def searchRequestOf (t : Connection) (f : Filter) (size : Nat) : Request :=
  t.request .get t.searchAddress (Address.query [
    ("jql", searchText t.settings f), ("fields", issueFields), ("maxResults", toString size)]) none

/-- Asks for a page of the issues that a filter may pick. -/
def searchRequest (t : Connection) (f : Filter) : Request :=
  t.searchRequestOf f (pageSize t.settings f)

/-- Moves an issue along one of its transitions. -/
def transitionRequest (t : Connection) (id transitionId : String) : Request :=
  t.request .post (t.transitionsAddress id) ""
    (some (.object [("transition", .object [("id", .text transitionId)])]))

/-- Sets fields of an issue. -/
def fieldsRequest (t : Connection) (id : String) (changes : Changes) : Request :=
  t.request .put (t.issueAddress id) "" (some (.object [("fields", .object (updateFields changes))]))

/-! ## Calls -/

variable {σ : Type}

/-- The test case of an issue. -/
def fetch (t : Connection) (transport : Transport σ) (id : String) : Action σ TestCase := do
  Action.log (note "Fetching Jira issue" [("url", .shown (t.issueAddress id).text)])
  let reply ← transport (t.issueRequest id)
  accept (some id) reply
  let issue ← Action.ofExcept (decodeBody Issue.decoder reply)
  pure (issue.toTestCase t.settings)

def transition (t : Connection) (transport : Transport σ) (id transitionId : String) :
    Action σ Unit := do
  Action.log (note "Posting Jira transition" [
    ("url", .shown (t.transitionsAddress id).text), ("transition_id", .quoted transitionId)])
  let reply ← transport (t.transitionRequest id transitionId)
  accept (some id) reply

def setFields (t : Connection) (transport : Transport σ) (id : String) (changes : Changes) :
    Action σ Unit := do
  let reply ← transport (t.fieldsRequest id changes)
  accept (some id) reply

/-- Makes the change of a command in the tracker. -/
def carryOut (t : Connection) (transport : Transport σ) (id : String) : Command → Action σ Unit
  | .activate => t.transition transport id t.settings.activateTransition
  | .deactivate => t.transition transport id t.settings.deactivateTransition
  | .update changes => t.setFields transport id changes

def runCommand (t : Connection) (transport : Transport σ) (now : Instant) (command : Command)
    (id : String) : Action σ TestCase := do
  let c ← t.fetch transport id
  let changed ← Action.ofExcept (command.run now c)
  t.carryOut transport id command
  pure changed

/-- Lists the test cases that fit among so many issues. -/
def listCasesOf (t : Connection) (transport : Transport σ) (f : Filter) (size : Nat) :
    Action σ (List TestCase) := do
  Action.log (note "Searching Jira issues" [
    ("url", .shown t.searchAddress.text), ("jql", .shown (searchText t.settings f))])
  let reply ← transport (t.searchRequestOf f size)
  accept none reply
  let issues ← Action.ofExcept (decodeBody Issue.foundDecoder reply)
  pure (f.apply (issues.map (Issue.toTestCase t.settings)))

def listCases (t : Connection) (transport : Transport σ) (f : Filter) : Action σ (List TestCase) :=
  t.listCasesOf transport f (pageSize t.settings f)

end Connection

/-- The gateway to a tracker, over any way to reach it. -/
def gatewayOver {σ : Type} (transport : Transport σ) (t : Connection) (now : Instant) :
    Gateway σ where
  command := t.runCommand transport now
  get := t.fetch transport
  list := t.listCases transport

/-- The gateway to a tracker. -/
def gateway (t : Connection) (now : Instant) : Gateway Server := gatewayOver send t now

end CaseRouting.Tracker
