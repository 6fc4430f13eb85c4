import Holdfast.Http.MediaType
import Holdfast.Http.Route
import Holdfast.Reservation.Commit
import Holdfast.Service.Connection
import Holdfast.Service.Reply
import Holdfast.Text.Percent

/-!
# Handling requests

Who asks is settled before what is asked: first the credentials, then the tenant, then the rest of the
request. A request that is refused on the way changes nothing.
-/

namespace Holdfast.Service

open Http Reservation

/-- An action that may end with a response ahead of time. -/
abbrev Answering := ExceptT Response Action

/-! ## Who asks -/

/-- Lets in who shows good credentials. -/
def authenticate (c : Credentials) : Answering Identity := do
  match c.verify (← get).config.token with
  | .ok identity => return identity
  | .error _ =>
    add .authFailures 1
    throw Reply.unauthorized

/-- The key of the tenant of a name. -/
def enter (name : String) : Answering String := do
  match ← (tenantOf name : Action (Except TenantError String)) with
  | .ok key => return key
  | .error e => throw (Reply.ofTenantError e)

/-- The tenant when none is named. -/
def defaultTenant : String := "default"

/-- The tenant that a request's fields name. -/
def tenantName? (h : Headers) : Option String := h.text? "x-tenant"

/-- Someone who was let in to a tenant. -/
structure Caller where
  identity : Identity
  tenant : String

/-- Lets a caller in to a tenant. -/
def caller (r : Request) : Answering Caller := do
  let identity ← authenticate (.ofHeaders r.headers)
  let tenant ← enter ((tenantName? r.headers).getD defaultTenant)
  return ⟨identity, tenant⟩

/-- The claim of a caller. -/
def Caller.claimant (c : Caller) : Claimant := { holder := c.identity.holder }

/-! ## What is asked -/

/-- The slot that a request's body names. What follows the value in the body does not count. -/
def slotOfBody? (r : Request) : Option SlotId := do
  guard (MediaType.saysJson r.headers ∧ r.body.utf8ByteSize ≤ Request.maxBody)
  let (j, _) ← Json.value? (Text.glyphs r.body)
  SlotId.ofRequest? j

/-- A value that the request has to give. -/
def need {α : Type} : Option α → Answering α
  | some a => return a
  | none => throw Reply.badRequest

/-- The policy of all tenants. -/
def policy : Answering Policy := do return (← get).config.policy

/-- Runs a program for a caller's tenant. -/
def Caller.run {α : Type} (c : Caller) (p : Program Failure α) : Answering α := do
  match ← (runFor c.tenant p : Action (Except Failure α)) with
  | .ok a => return a
  | .error e => throw (Reply.ofFailure e)

/-! ## Live connections -/

/-- What a query says under a name; none of the names may occur twice. -/
def queryFields? (query : Option String) (names : List String) : Option (List (Option String)) :=
  let fields := Text.Percent.fields (query.getD "")
  if names.all fun name => (fields.filter (·.1 = name)).length ≤ 1 then
    some (names.map fun name => fields.lookup name)
  else none

/-- Opens a live connection. What the fields of the request leave open is taken from its query. -/
def connect (r : Request) (token holder tenant : Option String) : Answering Response := do
  let identity ← authenticate ((Credentials.ofHeaders r.headers).or { token, holder })
  let key ← enter (((tenantName? r.headers).or tenant).getD defaultTenant)
  if (← get).permits = 0 then
    add .sessionsRejected 1
    throw Reply.tooManyConnections
  modify fun s => { s with permits := s.permits - 1 }
  begin key identity.holder
  return ⟨101, .empty⟩

/-- A request for a live connection. It must be a handshake on a transport that can take it. -/
def socket (r : Request) : Answering Response := do
  match queryFields? r.target.query ["token", "holder", "tenant"] with
  | some [token, holder, tenant] =>
    if r.handshake then connect r token holder tenant
    else if r.method ≠ "GET" then return ⟨405, .empty⟩
    else if r.asksForConnection then return ⟨426, .empty⟩
    else return ⟨400, .empty⟩
  | _ => return ⟨400, .empty⟩

/-! ## Resources -/

/-- Answers a request for a resource. -/
def respond (r : Request) : Route → Answering Response
  | .health => return Reply.alive
  | .hold => do
    let c ← caller r
    let slot ← need (slotOfBody? r)
    return Reply.ofAcquire (← c.run (acquire (← policy) slot c.claimant))
  | .release => do
    let c ← caller r
    let slot ← need (slotOfBody? r)
    return Reply.ofRelease (← c.run (release (← policy) slot c.claimant))
  | .commit => do
    let c ← caller r
    let slot ← need (slotOfBody? r)
    return Reply.ofCommit slot (← c.run (commit (← policy) slot c.claimant))
  | .holds => do
    let c ← caller r
    if c.identity.coordinator then return Reply.ofRows (← c.run listHolds)
    else throw Reply.forbidden
  | .status slot => do
    let c ← caller r
    let slot ← need ((Text.Percent.segment? slot).bind SlotId.read?)
    return Reply.ofStatus slot (← c.run (status slot))
  | .snapshot day => do
    let c ← caller r
    let day ← need ((Text.Percent.segment? day).bind Day.read?)
    return Reply.ofSnapshot (← c.run (snapshot day))
  | .socket => socket r
  | .unmatched => return Reply.notFound

/-- Answers a request and counts it. What asks only for the head of a response gets no body. -/
def handle (r : Request) : Action Response := do
  let route := Route.ofPath r.target.path
  let answer : Except Response Response ←
    if route.takes r.method then respond r route else pure (.ok ⟨405, .empty⟩)
  let response := match answer with
    | .ok response => response
    | .error response => response
  add (.requests route.pattern response.status) 1
  return if r.method = "HEAD" then { response with body := .empty } else response

end Holdfast.Service
