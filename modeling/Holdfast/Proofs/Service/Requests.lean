import Holdfast.Proofs.Service.Steady

/-!
# Requests and who makes them

Requests are answered by actions that may end ahead of time. Like everything that the service does they
take no notice of the metrics (`steady_handle`).

Whose credentials are not good is refused before anything else is looked at: the request changes nothing
but the metrics, whatever it asks for (`handle_refused`).
-/

namespace Holdfast

open Http Reservation

/-- **The credentials that a request shows.** What its fields leave open is taken from the query of a
request for a live connection, if the query can be read. -/
def Http.Request.credentials (r : Request) : Credentials :=
  match Route.ofPath r.target.path with
  | .socket =>
    match Service.queryFields? r.target.query ["token", "holder", "tenant"] with
    | some [token, holder, _] => (Credentials.ofHeaders r.headers).or { token, holder }
    | _ => .ofHeaders r.headers
  | _ => .ofHeaders r.headers

/-- The credentials of the request are good. -/
def Http.Request.isAdmitted (token : String) (r : Request) : Bool :=
  (r.credentials.verify token).isOk

namespace Service

/-! ## Actions that may end ahead of time -/

namespace Steady

variable {α β : Type}

/-- A value. -/
theorem value (a : α) : Steady (pure a : Answering α).run := nothing (Except.ok a)

/-- A response ahead of time. -/
theorem refusal (response : Response) : Steady (throw response : Answering α).run :=
  nothing (Except.error response)

/-- An action that does not end ahead of time. -/
theorem within {x : Action α} (h : Steady x) : Steady (monadLift x : Answering α).run := by
  show Steady (x >>= fun a => (pure (Except.ok a) : Action (Except Response α)))
  exact h.bind fun a => nothing _

/-- One after the other, unless the first one ends it. -/
theorem seq {x : Answering α} {f : α → Answering β} (first : Steady x.run)
    (rest : ∀ a, Steady (f a).run) : Steady (x >>= f).run := by
  rw [ExceptT.run_bind]
  refine first.bind fun r => ?_
  cases r with
  | ok a => exact rest a
  | error response => exact nothing _

/-- Something is looked up that is not in the metrics. -/
theorem regard {f : Service → Answering β} (rest : ∀ s, Steady (f s).run)
    (same : ∀ s metrics, f { s with metrics } = f s) : Steady (get >>= f).run := by
  show Steady ((get : Action Service) >>= fun s => (f s).run)
  exact look rest fun s metrics => congrArg ExceptT.run (same s metrics)

end Steady

/-- Letting somebody in. -/
theorem steady_authenticate (c : Credentials) : Steady (authenticate c).run := by
  unfold authenticate
  refine .regard (fun s => ?_) fun _ _ => rfl
  cases c.verify s.config.token with
  | ok identity => exact .value _
  | error e => exact (steady_add _ _).within.seq fun _ => .refusal _

/-- The tenant of a name. -/
theorem steady_enter (name : String) : Steady (enter name).run := by
  unfold enter
  refine (steady_tenantOf name).within.seq fun r => ?_
  cases r with
  | ok key => exact .value _
  | error e => exact .refusal _

/-- Letting a caller in. -/
theorem steady_caller (r : Request) : Steady (caller r).run :=
  (steady_authenticate _).seq fun _ => (steady_enter _).seq fun _ => .value _

/-- What the request has to give. -/
theorem steady_need {α : Type} (a? : Option α) : Steady (need a?).run := by
  cases a? with
  | none => exact .refusal _
  | some a => exact .value _

/-- The policy. -/
theorem steady_policy : Steady policy.run := .regard (fun _ => .value _) fun _ _ => rfl

/-- A program of a caller's tenant. -/
theorem steady_run {α : Type} (c : Caller) (p : Program Failure α) : Steady (c.run p).run := by
  unfold Caller.run
  refine (steady_runFor c.tenant p).within.seq fun r => ?_
  cases r with
  | ok a => exact .value _
  | error e => exact .refusal _

/-- Opening a connection. -/
theorem steady_connect (r : Request) (token holder tenant : Option String) :
    Steady (connect r token holder tenant).run := by
  unfold connect
  refine (steady_authenticate _).seq fun identity => (steady_enter _).seq fun key => ?_
  refine .regard (fun s => ?_) fun _ _ => rfl
  split
  · exact (steady_add _ _).within.seq fun _ => .refusal _
  · refine Steady.seq (Steady.within (.change ?_ ?_)) fun _ => ?_
    · exact fun _ => rfl
    · exact fun _ _ => rfl
    · exact (steady_begin _ _).within.seq fun _ => .value _

/-- A request for a connection. -/
theorem steady_socket (r : Request) : Steady (socket r).run := by
  unfold socket
  split
  · split
    · exact steady_connect _ _ _ _
    · split
      · exact .value _
      · split <;> exact .value _
  · exact .value _

/-- A request for a resource. -/
theorem steady_respond (r : Request) (route : Route) : Steady (respond r route).run := by
  have deal : ∀ {α : Type} (p : Policy → SlotId → Claimant → Program Failure α)
      (f : SlotId → α → Response), Steady (caller r >>= fun c => need (slotOfBody? r) >>= fun slot =>
        policy >>= fun policy => c.run (p policy slot c.claimant) >>= fun a =>
          (pure (f slot a) : Answering Response)).run :=
    fun p f => (steady_caller r).seq fun c => (steady_need _).seq fun slot =>
      steady_policy.seq fun policy => (steady_run c _).seq fun a => .value _
  cases route with
  | health => exact .value _
  | hold => exact deal acquire fun _ => Reply.ofAcquire
  | release => exact deal release fun _ => Reply.ofRelease
  | commit => exact deal commit Reply.ofCommit
  | holds =>
    refine (steady_caller r).seq fun c => ?_
    split
    · exact (steady_run c _).seq fun _ => .value _
    · exact .refusal _
  | status slot =>
    exact (steady_caller r).seq fun c => (steady_need _).seq fun slot =>
      (steady_run c _).seq fun _ => .value _
  | snapshot day =>
    exact (steady_caller r).seq fun c => (steady_need _).seq fun day =>
      (steady_run c _).seq fun _ => .value _
  | socket => exact steady_socket r
  | unmatched => exact .value _

/-- **Every request.** -/
theorem steady_handle (r : Request) : Steady (handle r) := by
  unfold handle
  dsimp only
  split
  · exact (steady_respond r _).bind fun answer => (steady_add _ _).bind fun _ => .nothing _
  · exact (Steady.nothing _).bind fun answer => (steady_add _ _).bind fun _ => .nothing _

/-! ## Whoever is not let in -/

section refused

variable {α β : Type} {s s' : Service} {r : Request} {c : Credentials}

/-- An action that ends ahead of time is all that there is. -/
theorem seq_refused {x : Answering α} {response : Response} (first : x.run s = (.error response, s'))
    (f : α → Answering β) : (x >>= f).run s = (.error response, s') := by
  rw [ExceptT.run_bind, bind_apply first]
  rfl

/-- An action that looks at the service goes on with what it sees. -/
theorem run_get (f : Service → Answering α) (s : Service) :
    ((get : Answering Service) >>= f).run s = (f s).run s := rfl

/-- Whose credentials are not good is not let in. -/
theorem authenticate_refused (bad : (c.verify s.config.token).isOk = false) :
    (authenticate c).run s =
      (.error Reply.unauthorized, { s with metrics := s.metrics.add .authFailures 1 }) := by
  cases verified : c.verify s.config.token with
  | ok identity =>
    rw [verified] at bad
    cases bad
  | error e =>
    unfold authenticate
    rw [run_get, verified]
    rfl

/-- Who calls is settled first. -/
theorem caller_refused
    (bad : ((Credentials.ofHeaders r.headers).verify s.config.token).isOk = false) :
    (caller r).run s =
      (.error Reply.unauthorized, { s with metrics := s.metrics.add .authFailures 1 }) :=
  seq_refused (authenticate_refused bad) _

/-- A request for a connection is refused before a tenant is loaded or a permit is taken. -/
theorem socket_refused (isSocket : Route.ofPath r.target.path = .socket)
    (bad : r.isAdmitted s.config.token = false) :
    ∃ answer metrics, (socket r).run s = (answer, { s with metrics }) := by
  unfold Request.isAdmitted Request.credentials at bad
  rw [isSocket] at bad
  unfold socket
  split
  · rename_i token holder tenant fields
    simp only [fields] at bad
    split
    · exact ⟨_, _, seq_refused (authenticate_refused bad) _⟩
    · split
      · exact ⟨_, s.metrics, rfl⟩
      · split <;> exact ⟨_, s.metrics, rfl⟩
  · exact ⟨_, s.metrics, rfl⟩

/-- Whatever is asked for, nothing is done but counting. -/
theorem respond_refused (bad : r.isAdmitted s.config.token = false) :
    ∃ answer metrics,
      (respond r (Route.ofPath r.target.path)).run s = (answer, { s with metrics }) := by
  cases route : Route.ofPath r.target.path with
  | health => exact ⟨_, s.metrics, rfl⟩
  | unmatched => exact ⟨_, s.metrics, rfl⟩
  | socket => exact socket_refused route bad
  | _ =>
    unfold Request.isAdmitted Request.credentials at bad
    rw [route] at bad
    exact ⟨_, _, seq_refused (caller_refused bad) _⟩

/-- **A request without good credentials changes nothing but the metrics.** -/
theorem handle_refused (bad : r.isAdmitted s.config.token = false) :
    ∃ response metrics, handle r s = (response, { s with metrics }) := by
  unfold handle
  dsimp only
  split
  · obtain ⟨answer, metrics, first⟩ := respond_refused bad
    have ran : (respond r (.ofPath r.target.path)).run s = (answer, { s with metrics }) := first
    exact ⟨_, _, (bind_apply ran).trans rfl⟩
  · exact ⟨_, _, rfl⟩

end refused
end Service
end Holdfast
