import Holdfast.Proofs.Service.Requests

/-!
# Strangers leave no trace

A request whose credentials are not good changes nothing but the metrics: no tenant is loaded for it,
no backend changes, and no permit is taken. So whatever happens to the service, requests of that kind
could as well be left out. Every other request gets the same response, and the same service is left,
but for the metrics (`Service.strangers_unseen`).

Between the requests anything may happen that does happen to the service: time goes by, passes are made,
clients of live connections send something, and it may be shut down.
-/

namespace Holdfast

open Http Reservation Socket

namespace Service

/-- **Something that happens to the service.** -/
inductive Occurrence where
  | request (r : Request)
  /-- A client with a live connection sends something. -/
  | frame (n : Nat) (incoming : Incoming)
  /-- Everything is done that can be done without time going on. -/
  | settle
  | sleep (milliseconds : Nat)
  | shutDown

/-- What the service does about it, with the response to a request. -/
def Occurrence.action : Occurrence → Action (Option Response)
  | request r => do return some (← handle r)
  | frame n incoming => do
    receive n incoming
    return none
  | settle => do
    Service.settle
    return none
  | sleep milliseconds => do
    Service.sleep milliseconds
    return none
  | shutDown => do
    Service.shutDown
    return none

/-- It is no request without good credentials. -/
def Occurrence.isAdmitted (token : String) : Occurrence → Bool
  | request r => r.isAdmitted token
  | _ => true

/-- **What comes of a history**: each occurrence with the response to it, and the service that is
left. -/
def serveAll (s : Service) : List Occurrence → List (Occurrence × Option Response) × Service
  | [] => ([], s)
  | o :: rest => (serveAll (o.action s).2 rest).map ((o, (o.action s).1) :: ·) id

/-- Whatever happens takes no notice of the metrics. -/
theorem Occurrence.steady (o : Occurrence) : Steady o.action := by
  cases o with
  | request r => exact (steady_handle r).bind fun _ => .nothing _
  | frame n incoming => exact (steady_receive n incoming).bind fun _ => .nothing _
  | settle => exact steady_settle.bind fun _ => .nothing _
  | sleep milliseconds => exact (steady_sleep milliseconds).bind fun _ => .nothing _
  | shutDown => exact steady_shutDown.bind fun _ => .nothing _

/-- What is not admitted changes nothing but the metrics. -/
theorem Occurrence.action_refused {s : Service} {o : Occurrence}
    (bad : o.isAdmitted s.config.token = false) :
    ∃ response metrics, o.action s = (response, { s with metrics }) := by
  cases o with
  | request r =>
    obtain ⟨response, metrics, ran⟩ := handle_refused (s := s) bad
    exact ⟨some response, metrics, bind_apply ran⟩
  | frame | settle | sleep | shutDown => cases bad

/-- The first occurrence and the rest. -/
theorem serveAll_cons {s s' : Service} {o : Occurrence} {response : Option Response}
    (ran : o.action s = (response, s')) (rest : List Occurrence) :
    s.serveAll (o :: rest) = (s'.serveAll rest).map ((o, response) :: ·) id := by
  rw [serveAll, ran]

/-- **A history without what is not admitted**, whatever was counted before, comes to the rest of what
the history comes to. -/
theorem serveAll_filter {token : String} (history : List Occurrence) (s : Service)
    (isToken : s.config.token = token) (metrics : Metrics) :
    ∃ metrics', { s with metrics }.serveAll (history.filter (·.isAdmitted token)) =
      ((s.serveAll history).1.filter (·.1.isAdmitted token),
        { (s.serveAll history).2 with metrics := metrics' }) := by
  induction history generalizing s metrics with
  | nil => exact ⟨metrics, rfl⟩
  | cons o rest ih =>
    cases admitted : o.isAdmitted token with
    | true =>
      rcases ran : o.action s with ⟨response, s'⟩
      obtain ⟨metrics₁, ran'⟩ := o.steady.unmeasured s metrics
      have config := o.steady.config s
      rw [ran] at ran' config
      obtain ⟨metrics₂, later⟩ := ih s' ((congrArg Config.token config).trans isToken) metrics₁
      refine ⟨metrics₂, ?_⟩
      rw [List.filter_cons_of_pos admitted, serveAll_cons ran, serveAll_cons ran', later]
      show (_ :: _, _) = (List.filter _ ((o, response) :: (s'.serveAll rest).1), _)
      rw [List.filter_cons_of_pos (by exact admitted)]
      rfl
    | false =>
      obtain ⟨response, metrics₁, ran⟩ := Occurrence.action_refused (isToken.symm ▸ admitted)
      obtain ⟨metrics₂, later⟩ := ih { s with metrics := metrics₁ } isToken metrics
      refine ⟨metrics₂, ?_⟩
      rw [List.filter_cons_of_neg (by simp [admitted]), serveAll_cons ran]
      show _ = (List.filter _ ((o, response) :: (serveAll _ rest).1), _)
      rw [List.filter_cons_of_neg (by simp [admitted])]
      exact later

/-- **Strangers leave no trace.** A request without good credentials changes nothing but the metrics,
whatever it asks for, and a history comes to the same without such requests, but for the metrics. -/
theorem strangers_unseen (s : Service) (history : List Occurrence) :
    (∀ r : Request, r.isAdmitted s.config.token = false →
      ∃ response metrics, handle r s = (response, { s with metrics })) ∧
    ∃ metrics, s.serveAll (history.filter (·.isAdmitted s.config.token)) =
      ((s.serveAll history).1.filter (·.1.isAdmitted s.config.token),
        { (s.serveAll history).2 with metrics }) :=
  ⟨fun _ bad => handle_refused bad, serveAll_filter history s rfl s.metrics⟩

/-- A service that can take one connection. -/
def narrow : Service := { config := {}, registry := {}, permits := 1 }

/-- The path of connections. It is split by a recursion that only its equation opens, so the equation
is used once for each character. -/
theorem ofPath_ws : Route.ofPath "/ws" = .socket := by
  have parts : "/ws".splitOn "/" = ["", "ws"] := by
    change "/ws".splitOnAux "/" 0 0 0 [] = _
    rw [String.splitOnAux.eq_1, if_neg (by decide), if_pos (by decide)]
    dsimp only
    rw [if_pos (by decide), String.splitOnAux.eq_1, if_neg (by decide), if_neg (by decide)]
    rw [String.splitOnAux.eq_1, if_neg (by decide), if_neg (by decide)]
    rw [String.splitOnAux.eq_1, if_pos (by decide)]
    decide
  unfold Route.ofPath
  rw [parts]
  decide +kernel

/-- Someone asks for a connection, with a guess at the token. -/
def guessing : Request :=
  { target := ⟨"/ws", some "token=guess&holder=eve&tenant=mine"⟩, handshake := true }

/-- Someone asks for a connection who knows the token. -/
def knowing : Request := { target := ⟨"/ws", some "token=slothold&holder=ann"⟩, handshake := true }

/-- The guess leaves the only permit to the one who knows. -/
theorem strangers_unseen_narrow :
    guessing.isAdmitted narrow.config.token = false ∧
      (∃ response metrics, handle guessing narrow = (response, { narrow with metrics })) ∧
      (handle knowing narrow).2.permits = 0 ∧
      ∃ metrics, narrow.serveAll [.request knowing] =
        ((narrow.serveAll [.request guessing, .request knowing]).1.filter
            (·.1.isAdmitted narrow.config.token),
          { (narrow.serveAll [.request guessing, .request knowing]).2 with metrics }) := by
  have bad : guessing.isAdmitted narrow.config.token = false := by
    unfold Request.isAdmitted Request.credentials
    rw [show Route.ofPath guessing.target.path = .socket from ofPath_ws]
    decide +kernel
  have good : knowing.isAdmitted narrow.config.token = true := by
    unfold Request.isAdmitted Request.credentials
    rw [show Route.ofPath knowing.target.path = .socket from ofPath_ws]
    decide +kernel
  have takes : (handle knowing narrow).2.permits = 0 := by
    unfold handle
    rw [show Route.ofPath knowing.target.path = .socket from ofPath_ws]
    decide +kernel
  obtain ⟨refused, metrics, same⟩ :=
    strangers_unseen narrow [.request guessing, .request knowing]
  have left : [Occurrence.request guessing, .request knowing].filter
      (·.isAdmitted narrow.config.token) = [.request knowing] := by
    rw [List.filter_cons_of_neg (by simp [Occurrence.isAdmitted, bad]),
      List.filter_cons_of_pos (by exact good), List.filter_nil]
  rw [left] at same
  exact ⟨bad, refused guessing bad, takes, metrics, same⟩

end Service
end Holdfast
