import Holdfast.Credentials
import Holdfast.Http.Message
import Holdfast.Reservation.Failure
import Holdfast.Reservation.Outcome
import Holdfast.Room.Event
import Holdfast.Tenancy

/-!
# Responses to requests

How outcomes and failures are told to callers.
-/

namespace Holdfast.Service.Reply

open Http Reservation

/-! ## Refusals -/

/-- The caller showed no good credentials. -/
def unauthorized : Response := .reason 401 "unauthorized"

/-- The caller is no coordinator. -/
def forbidden : Response := .reason 403 "forbidden"

/-- The request says nothing that can be understood. -/
def badRequest : Response := .reason 400 "bad_request"

/-- The path names no resource. -/
def notFound : Response := .reason 404 "not_found"

/-- All permits for live connections are taken. -/
def tooManyConnections : Response := .reason 503 "too_many_connections"

/-- There is no tenant of the given name. -/
def ofTenantError (e : TenantError) : Response :=
  let badName : Response :=
    .json 400 ([("error", .text "bad_request")] ++
      (e.message?.map fun detail => ("detail", Json.text detail)).toList)
  match e with
  | .nameTooLong => badName
  | .emptyName => badName
  | .tooMany => .reason 503 "tenant_unavailable"
  | .seed _ => .reason 503 "tenant_unavailable"

/-- An operation failed. -/
def ofFailure (e : Failure) : Response :=
  match e with
  | .slotNotFound _ => .reason 404 e.code
  | .slotBooked _ => .reason 409 e.code
  | .dayNotEnabled _ enabled =>
    .json 400 [("error", .text e.code), ("enabled_days", .array (enabled.map Day.toJson))]
  | .noActivePeriod => .reason 503 e.code
  | _ => .reason 500 e.code

/-! ## Outcomes -/

/-- What an acquire came to. -/
def ofAcquire : AcquireOutcome → Response
  | .acquired hold ttl renewed =>
    .json 200 [("ok", .bool true), ("slot_id", .word hold.slot), ("owner", .text hold.owner.text),
      ("ttl", .word (secondsUp ttl)), ("renewed", .bool renewed)]
  | .conflict (.heldByOther owner ttl) =>
    .json 409 [("error", .text (Conflict.heldByOther owner ttl).reason),
      ("held_by", .text owner.text), ("ttl", .word (secondsUp ttl))]
  | .conflict (.holderHasOther slot ttl) =>
    .json 409 [("error", .text (Conflict.holderHasOther slot ttl).reason), ("slot_id", .word slot),
      ("ttl", .word (secondsUp ttl))]

/-- What a release came to. -/
def ofRelease : ReleaseOutcome → Response
  | .released _ => .json 200 [("ok", .bool true), ("released", .bool true)]
  | .noHold => .json 200 [("ok", .bool true), ("released", .bool false)]
  | .notOwner => .reason 403 ReleaseOutcome.notOwner.reason

/-- What a commit came to. -/
def ofCommit (slot : SlotId) : CommitOutcome → Response
  | .committed _ =>
    .json 200 [("ok", .bool true), ("slot_id", .word slot), ("status", .text SlotStatus.booked.label)]
  | .noHold => .reason 409 CommitOutcome.noHold.reason
  | .notOwner => .reason 403 CommitOutcome.notOwner.reason

/-- The status of a slot. -/
def ofStatus (slot : SlotId) (s : SlotStatus) : Response :=
  .json 200 ([("slot_id", .word slot), ("status", .text s.label)] ++
    match s with
    | .held owner ttl => [("owner", .text owner.text), ("ttl", .word (secondsUp ttl))]
    | _ => [])

/-- A listing of holds. -/
def ofRows (rows : List HoldRow) : Response :=
  .json 200 [("items", .array (rows.map HoldRow.toJson))]

/-- A snapshot of a day. -/
def ofSnapshot (s : DaySnapshot) : Response := ⟨200, .json s.toJson⟩

/-- The service is alive. -/
def alive : Response := ⟨200, .text "ok"⟩

end Holdfast.Service.Reply
