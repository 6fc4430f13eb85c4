import Holdfast.Store.Scan
import Holdfast.Store.Transaction

/-!
# Requests to a store

Everything that a store can be asked, as data. Each request says what kind of answer it gets, and
`Store.answer` gives it; a request is answered at one instant, with nothing in between.
-/

namespace Holdfast.Store

/-- A request to a store. -/
inductive Request where
  | tryCreate (key value : String) (ttl : Nat)
  | read (key : String)
  | refresh (key value : String) (ttl : Nat)
  | delete (key : String)
  | remaining (key : String)
  | scan (start : String) (cursor : Option String) (count : Nat)
  | watch (keys : List String)
  | exec (watch : Watch) (writes : List Write)
  | evict
  deriving DecidableEq

/-- What a request is answered with. -/
def Request.Answer : Request → Type
  | .tryCreate .. => Bool
  | .read _ => Option String
  | .refresh .. => Unit
  | .delete _ => Bool
  | .remaining _ => Option Nat
  | .scan .. => Page
  | .watch _ => Watch
  | .exec .. => ExecOutcome
  | .evict => List (String × String)

/-- Answers a request. -/
def answer (now : Nat) (s : Store) : (r : Request) → r.Answer × Store
  | .tryCreate key value ttl => s.tryCreate now key value ttl
  | .read key => (s.read? now key, s)
  | .refresh key value ttl => ((), s.put now key value ttl)
  | .delete key => s.delete now key
  | .remaining key => (s.remaining? now key, s)
  | .scan start cursor count => (s.scan now start cursor count, s)
  | .watch keys => (s.watch now keys, s)
  | .exec w writes => s.exec now w writes
  | .evict => s.evict now

end Holdfast.Store
