import Holdfast.Store.Basic

/-!
# Scans by page

A scan walks over the keys that start with a given text, in key order, and gives its live entries in
pages. A page that is full names the key that the next page goes on after.
-/

namespace Holdfast

/-- One page of a scan. Without `next`, nothing follows. -/
structure Page where
  entries : List (String × String) := []
  next : Option String := none
  deriving DecidableEq

namespace Store

/-- Fills a page. `found` holds what the page has so far in reverse, and `last` the key visited
last; an entry that is met when the page is full ends it. -/
def fillPage (now count : Nat) (found : List (String × String)) (last : Option String) :
    List (String × Entry) → Page
  | [] => { entries := found.reverse }
  | (key, e) :: rest =>
    if found.length = count then { entries := found.reverse, next := last }
    else if e.isLive now then fillPage now count ((key, e.value) :: found) (some key) rest
    else fillPage now count found (some key) rest

/-- Does the walk of a scan begin at the key or before it? -/
def isAfter (start : String) (cursor : Option String) (key : String) : Bool :=
  match cursor with
  | some c => c < key
  | none => !(key < start)

/-- The entries that a scan walks over: from the cursor on, as long as the keys start with `start`. -/
def walk (s : Store) (start : String) (cursor : Option String) : List (String × Entry) :=
  (s.entries.filter fun e => isAfter start cursor e.1).toList.takeWhile fun e =>
    start.toList.isPrefixOf e.1.toList

/-- A page of at most `count` live entries, and of one at least if there is one. -/
def scan (now : Nat) (s : Store) (start : String) (cursor : Option String) (count : Nat) : Page :=
  fillPage now (max count 1) [] none (s.walk start cursor)

end Store
end Holdfast
