import Holdfast.Json.Reader

/-!
# Records and tagged values

How this library reads structured values. A record is an object with named members, or an array of
its fields in order; members it does not know are skipped, and a member it knows may not occur
twice. A tagged value is an object with a tag and a content in either order, or an array of the two.

A content that comes before its tag has to be kept until the tag is known. Then everything in it is
read, not only what the tag asks for: its strings must spell texts, its numerals must be finite and
the document may not nest deeper than `maxDepth`.
-/

namespace Holdfast.Json

/-- The members of an object, if all their names spell texts. -/
def namedMembers? (members : List (Option String × Json)) : Option (List (String × Json)) :=
  members.mapM fun (name, j) => name.map (·, j)

/-- What an object says for each of the names. -/
def membersOf? (names : List String) (j : Json) : Option (List (Option Json)) := do
  let .object members := j | none
  let named ← namedMembers? members
  guard (names.all fun name => (named.filter (·.1 = name)).length ≤ 1)
  return names.map fun name => named.lookup name

/-- What a record says for each of its fields. -/
def fields? (names : List String) : Json → Option (List (Option Json))
  | .array items => do
    guard (items.length ≤ names.length)
    return names.zipIdx.map fun (_, i) => items[i]?
  | j => membersOf? names j

/-! ## Contents that are kept -/

mutual

/-- How many arrays and objects lie inside each other. -/
def depth : Json → Nat
  | .null => 0
  | .bool _ => 0
  | .number _ => 0
  | .string _ => 0
  | .array items => depthItems items + 1
  | .object members => depthMembers members + 1
termination_by structural j => j

/-- The depth of the deepest item. -/
def depthItems : List Json → Nat
  | [] => 0
  | j :: rest => max (depth j) (depthItems rest)
termination_by structural js => js

/-- The depth of a member's value. -/
def depthMember : (Option String × Json) → Nat
  | (_, j) => depth j
termination_by structural m => m

/-- The depth of the deepest member. -/
def depthMembers : List (Option String × Json) → Nat
  | [] => 0
  | m :: rest => max (depthMember m) (depthMembers rest)
termination_by structural ms => ms

end

mutual

/-- Does every literal in the value spell a text, and is every numeral finite? -/
def isLegible : Json → Bool
  | .null => true
  | .bool _ => true
  | .number lexeme => Numeral.isFinite lexeme.toList
  | .string s => s.isSome
  | .array items => isLegibleItems items
  | .object members => isLegibleMembers members
termination_by structural j => j

/-- `isLegible` for every item. -/
def isLegibleItems : List Json → Bool
  | [] => true
  | j :: rest => isLegible j && isLegibleItems rest
termination_by structural js => js

/-- `isLegible` for a member's name and value. -/
def isLegibleMember : (Option String × Json) → Bool
  | (name, j) => name.isSome && isLegible j
termination_by structural m => m

/-- `isLegible` for every member. -/
def isLegibleMembers : List (Option String × Json) → Bool
  | [] => true
  | m :: rest => isLegibleMember m && isLegibleMembers rest
termination_by structural ms => ms

end

/-- The depth that a document with a kept content may have. -/
def maxDepth : Nat := 127

/-! ## Tagged values -/

/-- The name of a variant: a string, or an object that gives the name and `null`. -/
def variant? : Json → Option String
  | .string s => s
  | .object [(some name, .null)] => some name
  | _ => none

/-- The variant's name and its content, from the members named `event` and `data`. -/
def tagged? : Json → Option (String × Json)
  | .array [tag, content] => do return (← tag.variant?, content)
  | .object members => do
    let named ← namedMembers? members
    match named.filter fun m => m.1 = "event" ∨ m.1 = "data" with
    | [("event", tag), ("data", content)] => return (← tag.variant?, content)
    | [("data", content), ("event", tag)] =>
      guard (content.depth + 1 ≤ maxDepth ∧ content.isLegible = true)
      return (← tag.variant?, content)
    | _ => none
  | _ => none

/-- A tagged value as it is written. -/
def tagged (name : String) (content : Json) : Json :=
  record [("event", text name), ("data", content)]

end Holdfast.Json
