/-!
# Request targets

The target of a request is a path with an optional query, such a thing after a scheme and an authority,
an authority alone, or an asterisk. What follows a number sign does not count. `Target.read?` gives
the path and the query; an authority alone has an empty path.
-/

namespace Holdfast.Http

/-- What a request is for. -/
structure Target where
  path : String
  query : Option String := none
  deriving DecidableEq

namespace Target

/-- The longest target, in octets. -/
def maxLength : Nat := 65534

/-! ## Paths and queries -/

/-- May the character stand in a path as it is? -/
def isPathChar (c : Char) : Bool :=
  c = '!' || ('$' ≤ c && c ≤ ';') || c = '=' || ('@' ≤ c && c ≤ '_') || ('a' ≤ c && c ≤ 'z') ||
    c = '|' || c = '~' || '\x7f' ≤ c || c = '"' || c = '\x7b' || c = '\x7d'

/-- May the character stand in a query as it is? -/
def isQueryChar (c : Char) : Bool :=
  c = '!' || ('$' ≤ c && c ≤ ';') || c = '=' || '?' ≤ c

/-- A path and a query. -/
def pathAndQuery? (cs : List Char) : Option Target :=
  let path := cs.takeWhile fun c => c ≠ '?' && c ≠ '#'
  let rest := cs.drop path.length
  if path.all isPathChar then
    match rest with
    | '?' :: rest =>
      let query := rest.takeWhile (· ≠ '#')
      if query.all isQueryChar then some ⟨String.ofList path, some (String.ofList query)⟩ else none
    | _ => some ⟨String.ofList path, none⟩
  else none

/-! ## Authorities -/

/-- May the character stand in an authority as it is? -/
def isAuthorityChar (c : Char) : Bool :=
  c.isAlphanum || ['-', '.', '_', '~', ':', '[', ']', '@', '!', '$', '&', '\x27', '(', ')', '*', '+',
    ',', ';', '='].contains c

/-- What was seen of an authority. Colons and percent signs are forgotten where it turns out that they
belong to a name before the host or to an address in brackets. -/
structure Seen where
  colons : Nat := 0
  opened : Bool := false
  closed : Bool := false
  percent : Bool := false
  /-- Was the last character an at sign? -/
  atSign : Bool := false

/-- One more character. -/
def Seen.push? (s : Seen) (c : Char) : Option Seen :=
  if c = ':' then
    if 8 ≤ s.colons then none else some { s with colons := s.colons + 1, atSign := false }
  else if c = '[' then
    if s.percent || s.opened then none else some { s with opened := true, atSign := false }
  else if c = ']' then
    if !s.opened || s.closed then none
    else some { s with closed := true, colons := 0, percent := false, atSign := false }
  else if c = '@' then some { s with colons := 0, percent := false, atSign := true }
  else if c = '%' then some { s with percent := true, atSign := false }
  else if isAuthorityChar c then some { s with atSign := false }
  else none

/-- Can this be all of an authority? -/
def Seen.isWhole (s : Seen) : Bool :=
  s.opened = s.closed && s.colons ≤ 1 && !s.atSign && !s.percent

/-- The end of an authority: what follows it, and whether it is empty. -/
def authority? (cs : List Char) : Option (Bool × List Char) := do
  let front := cs.takeWhile fun c => c ≠ '/' && c ≠ '?' && c ≠ '#'
  let seen ← front.foldlM Seen.push? {}
  guard seen.isWhole
  return (front.isEmpty, cs.drop front.length)

/-! ## Schemes -/

/-- The longest scheme. -/
def maxScheme : Nat := 64

/-- May the character stand in a scheme? -/
def isSchemeChar (c : Char) : Bool := c.isAlphanum || c = '+' || c = '-' || c = '.'

/-- What follows a scheme in front of a text; the text itself, if none is there. -/
def afterScheme? (cs : List Char) : Option (Bool × List Char) :=
  let scheme := cs.takeWhile isSchemeChar
  match cs.drop scheme.length with
  | ':' :: '/' :: '/' :: rest => if maxScheme < scheme.length then none else some (true, rest)
  | _ => some (false, cs)

/-- A target that does not begin with its path. -/
def full? (cs : List Char) : Option Target := do
  let (hasScheme, cs) ← afterScheme? cs
  let (isEmpty, rest) ← authority? cs
  if hasScheme then
    guard !isEmpty
    let target ← pathAndQuery? rest
    return { target with path := if target.path = "" then "/" else target.path }
  else
    guard rest.isEmpty
    return ⟨"", none⟩

/-- Reads a target. -/
def read? (s : String) : Option Target :=
  if maxLength < s.utf8ByteSize then none
  else
    match s.toList with
    | [] => none
    | ['*'] => some ⟨"*", none⟩
    | '/' :: rest => pathAndQuery? ('/' :: rest)
    | cs => full? cs

end Target
end Holdfast.Http
