import Holdfast.Http.Header

/-!
# Media types

A media type is a type and a subtype, then parameters after semicolons. A subtype may end in a suffix
after its last plus sign. `MediaType.isJson` holds for `application/json` and what is built on it.
-/

namespace Holdfast.Http

/-- A media type without its parameters. -/
structure MediaType where
  type : String
  subtype : String
  deriving DecidableEq

namespace MediaType

/-- May the character stand in quotes? -/
def isQuotedChar (c : Char) : Bool := ' ' ≤ c && c ≠ '\x7f'

/-- Reads a parameter's value up to its closing quote, which is not its first character, and gives what
follows the next semicolon. -/
def quotedRest? : List Char → Option (List Char)
  | [] => none
  | first :: cs =>
    let more := cs.takeWhile (· ≠ '"')
    if isQuotedChar first && more.all isQuotedChar && more.length < cs.length then
      match (cs.drop (more.length + 1)).dropWhile (· = ' ') with
      | ';' :: rest => some rest
      | [] => some []
      | _ => none
    else none

/-- Are these parameters well formed? Spaces may stand in front of a name, and a value may be empty
only at the end. -/
def areParameters : Nat → List Char → Bool
  | 0, cs => cs.isEmpty
  | fuel + 1, cs =>
    match cs with
    | [] => true
    | ' ' :: rest => areParameters fuel rest
    | _ =>
      let name := cs.takeWhile Headers.isTokenChar
      match name, cs.drop name.length with
      | _ :: _, '=' :: '"' :: rest =>
        match quotedRest? rest with
        | some rest => areParameters fuel rest
        | none => false
      | _ :: _, '=' :: rest =>
        let value := rest.takeWhile Headers.isTokenChar
        match value, rest.drop value.length with
        | _, [] => true
        | _ :: _, ';' :: rest => areParameters fuel rest
        | _, _ => false
      | _, _ => false

/-- Reads a media type from the characters of a text. -/
def readChars? (cs : List Char) : Option MediaType :=
  let type := cs.takeWhile Headers.isTokenChar
  match type, cs.drop type.length with
  | _ :: _, '/' :: rest =>
    let subtype := rest.takeWhile Headers.isTokenChar
    match subtype, rest.drop subtype.length with
    | _, [] => some ⟨String.ofList type, String.ofList subtype⟩
    | _ :: _, ';' :: rest =>
      if areParameters rest.length rest then
        some ⟨String.ofList type, String.ofList subtype⟩
      else none
    | _, _ => none
  | _, _ => none

/-- Reads a media type; letters count as lower case. -/
def read? (s : String) : Option MediaType := readChars? s.toLower.toList

/-- The parts of a subtype at its last plus sign, which is not its first character. -/
def splitSuffix (cs : List Char) : List Char × Option (List Char) :=
  let suffix := (cs.reverse.takeWhile (· ≠ '+')).reverse
  if suffix.length + 1 < cs.length then (cs.take (cs.length - suffix.length - 1), some suffix)
  else (cs, none)

/-- Is it JSON, or a type built on it? -/
def isJson (m : MediaType) : Bool :=
  let (base, suffix) := splitSuffix m.subtype.toList
  m.type = "application" && (String.ofList base = "json" || suffix.any (String.ofList · = "json"))

/-- Do a request's fields say that its body is JSON? -/
def saysJson (h : Headers) : Bool := ((h.text? "content-type").bind read?).any isJson

end MediaType
end Holdfast.Http
