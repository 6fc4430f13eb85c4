import Holdfast.Hold
import Holdfast.Http.Header
import Holdfast.Text.Blank

/-!
# Credentials

Callers show a token that all of them share, and say who they are and in which role. What a request's
fields leave open may be filled from elsewhere.
-/

namespace Holdfast

/-- What a request shows. -/
structure Credentials where
  token : Option String := none
  holder : Option String := none
  role : Option String := none
  deriving DecidableEq

/-- Who is calling. -/
structure Identity where
  holder : HolderId
  coordinator : Bool
  deriving DecidableEq

/-- Why a caller is not let in. -/
inductive AuthError where
  | missingToken
  | badToken
  | missingHolder
  | holderTooLong
  deriving DecidableEq

/-- The error in words. -/
def AuthError.message : AuthError → String
  | missingToken => "missing credentials"
  | badToken => "bad credentials"
  | missingHolder => "missing holder id"
  | holderTooLong => "holder id too long"

namespace Credentials

/-- What stands before a token. -/
def bearer : List Char := ['B', 'e', 'a', 'r', 'e', 'r', ' ']

/-- The token that a field shows. -/
def bearerToken? (s : String) : Option String :=
  if bearer.isPrefixOf s.toList then some (String.ofList (s.toList.drop bearer.length)) else none

/-- The credentials in a request's fields. -/
def ofHeaders (h : Http.Headers) : Credentials where
  token := (h.text? "authorization").bind bearerToken?
  holder := h.text? "x-holder-id"
  role := h.text? "x-role"

/-- Fills what is left open. -/
def or (c other : Credentials) : Credentials where
  token := c.token.or other.token
  holder := c.holder.or other.holder
  role := c.role.or other.role

/-- The longest name of a holder, in octets. -/
def maxHolder : Nat := 256

/-- The role of a coordinator. -/
def coordinatorRole : String := "coordinator"

/-- Lets a caller in who shows the secret and says who it is. -/
def verify (secret : String) (c : Credentials) : Except AuthError Identity :=
  match c.token with
  | none => .error .missingToken
  | some token =>
    if token ≠ secret then .error .badToken
    else
      match (c.holder.map Text.trim).filter (· ≠ "") with
      | none => .error .missingHolder
      | some holder =>
        if maxHolder < holder.utf8ByteSize then .error .holderTooLong
        else .ok ⟨⟨holder⟩, c.role.any (·.toLower = coordinatorRole)⟩

end Credentials
end Holdfast
