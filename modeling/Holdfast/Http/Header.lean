/-!
# Header fields

The fields of a request in order. A name is a token and is compared without regard to case; a value
has no control characters but tabs. A value that is not plain ASCII may be sent but is not read, and of
two fields of one name the first counts.
-/

namespace Holdfast.Http

/-- The fields of a request: names with values. -/
abbrev Headers := List (String × String)

namespace Headers

/-- The characters of a token other than letters and digits. -/
def tokenMarks : List Char :=
  ['!', '#', '$', '%', '&', '\x27', '*', '+', '-', '.', '^', '_', '\x60', '|', '~']

/-- May the character occur in a token? -/
def isTokenChar (c : Char) : Bool := c.isAlphanum || tokenMarks.contains c

/-- The longest name, in octets. -/
def maxName : Nat := 65535

/-- May a field have this name? -/
def isName (s : String) : Bool :=
  !s.isEmpty && s.toList.all isTokenChar && s.utf8ByteSize ≤ maxName

/-- May a field have this value? -/
def isValue (s : String) : Bool := s.toList.all fun c => c = '\t' || (' ' ≤ c && c ≠ '\x7f')

/-- Are all fields well formed? -/
def areValid (h : Headers) : Bool := h.all fun (name, value) => isName name && isValue value

/-- Is the text plain ASCII, as far as it can be read? -/
def isReadable (s : String) : Bool := s.toList.all fun c => c = '\t' || (' ' ≤ c && c ≤ '~')

/-- The first value with a name; the name is given in lower case. -/
def get? (h : Headers) (name : String) : Option String :=
  (h.find? fun field => field.1.toLower = name).map (·.2)

/-- The first value with a name, if it can be read. -/
def text? (h : Headers) (name : String) : Option String := (h.get? name).filter isReadable

/-- Is a field there that reads like the text, up to ASCII case? -/
def reads (h : Headers) (name value : String) : Bool :=
  ((h.get? name).map (·.toLower)) = some value

end Headers
end Holdfast.Http
