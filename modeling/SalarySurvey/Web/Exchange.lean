import SalarySurvey.Text.Utf8
import SalarySurvey.Web.Target

/-!
# Requests and responses

The messages of the service. The bodies of requests are of no interest to it. Names of headers are
in lower case, since their case carries no meaning. The headers of a request have bytes for values,
which need not be a text.
-/
namespace SalarySurvey.Web

/-- A header, its name and its value. -/
abbrev Header := String × String

/-- A request. -/
structure Request where
  /-- The method. -/
  method : String
  /-- What is asked for. -/
  target : Target
  /-- The headers. -/
  headers : List (String × List UInt8)

/-- A response. -/
structure Response where
  /-- The status code. -/
  status : Nat
  /-- The headers. -/
  headers : List Header := []
  /-- The body. -/
  body : String := ""
  deriving DecidableEq

/-- Whether a character can stand in a method or in the name of a header. -/
def isTokenChar (c : Char) : Bool :=
  c.isAlphanum || "!#$%&'*+-.^_|~".toList.contains c || c.toNat == 0x60

/-- Whether a text is a token. -/
def isToken (text : String) : Bool :=
  !text.isEmpty && text.toList.all isTokenChar

/-- Whether a text can be the value of a header: no control character except the tab. -/
def isHeaderValue (text : String) : Bool :=
  text.toList.all fun c => (0x20 ≤ c.toNat || c == '\t') && c.toNat != 0x7F

namespace Request

/-- The request with a method, a target and headers, if they are well formed. -/
def ofParts? (method target : String) (headers : List Header) : Option Request := do
  let target ← Target.ofText? target
  if isToken method && headers.all fun (name, value) => isToken name && isHeaderValue value then
    some ⟨method, target, headers.map fun (name, value) =>
      (name.toLower, Text.Utf8.encode value.toList)⟩
  else none

/-- The value of the first header of a name in lower case. -/
def header? (request : Request) (name : String) : Option (List UInt8) :=
  request.headers.lookup name

end Request

end SalarySurvey.Web
