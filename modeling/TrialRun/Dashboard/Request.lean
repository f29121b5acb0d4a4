import TrialRun.Fault
import TrialRun.Text.Blank

/-!
# Requests to the dashboard

A client of the dashboard keeps its address without trailing slashes and the headers of its
requests.  A request needs an address with a scheme: one or more characters before the first colon,
no slash among them.
-/

set_option autoImplicit false

namespace TrialRun

/-- A client of the dashboard of a Ray cluster. -/
structure Dashboard where
  address : String
  headers : List (String × String)
  /-- Whether the certificate of the server is looked at. -/
  verified : Bool
  deriving DecidableEq, Repr

namespace Dashboard

/-- A text without its trailing slashes. -/
def withoutSlashes (s : String) : String :=
  String.ofList (s.toList.reverse.dropWhile (· == '/')).reverse

/-- The header that carries a token; no token and an empty one need none. -/
def authorization : Option String → List (String × String)
  | some token => if token ≠ "" then [("Authorization", s!"Bearer {token}")] else []
  | none => []

/-- A client at an address. -/
def connect (address : String) (token : Option String := none) (verified : Bool := true) :
    Dashboard where
  address := withoutSlashes address
  headers := ("Accept", "application/json") :: authorization token
  verified := verified

/-- The client as an object: the two numbers of an unverified connection say that neither the
server's name nor its certificate is checked. -/
def toJson (d : Dashboard) : Json :=
  .ofFields
    [("address", d.address), ("headers", .ofFields (d.headers.map fun h => (h.1, .text h.2))),
      ("insecure", if d.verified then .null else .list [.bool false, .int 0])]

/-- A request for the contents of an address. -/
structure Request where
  url : String
  headers : List (String × String)
  verified : Bool
  deriving DecidableEq, Repr

/-- The text without blanks around it, angle brackets around that, and the word that may introduce
an address in brackets. -/
def unwrapped (url : List Char) : List Char :=
  let url := Text.strip url
  let url :=
    if url.head? = some '<' ∧ url.getLast? = some '>' then
      Text.strip ((url.drop 1).dropLast)
    else url
  if url.take 4 = "URL:".toList then Text.strip (url.drop 4) else url

/-- The text without a number sign at its end: a fragment that is empty is none. -/
def withoutEmptyFragment (url : List Char) : List Char :=
  if url.getLast? = some '#' then url.dropLast else url

/-- The text before its last number sign, if there is one. -/
def withoutFragment (url : List Char) : List Char :=
  if '#' ∈ url then ((url.reverse.dropWhile (· ≠ '#')).drop 1).reverse else url

/-- Whether the address has a scheme, which no fragment can give it. -/
def hasScheme (url : List Char) : Bool :=
  let url := withoutFragment url
  let scheme := url.takeWhile (fun c => c ≠ ':' && c ≠ '/')
  !scheme.isEmpty && (url.drop scheme.length).head? == some ':'

/-- The request of a client for a text that begins with its address. -/
def request (d : Dashboard) (url : String) : Except Fault Request :=
  let url := unwrapped url.toList
  let shown := String.ofList (withoutEmptyFragment url)
  if hasScheme url then .ok ⟨shown, d.headers, d.verified⟩
  else .error (.plain .badValue s!"unknown url type: {Json.literal (.text shown)}")

end Dashboard

end TrialRun
