import SignOn.Failure
import SignOn.Uri.Form

/-!
# Requests of browsers

A request as the server hands it on: the path with its escapes decoded, the query and the body as
they were sent, and the headers that play a part.
-/

namespace SignOn.Http

structure Request where
  method : String := "GET"
  /-- The scheme and the host that the request was sent to. -/
  origin : String
  path : String
  query : String := ""
  contentType : Option String := none
  cookieHeader : Option String := none
  body : List UInt8 := []
  /-- The network address of the sender. -/
  ip : Option String := none
  deriving DecidableEq, Repr

/-- The address of a path and a query at an origin. The path begins with a slash there. -/
def addressOf (origin path query : String) : String :=
  origin ++ (if path.toList.head? = some '/' then path else "/" ++ path) ++
    if query = "" then "" else "?" ++ query

/-- A header as it is read: sent as UTF-8, each byte is a character of the same number. -/
def headerText (header : String) : String :=
  String.ofList (Uri.Form.ofBytes (Text.Utf8.encodeString header))

namespace Request

def address (request : Request) : String :=
  addressOf request.origin request.path request.query

/-- The path by which a request is intercepted: that of its address, read anew. A question mark in
the decoded path ends it. -/
def addressPath (request : Request) : Except Failure String :=
  match Uri.split request.address.toList with
  | .error cause => .error (.uri cause)
  | .ok uri => .ok (String.ofList uri.path)

def queryPairs (request : Request) : List (String × String) :=
  Uri.Form.decodeBytes (Text.Utf8.encodeString request.query)

end Request

def lastValue (name : String) (pairs : List (String × String)) : Option String :=
  pairs.reverse.lookup name

end SignOn.Http
