import SignOn.Assoc
import SignOn.Http.Request
import SignOn.Text.Cut
import SignOn.Text.Lowercase

/-!
# Forms and parameters

A form is a body of at most `maxFields` pairs. The parameters of a request are the pairs of its query
and, for a form sent by `POST`, those of its body, as one list with the query first. Two other ways to
write a form are left out: a multipart body is read as no pairs, and only `&` separates pairs.
-/

namespace SignOn.Http

def formType : String := "application/x-www-form-urlencoded"

def maxFields : Nat := 1000

def isSpaceOrTab (c : Char) : Bool :=
  c == ' ' || c == '\t'

/-- The media type of a content type header, in lower case and without its options. -/
def mediaType (header : String) : String :=
  Text.lower (String.ofList (Text.trimBy isSpaceOrTab (Text.cut ';' header.toList).1))

/-- The values of each name, with the names in the order of their first appearance. -/
def group (pairs : List (String × String)) : Assoc (List String) :=
  pairs.foldl (fun values (name, value) =>
    values.put name ((values.get? name).getD [] ++ [value])) ∅

namespace Request

def contentTypeText (request : Request) : String :=
  headerText (request.contentType.getD "")

/-- The pairs of the body, which has none unless it is a form. -/
def formPairs (request : Request) : Except Failure (List (String × String)) :=
  if mediaType request.contentTypeText = formType then
    let pairs := Uri.Form.decodeBytes request.body
    if maxFields < pairs.length then .error (.tooManyFields maxFields) else .ok pairs
  else .ok []

/-- Whether the body carries parameters beside the query. -/
def postsForm (request : Request) : Bool :=
  request.method == "POST" && formType.toList.isPrefixOf request.contentTypeText.toList

def parameterPairs (request : Request) : Except Failure (List (String × String)) :=
  if request.postsForm then request.formPairs.map (request.queryPairs ++ ·)
  else .ok request.queryPairs

def parameters (request : Request) : Except Failure (Assoc (List String)) :=
  request.parameterPairs.map group

end Request

end SignOn.Http
