import Calculator.Json.Writer
import Calculator.Service.Request

/-! # Replies and responses

A reply carries a status and mostly a JSON value. One that sends the client elsewhere carries a page
with the address, and the address once more in a header. A reply becomes a response when it is
rendered and its headers are set.
-/

namespace Calculator.Service

/-- What the body of a reply is made of. -/
inductive Content where
  | value (json : Json)
  | page (markup : List Char)
  | nothing

namespace Content

/-- The type of a body, as a header gives it. -/
def type : Content → String
  | value _ => "application/json"
  | page _ | nothing => "text/html; charset=utf-8"

/-- The text of a body. -/
def text : Content → String
  | value json => json.write Json.Layout.wire
  | page markup => String.ofList markup
  | nothing => ""

end Content

/-- What a request is answered with. -/
structure Reply where
  status : Int
  content : Content
  /-- The address to go to instead. -/
  location : Option (List Char)

/-- A text as it stands in a page. -/
def escapeMarkup (cs : List Char) : List Char :=
  cs.flatMap fun c =>
    if c = '&' then "&amp;".toList
    else if c = '<' then "&lt;".toList
    else if c = '>' then "&gt;".toList
    else if c = '\'' then "&#39;".toList
    else if c = '"' then "&#34;".toList
    else [c]

/-- The page that tells where to go. -/
def redirectPage (address : List Char) : List Char :=
  let shown := escapeMarkup address
  "<!doctype html>\n<html lang=en>\n<title>Redirecting...</title>\n".toList ++
    "<h1>Redirecting...</h1>\n".toList ++
    "<p>You should be redirected automatically to the target URL: <a href=\"".toList ++ shown ++
    "\">".toList ++ shown ++ "</a>. If not, click the link.\n".toList

namespace Reply

/-- Data, with the status for success. -/
def ok (data : Json) : Reply := ⟨200, .value (success data), none⟩

/-- A failure, as an answer to a request. -/
def fail (request : Request) (f : Failure) : Reply :=
  ⟨f.status, .value (failure (some request.id) f.fields), none⟩

/-- A reply that is only a status. -/
def empty : Reply := ⟨200, .nothing, none⟩

/-- The client is sent to another address for good. The page shows it as it is, the header has it in
ASCII. -/
def moved (address : List Char) : Reply :=
  ⟨308, .page (redirectPage address), some (Uri.ofText address).encode.text⟩

end Reply

/-- A reply as it is sent. -/
structure Response where
  status : Int
  body : String
  headers : List (String × String)

namespace Response

/-- The headers that every response has. -/
def protection : List (String × String) := [
  ("X-Content-Type-Options", "nosniff"),
  ("X-Frame-Options", "DENY"),
  ("Content-Security-Policy", "default-src 'none'; frame-ancestors 'none'"),
  ("Referrer-Policy", "no-referrer"),
  ("Cache-Control", "no-store")]

/-- The response to a request. One to a HEAD request leaves out the body but tells its length. -/
def ofReply (request : Request) (reply : Reply) : Response :=
  let body := reply.content.text
  { status := reply.status
    body := if request.method = "HEAD" then "" else body
    headers :=
      [("Content-Type", reply.content.type), ("Content-Length", toString body.utf8ByteSize),
        ("X-Request-ID", request.id)] ++
      (reply.location.map fun address => ("Location", String.ofList address)).toList ++ protection }

/-- The value of a header, whose name may be in any case. -/
def header? (response : Response) (name : String) : Option String :=
  (response.headers.find? fun h => h.1.toLower == name.toLower).map Prod.snd

end Response

end Calculator.Service
