import Calculator.Json.Encoding
import Calculator.Json.Reader
import Calculator.Service.Envelope
import Calculator.Service.Resource
import Calculator.Service.Target

/-! # Requests

A request says by its address what it is about and by its method what to do. Its headers say who
sent it and how, and its body may hold a JSON value. A request that brings no id is given one that
is drawn at random; what is drawn is part of the request here.
-/

namespace Calculator.Service

/-- A request. -/
structure Request where
  method : String
  /-- What the request is about, as the client wrote it. -/
  address : String
  body : Option String
  /-- The content type of the body. If it is not given here a header may give it. -/
  contentType : Option String
  headers : List (String × String)
  /-- The id that is drawn for the request. -/
  drawnId : BitVec 128

namespace Request

/-- The name of a header in the form by which headers are told apart: in upper case and with
underscores. -/
def headerKey (name : String) : List Char :=
  (Text.upper name.toList).map fun c => if c = '-' then '_' else c

/-- The value of a header. If it was sent several times, its values are put together. -/
def header? (request : Request) (name : String) : Option String :=
  match request.headers.filter fun h => headerKey h.1 == headerKey name with
  | [] => none
  | sent => some (String.intercalate ", " (sent.map Prod.snd))

/-- The id under which a request is known: the one that it brings, or else the one that is drawn
for it, with 32 hexadecimal digits. -/
def id (request : Request) : String :=
  match request.header? "X-Request-ID" with
  | none | some "" => String.ofList ((Nat.toDigits 16 request.drawnId.toNat).leftpad 32 '0')
  | some sent => sent

/-- The name of the method in upper case. -/
def methodName (request : Request) : String :=
  String.ofList (Text.upper request.method.toList)

def target (request : Request) : Target :=
  Target.ofAddress request.address.toList

/-- The server that a request is sent to: the host that its header names, or else that of its
address. -/
def serverName? (request : Request) : Option (List Char) :=
  let target := request.target
  Target.serverName? target.scheme ((request.header? "Host").map String.toList |>.getD target.host)

/-- One of the words of a list with commas, blanks around them aside. -/
def listsWord (word : List Char) (list : List Char) : Bool :=
  (Text.splitAt (· == ',') list).any fun part => Text.trim Text.isBlank part == word

/-- The request is to change the protocol to one for messages in both directions. -/
def wantsUpgrade (request : Request) : Bool :=
  ["ws", "wss"].contains (String.ofList request.target.scheme) ||
    (listsWord "upgrade".toList (Text.lower ((request.header? "Connection").getD "").toList) &&
      Text.lower ((request.header? "Upgrade").getD "").toList == "websocket".toList)

/-! ### The body -/

/-- The name of a media type in lower case, without parameters. -/
def mediaType (contentType : String) : String :=
  String.ofList
    ((Text.trim Text.isBlank (contentType.toList.takeWhile fun c => c != ';')).map Char.toLower)

/-- A content type that announces JSON. -/
def isJson (contentType : String) : Bool :=
  let name := mediaType contentType
  name == "application/json" ||
    ("application/".toList.isPrefixOf name.toList && "+json".toList.isSuffixOf name.toList)

/-- The content type that is in force. -/
def contentType? (request : Request) : Option String :=
  request.contentType.or
    ((request.headers.find? fun h => h.1.toLower == "content-type").map Prod.snd)

/-- The items of a header's list, with the blanks around them. A comma inside quotes separates
nothing; without the closing quote there are no items. -/
def listItems? : Bool → List Char → Option (List (List Char))
  | quoted, [] => if quoted then none else some [[]]
  | true, '\\' :: c :: cs => (listItems? true cs).map fun items =>
    ('\\' :: c :: items.headD []) :: items.tail
  | quoted, c :: cs =>
    if c = ',' && !quoted then (listItems? false cs).map ([] :: ·)
    else (listItems? (quoted != (c == '"')) cs).map fun items => (c :: items.headD []) :: items.tail

/-- An item without the quotes around it. -/
def unquoted (item : List Char) : List Char :=
  if 2 ≤ item.length && item.head? == some '"' && item.getLast? == some '"' then item.tail.dropLast
    else item

/-- A header's list names a word, in any case. -/
def names (word : String) (list : String) : Bool :=
  (((listItems? false list.toList).getD []).map fun item =>
    Text.lower (unquoted (Text.trim Text.isBlank item))).contains word.toList

/-- The length of the body is left open, and so none of it is taken in. -/
def isChunked (request : Request) : Bool :=
  (request.header? "Transfer-Encoding").any (names "chunked")

/-- The body that is taken in. -/
def received (request : Request) : String :=
  if request.isChunked then "" else request.body.getD ""

/-- The value that a body holds. What cannot be read, and what counts as nothing, is taken for the
empty object. One that is too deep is more than the service can cope with. -/
def valueOf (body : String) : Except Failure Json :=
  match Json.Encoding.characters? body.toList with
  | none => .ok (.object [])
  | some cs =>
    match Json.read cs with
    | .ok value => .ok (if value.isTrivial then .object [] else value)
    | .error .malformed => .ok (.object [])
    | .error .tooDeep => .error .unforeseen

/-- The body of a request as a value. Only a body that is announced as JSON is read, and it must not
be too long. -/
def value (maxBody : Int) (request : Request) : Except Failure Json :=
  if request.contentType?.any isJson then
    let body := request.received
    if maxBody < body.utf8ByteSize && !body.isEmpty then
      .error (.ofStatus (some 413) (some "The data value transmitted exceeds the capacity limit."))
    else valueOf body
  else .ok (.object [])

end Request

end Calculator.Service
