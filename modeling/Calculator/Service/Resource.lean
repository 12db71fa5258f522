import Calculator.Service.Envelope
import Calculator.Text.LetterCase

/-! # Resources

A resource has a path and the methods that it knows. A request finds it under the path exactly as it
is. A request whose path has several slashes where the resource's has one, or none where it has one
at the end, is sent there (`Route.moved`), but only if the resource knows the method.
-/

namespace Calculator.Service

open Text

/-- The resources of the service. -/
inductive Resource where
  | home
  | evaluate
  | chain
  | tokenize
  | toggleSign
  | functions
  | history
  | memory
  /-- A file to hand out. There is a place for files, but no file in it. -/
  | file
deriving DecidableEq, Repr

/-- The methods that resources know. -/
inductive Method where
  | get
  | post
  | delete
deriving DecidableEq, Repr

namespace Method

def name : Method → String
  | get => "GET"
  | post => "POST"
  | delete => "DELETE"

/-- A method answers to its name. The one that gets also answers to HEAD, and every one to
OPTIONS. -/
def answers (m : Method) (name : String) : Bool :=
  name == m.name || name == "OPTIONS" || (m == get && name == "HEAD")

end Method

namespace Resource

/-- The resources that have one path each. -/
def paths : List (String × Resource) := [
  ("/", home),
  ("/api/scientific_calculator/evaluate", evaluate),
  ("/api/scientific_calculator/chain", chain),
  ("/api/scientific_calculator/tokenize", tokenize),
  ("/api/scientific_calculator/toggle_sign", toggleSign),
  ("/api/scientific_calculator/functions", functions),
  ("/api/scientific_calculator/history", history),
  ("/api/scientific_calculator/memory", memory)]

/-- Where files would be. -/
def fileFolder : List Char := "/static/".toList

/-- The path of a file: a name behind the folder, which starts with no slash and has no line end
behind its first character. -/
def isFilePath (path : List Char) : Bool :=
  fileFolder.isPrefixOf path &&
    match path.drop fileFolder.length with
    | [] => false
    | c :: rest => c != '/' && !rest.contains '\n'

/-- The resource at a path. -/
def ofPath? (path : List Char) : Option Resource :=
  if isFilePath path then some file else paths.lookup (String.ofList path)

/-- The methods of a resource. -/
def methods : Resource → List Method
  | home | functions | file => [.get]
  | evaluate | chain | tokenize | toggleSign => [.post]
  | history => [.get, .delete]
  | memory => [.get, .post, .delete]

end Resource

/-! ### Finding a resource -/

/-- A path with single slashes only. -/
def singleSlashes : List Char → List Char
  | '/' :: '/' :: cs => singleSlashes ('/' :: cs)
  | c :: cs => c :: singleSlashes cs
  | [] => []

/-- What comes of a path and the name of a method. -/
inductive Route where
  /-- A resource is found that has the method. -/
  | found (resource : Resource) (method : Method)
  /-- The resource is found, but all that is asked for is whether it is there. -/
  | present
  /-- The resource is found under another path. -/
  | moved (path : List Char)
deriving DecidableEq, Repr

namespace Route

/-- A request that makes no sense. -/
def badRequest : Failure :=
  .ofStatus (some 400)
    (some "The browser (or proxy) sent a request that this server could not understand.")

/-- A request for something that the resource does not do. -/
def methodNotAllowed : Failure :=
  .ofStatus (some 405) (some "The method is not allowed for the requested URL.")

/-- The failure where no resource at the path has the method. If all of them have it, it is the
connection that does not fit. -/
def refusal (resources : List Resource) (name : String) : Failure :=
  let methods := resources.flatMap Resource.methods
  if methods.any fun m => !m.answers name then methodNotAllowed
  else if methods.isEmpty then .notFound
  else badRequest

/-- What a resource is found for under the name of a method. -/
def ofResource? (name : String) (resource : Resource) : Option Route :=
  if name = "OPTIONS" then some present
  else (resource.methods.find? fun m => m.answers name).map (found resource)

/-- The route to a resource. Only plain connections lead to one: a request to change the protocol
(`upgrade`) is refused. -/
def find (upgrade : Bool) (name : String) (path : List Char) : Except Failure Route :=
  let direct := Resource.ofPath? path
  let target := if path.isEmpty then ['/'] else singleSlashes path
  let merged := Resource.ofPath? target
  let usable (r : Option Resource) := if upgrade then none else r.bind (ofResource? name)
  match usable direct, usable merged with
  | some route, _ => .ok route
  | none, some _ => .ok (moved target)
  | none, none =>
    .error (refusal (direct.toList ++ if path.isEmpty then [] else merged.toList) name)

end Route

end Calculator.Service
