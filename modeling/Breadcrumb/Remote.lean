import Breadcrumb.Base64
import Breadcrumb.Double.Shortest
import Breadcrumb.Json
import Breadcrumb.Text.Blank
import Breadcrumb.Text.Quoted

namespace Breadcrumb.Remote

inductive Limit where
  | whole (n : Int)
  | real (x : Double)
  deriving DecidableEq

namespace Limit

def isZero : Limit → Bool
  | .whole n => n = 0
  | .real x => x.isZero

def toText : Limit → Text
  | .whole n => Text.ofInt n
  | .real x => x.toText

def standard : Limit := .real (.ofNat 30)

end Limit

/-- Who asks, and whom. -/
structure Client where
  project : Text := []
  clientId : Option Text := none
  clientSecret : Option Text := none
  url : Option Text := none
  limit : Option Limit := some .standard

/-- How the text is to be read: as part of a project's discussion, or as a document. -/
inductive Mode where
  | gfm
  | readme
  deriving DecidableEq

structure Request where
  url : Text
  headers : List (Text × Text)
  body : Text
  limit : Text
  deriving DecidableEq

/-- What comes back. An exchange is broken when it ends before the whole answer is there: the time is
up, or the other side hangs up or does not keep to the protocol. -/
inductive Answer where
  | success (body : Bytes)
  | failure (code : Int) (reason : Text) (body : Bytes)
  | unreachable (reason : Text)
  | broken (message : Text)

inductive Fault where
  | unknownUrl (url : Text)
  | status (code : Int) (detail : Text)
  | unreachable (reason : Text)
  | broken (message : Text)
  | undecodable (fault : DecodeFault)
  deriving DecidableEq

def Fault.message : Fault → Text
  | .unknownUrl url => "unknown url type: ".toList ++ url.quoted
  | .status code detail =>
    "GitHub Markdown API failed with status ".toList ++ Text.ofInt code ++ ": ".toList ++ detail
  | .unreachable reason => "GitHub Markdown API request failed: ".toList ++ reason
  | .broken message => message
  | .undecodable fault => fault.message

def standardUrl : Text := "https://api.github.com/markdown".toList

def nonempty : Option Text → Option Text
  | some (c :: text) => some (c :: text)
  | _ => none

/-- A URL without the marks around it and without an empty fragment. -/
def tidyUrl (url : Text) : Text :=
  let url := url.trim
  let url :=
    if url.head? = some '<' && url.getLast? = some '>' then Text.trim (url.drop 1).dropLast else url
  let url :=
    match Text.after? "URL:".toList url with
    | some rest => rest.trim
    | none => url
  if url.getLast? = some '#' then url.dropLast else url

def hasScheme (url : Text) : Bool :=
  let scheme := url.takeWhile fun c => c ≠ '/' && c ≠ ':'
  !scheme.isEmpty && (url.drop scheme.length).head? = some ':'

/-- The text, how to read it and, for a project's discussion, the project. -/
def payload (client : Client) (mode : Mode) (markdown : Text) : Json :=
  .obj <|
    match mode with
    | .gfm =>
      [("text".toList, .str markdown), ("mode".toList, .str "gfm".toList)] ++
        (if client.project.isEmpty then [] else [("context".toList, .str client.project)])
    | .readme => [("text".toList, .str markdown), ("mode".toList, .str "markdown".toList)]

/-- The credentials, if both of them are given. -/
def authorization? (client : Client) : Option Text :=
  match nonempty client.clientId, nonempty client.clientSecret with
  | some id, some secret =>
    some ("Basic ".toList ++ Base64.encode (Encoding.encode (id ++ [':'] ++ secret)))
  | _, _ => none

def headers (client : Client) : List (Text × Text) :=
  [("accept".toList, "application/vnd.github+json".toList)] ++
    ((authorization? client).toList.map fun value => ("authorization".toList, value)) ++
    [("content-type".toList, "application/json".toList)]

/-- The time limit; none at all and zero mean the standard one. -/
def limit (client : Client) : Limit :=
  match client.limit with
  | some limit => if limit.isZero then .standard else limit
  | none => .standard

def request (client : Client) (mode : Mode) (markdown : Text) : Except Fault Request :=
  let url := tidyUrl ((nonempty client.url).getD standardUrl)
  if hasScheme url then
    .ok
      { url, headers := headers client, body := (payload client mode markdown).compact
        limit := (limit client).toText }
  else .error (.unknownUrl url)

/-- The HTML of an answer; a failure is explained by its body or else by its reason. -/
def html : Answer → Except Fault Text
  | .success body => (Encoding.utf8.decode body).mapError .undecodable
  | .failure code reason body =>
    let detail := (Encoding.decodeLenient body).trim
    .error (.status code (if detail.isEmpty then reason else detail))
  | .unreachable reason => .error (.unreachable reason)
  | .broken message => .error (.broken message)

/-- Whether the service itself has failed. -/
def Fault.isService : Fault → Bool
  | .status .. | .unreachable _ => true
  | _ => false

end Breadcrumb.Remote
