import Switchboard.Live.Control
import Switchboard.Http.Origin
import Switchboard.Http.Form
/-
# The HTTP boundary

Three paths are served, each to `GET` (and `HEAD`, answered like `GET` without a
body); any other method there is 405, any other path 404.

* `/api/health` answers 200 with `{"status":"ok"}`.
* `/api/online` answers 200 with the ids of the users online.
* `/ws` upgrades to a live connection. The request must first be a WebSocket upgrade:
  `GET` (else 405), a Connection header containing `upgrade` and an Upgrade header equal
  to `websocket` (ASCII case ignored), a `Sec-WebSocket-Key` header and version `13`
  (else 400), each refusal with its text. The query string may hold one `token`; a
  second is a 400. The session token is the first `session_token` cookie, else the
  query's token; an empty one is none. No token, or one that names nobody, is 401; a
  store failure while checking it is 500; an Origin other than the configured one is
  403. What passes is 101 and switches protocols; the connection it opens joins only
  once the transport is there, which is not part of the answer.

Only the first header of a name counts, names compared without ASCII case, except for
cookies, where every Cookie header is read in order.
-/
namespace Switchboard.Live

open Http

/-- An HTTP request: method, target (path and query) and headers in order. -/
structure Request where
  method : String
  target : String
  headers : List (String × List UInt8)

inductive Body where
  | empty
  | json (j : Json)
  | text (s : String)

structure Response where
  status : Nat
  body : Body

def asciiLower (s : String) : String := s.map Char.toLower

def byteLower (b : UInt8) : UInt8 := if 0x41 ≤ b && b ≤ 0x5A then b + 32 else b

namespace Request

def headerValues (r : Request) (name : String) : List (List UInt8) :=
  (r.headers.filter fun h => asciiLower h.1 == asciiLower name).map (·.2)

def header? (r : Request) (name : String) : Option (List UInt8) := (r.headerValues name).head?

/-- The target without its fragment: a `#` and all after it are never sent on. -/
def resource (r : Request) : String := (r.target.splitOn "#").headD ""

def path (r : Request) : String := (r.resource.splitOn "?").headD ""

/-- The query: the resource after its first `?`, or nothing. -/
def query (r : Request) : String := "?".intercalate ((r.resource.splitOn "?").drop 1)

/-- The first header of a name is there, UTF-8, and contains `word` once lower-cased. -/
def headerContains (r : Request) (name : String) (word : String) : Bool :=
  match r.header? name with
  | some v => Text.isUtf8 v && hasInfix word.toUTF8.toList (v.map byteLower)
  | none => false
where
  /-- `w` occurs in the bytes. -/
  hasInfix (w : List UInt8) : List UInt8 → Bool
    | [] => w.isEmpty
    | b :: rest => w.isPrefixOf (b :: rest) || hasInfix w rest

/-- The first header of a name equals `word`, ASCII case ignored. -/
def headerIs (r : Request) (name : String) (word : String) : Bool :=
  match r.header? name with
  | some v => v.map byteLower == word.toUTF8.toList.map byteLower
  | none => false

end Request

def refuse (status : Nat) (text : String) : Response := ⟨status, .text text⟩

/-- The refusal of a request that is not a WebSocket upgrade, if it is not one. -/
def upgradeRefusal (r : Request) : Option Response :=
  if r.method != "GET" then some (refuse 405 "Request method must be `GET`")
  else if !r.headerContains "connection" "upgrade" then
    some (refuse 400 "Connection header did not include 'upgrade'")
  else if !r.headerIs "upgrade" "websocket" then
    some (refuse 400 "`Upgrade` header did not include 'websocket'")
  else if (r.header? "sec-websocket-key").isNone then
    some (refuse 400 "`Sec-WebSocket-Key` header missing")
  else if !r.headerIs "sec-websocket-version" "13" then
    some (refuse 400 "`Sec-WebSocket-Version` header did not include '13'")
  else none

/-- The query's `token`: none, one, or the complaint about a second. -/
def queryToken (query : String) : Except String (Option String) :=
  match (formPairs query).filter (·.1 == "token") with
  | [] => .ok none
  | [(_, v)] => .ok (some v)
  | _ => .error "duplicate field `token`"

def sessionCookie : String := "session_token"

/-- The session token: the first session cookie, else the query's token; empty is none. -/
def sessionToken (r : Request) (fromQuery : Option String) : Option String :=
  let cookies := (r.headerValues "cookie").filter visibleAscii |>.map asciiText
  let token := match cookieValue sessionCookie cookies with
    | some v => some v
    | none => fromQuery
  token.filter (!·.isEmpty)

namespace World

/-- The identity a WebSocket upgrade hands on to the realtime core, or the status that refuses
it. The session token comes first: none, or one that names nobody, is 401, and a store failure
while checking it is 500. Only then is the Origin checked: another one is 403. -/
def upgradeIdentity (w : World) (r : Request) (fromQuery : Option String) : Except Nat Identity :=
  match sessionToken r fromQuery with
  | none => .error 401
  | some token =>
    match w.hub.access.validateSession token with
    | .error _ => .error 500
    | .ok none => .error 401
    | .ok (some u) =>
      match checkOrigin (r.headerValues "origin") w.config.allowedOrigin with
      | .error _ => .error 403
      | .ok () => .ok ⟨u.id, u.displayName, token⟩

def upgrade (w : World) (r : Request) : Response :=
  match upgradeRefusal r with
  | some refusal => refusal
  | none =>
    match queryToken r.query with
    | .error e => refuse 400 ("Failed to deserialize query string: " ++ e)
    | .ok fromQuery =>
      match w.upgradeIdentity r fromQuery with
      | .error status => ⟨status, .empty⟩
      | .ok _ => ⟨101, .empty⟩

/-- The answer of a path to a `GET`. -/
def answerGet (w : World) (r : Request) (path : String) : Option Response :=
  if path == "/ws" then some (w.upgrade r)
  else if path == "/api/health" then some ⟨200, .json (Json.ofFields [("status", .str "ok")])⟩
  else if path == "/api/online" then
    some ⟨200, .json (Json.ofFields [("online_user_ids", .arr (w.onlineUserIds.map (.int ·.val)))])⟩
  else none

def serveHttp (w : World) (r : Request) : Response :=
  match w.answerGet r r.path with
  | none => ⟨404, .empty⟩
  | some answer =>
    if r.method == "GET" then answer
    else if r.method == "HEAD" then { answer with body := .empty }
    else ⟨405, .empty⟩

end World

end Switchboard.Live
