/-
# The session of a request

A request names its session in a header, a query parameter or a cookie, in this order; in
full authentication its user comes first.  A request that names none has the session of the
address it comes from, or the default session.
-/
import SessionTasks.KeyMap
import SessionTasks.Sha256
import SessionTasks.Text.Blank
import SessionTasks.Text.Case
import SessionTasks.Text.Pieces
namespace SessionTasks

/-! ## Requests -/

/-- What a request says about its caller. -/
structure Request where
  /-- The user. -/
  user : Option String := none
  /-- The headers, by their names in lower case. -/
  headers : KeyMap String := .empty
  /-- The parameters of the query. -/
  query : KeyMap String := .empty
  /-- The cookies. -/
  cookies : KeyMap String := .empty
  /-- The address of the peer. -/
  remote : Option String := none
  deriving DecidableEq

namespace Request

/-- Sets a header. -/
def addHeader (r : Request) (name value : String) : Request :=
  { r with headers := r.headers.insert (Text.lower name) value }

/-- Sets a parameter of the query. -/
def addQuery (r : Request) (name value : String) : Request :=
  { r with query := r.query.insert name value }

/-- Sets a cookie. -/
def addCookie (r : Request) (name value : String) : Request :=
  { r with cookies := r.cookies.insert name value }

/-- The value of a header that is not blank. -/
def header? (r : Request) (name : String) : Option String :=
  (r.headers.get? (Text.lower name)).bind Text.nonBlank?

/-- The first address of a list of forwarded ones that is not blank. -/
def firstForwarded? (list : String) : Option String :=
  ((Text.commaPieces list).map Text.trim).find? fun address => !address.isEmpty

/-- The address that the request was forwarded for. -/
def forwarded? (r : Request) : Option String :=
  (r.header? "x-forwarded-for").bind firstForwarded?

/-- The address of the caller. -/
def clientIp (r : Request) : String :=
  (r.forwarded?.or ((r.header? "x-real-ip").map Text.trim)).or (r.remote.bind Text.nonBlank?)
    |>.getD "unknown"

end Request

/-! ## Resolving -/

/-- Where the name of a session was found. -/
inductive SessionSource where
  | user
  | header
  | query
  | cookie
  | clientIp
  | default
  deriving DecidableEq

/-- The name of a source. -/
def SessionSource.name : SessionSource → String
  | .user => "user"
  | .header => "header"
  | .query => "query"
  | .cookie => "cookie"
  | .clientIp => "client_ip"
  | .default => "default"

/-- How requests name their sessions. -/
structure ResolverSettings where
  /-- The header. -/
  header : String
  /-- The parameter of the query. -/
  query : String
  /-- The cookie. -/
  cookie : String
  /-- The session of requests that name none. -/
  defaultSession : String
  /-- What the session of an address starts with. -/
  ipPrefix : String
  /-- Requests have sessions of their own. -/
  isolation : Bool
  /-- A request that names no session has the session of its address. -/
  mapByIp : Bool
  /-- A user has a session. -/
  fullAuth : Bool
  deriving DecidableEq

/-- The settings, and the sessions of the addresses seen so far. -/
structure Resolver where
  /-- How requests name their sessions. -/
  settings : ResolverSettings
  /-- The sessions of addresses. -/
  mappings : KeyMap String := .empty
  deriving DecidableEq

/-- The session of a request, as it was named. -/
structure Resolved where
  /-- The name. -/
  rawKey : String
  /-- Where it was found. -/
  source : SessionSource
  deriving DecidableEq

namespace ResolverSettings

/-- The session that a request names, or its user. -/
def named? (s : ResolverSettings) (r : Request) : Option Resolved :=
  let user := if s.fullAuth then r.user.bind Text.nonBlank? else none
  (user.map (⟨·, .user⟩)).or <|
    ((r.header? s.header).map (⟨·, .header⟩)).or <|
    (((r.query.get? s.query).bind Text.nonBlank?).map (⟨·, .query⟩)).or <|
    (((r.cookies.get? s.cookie).bind Text.nonBlank?).map (⟨·, .cookie⟩))

/-- The session of an address: sixteen digits of its digest behind a common start. -/
def ipKey (s : ResolverSettings) (ip : String) : String :=
  s.ipPrefix ++ String.ofList ((Sha256.hexDigest ip.toUTF8.toList).take 16)

/-- The default session. -/
def fallback (s : ResolverSettings) : Resolved := ⟨s.defaultSession, .default⟩

end ResolverSettings

namespace Resolver

/-- The session of a request.  One that is found by its address is noted. -/
def resolve (v : Resolver) (r : Request) : Resolved × Resolver :=
  if !v.settings.isolation then (v.settings.fallback, v)
  else match v.settings.named? r with
    | some found => (found, v)
    | none =>
      if v.settings.mapByIp then
        let key := v.settings.ipKey r.clientIp
        (⟨key, .clientIp⟩, { v with mappings := v.mappings.insert r.clientIp key })
      else (v.settings.fallback, v)

/-- Forgets the sessions of addresses, and counts them. -/
def clear (v : Resolver) : Nat × Resolver := (v.mappings.size, { v with mappings := .empty })

end Resolver

end SessionTasks
