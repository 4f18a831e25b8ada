import Mathlib.Data.List.Basic

/-!
The CORS middlewares of validator/tags.go: `CORS`, and `CORSWithLogger`, which
`main` installs first with the default configuration.

A request is the part of `c.Request` the middlewares of `main` read, with
`Header.Get` giving the empty string for an absent header. The response header
is `c.Writer.Header()` as gin's `c.Header` leaves it: one value per key, an empty
value deleting the key. A middleware returns the context it leaves and whether
it calls `c.Next()`; a preflight is aborted with `204 No Content` instead. The
logger is the list of lines it was given, whatever its level lets through.
-/

namespace GoCleanArch

-- `c.Writer.Header()`, one value per key.
abbrev Header := List (String × String)

namespace Header

def get (h : Header) (key : String) : String := (h.lookup key).getD ""

def set (h : Header) (key value : String) : Header :=
  let rest := h.filter fun entry => entry.1 != key
  if value = "" then rest else rest ++ [(key, value)]

end Header

inductive LogLevel where
  | debug
  | info
  | warn
  | error
  deriving DecidableEq, Repr

structure LogLine where
  level : LogLevel
  message : String
  fields : List (String × String)
  deriving DecidableEq, Repr

-- The parts of `c.Request` the middlewares of `main` read.
structure HttpRequest where
  method : String
  path : String
  -- `c.Request.Header.Get("Origin")`
  origin : String
  -- `c.GetHeader("X-Request-ID")`
  requestID : String
  -- `c.ClientIP()`
  clientIP : String
  deriving DecidableEq, Repr

structure Context where
  request : HttpRequest
  header : Header
  logs : List LogLine
  deriving DecidableEq, Repr

structure CORSConfig where
  allowOrigins : List String
  allowMethods : List String
  allowHeaders : List String
  exposeHeaders : List String
  allowCredentials : Bool
  maxAge : Int
  deriving DecidableEq, Repr

def defaultCORSConfig : CORSConfig where
  allowOrigins := ["*"]
  allowMethods := ["GET", "POST", "PUT", "PATCH", "DELETE", "HEAD", "OPTIONS"]
  allowHeaders := ["Origin", "Content-Length", "Content-Type", "Authorization", "Accept",
    "Accept-Encoding", "Accept-Language", "Cache-Control", "Connection", "DNT", "Host",
    "If-Modified-Since", "Keep-Alive", "User-Agent", "X-Requested-With", "X-Request-ID",
    "X-Real-IP", "X-Forwarded-For", "X-Forwarded-Proto"]
  exposeHeaders := ["Content-Length", "X-Request-ID"]
  allowCredentials := true
  maxAge := 86400

-- The loop returns at the first entry that is "*" or the origin itself.
def isOriginAllowed (origin : String) (allowedOrigins : List String) : Bool :=
  allowedOrigins.any fun allowedOrigin => allowedOrigin == "*" || allowedOrigin == origin

def joinHeaders : List String → String
  | [] => ""
  | first :: rest => rest.foldl (fun result header => result ++ ", " ++ header) first

-- `len(cfg.AllowOrigins) == 1 && cfg.AllowOrigins[0] == "*"`
def CORSConfig.loneWildcard (cfg : CORSConfig) : Bool :=
  cfg.allowOrigins.length == 1 && cfg.allowOrigins.head? == some "*"

-- The headers after `Access-Control-Allow-Origin`, set alike by both middlewares.
def corsHeaders (cfg : CORSConfig) (header : Header) : Header :=
  let header := if 0 < cfg.allowMethods.length then
    header.set "Access-Control-Allow-Methods" (joinHeaders cfg.allowMethods) else header
  let header := if 0 < cfg.allowHeaders.length then
    header.set "Access-Control-Allow-Headers" (joinHeaders cfg.allowHeaders) else header
  let header := if 0 < cfg.exposeHeaders.length then
    header.set "Access-Control-Expose-Headers" (joinHeaders cfg.exposeHeaders) else header
  let header := if cfg.allowCredentials then
    header.set "Access-Control-Allow-Credentials" "true" else header
  -- `fmt.Sprintf("%d", cfg.MaxAge)`
  if 0 < cfg.maxAge then header.set "Access-Control-Max-Age" (toString cfg.maxAge) else header

def allowOrigin (cfg : CORSConfig) (c : Context) : Header :=
  if cfg.loneWildcard then c.header.set "Access-Control-Allow-Origin" "*"
  else if c.request.origin != "" && isOriginAllowed c.request.origin cfg.allowOrigins then
    c.header.set "Access-Control-Allow-Origin" c.request.origin
  else c.header

def cors (config : Option CORSConfig) (c : Context) : Context × Bool :=
  let cfg := config.getD defaultCORSConfig
  ({ c with header := corsHeaders cfg (allowOrigin cfg c) }, c.request.method != "OPTIONS")

-- `CORSWithLogger`'s branch, which also warns about an origin it grants nothing.
def allowOriginWithLogger (cfg : CORSConfig) (c : Context) : Header × List LogLine :=
  if cfg.loneWildcard then (c.header.set "Access-Control-Allow-Origin" "*", c.logs)
  else if c.request.origin != "" && isOriginAllowed c.request.origin cfg.allowOrigins then
    (c.header.set "Access-Control-Allow-Origin" c.request.origin, c.logs)
  else if c.request.origin != "" then
    (c.header, c.logs ++ [⟨.warn, "CORS request from disallowed origin: " ++ c.request.origin, []⟩])
  else (c.header, c.logs)

def corsWithLogger (config : Option CORSConfig) (c : Context) : Context × Bool :=
  let cfg := config.getD defaultCORSConfig
  let origin := c.request.origin
  let method := c.request.method
  let c := if origin != "" then
      { c with logs := c.logs ++ [⟨.debug, "CORS request",
        [("origin", origin), ("method", method), ("path", c.request.path)]⟩] }
    else c
  let allowed := allowOriginWithLogger cfg c
  if method = "OPTIONS" then
    ({ c with header := corsHeaders cfg allowed.1,
               logs := allowed.2 ++ [⟨.debug, "CORS preflight request handled", [("origin", origin)]⟩] },
      false)
  else ({ c with header := corsHeaders cfg allowed.1, logs := allowed.2 }, true)

/-! ### The origin policy -/

-- What `Access-Control-Allow-Origin` grants a request from `origin`: "*" to every
-- request under the lone wildcard; otherwise the origin itself, when it is not
-- empty and the list holds it or holds "*".
def originPolicy (cfg : CORSConfig) (origin : String) : Option String :=
  if cfg.allowOrigins = ["*"] then some "*"
  else if origin ≠ "" ∧ ("*" ∈ cfg.allowOrigins ∨ origin ∈ cfg.allowOrigins) then some origin
  else none

theorem isOriginAllowed_iff (origin : String) (allowedOrigins : List String) :
    isOriginAllowed origin allowedOrigins = true ↔ "*" ∈ allowedOrigins ∨ origin ∈ allowedOrigins := by
  simp only [isOriginAllowed, List.any_eq_true, Bool.or_eq_true, beq_iff_eq]
  constructor
  · rintro ⟨allowed, member, rfl | rfl⟩ <;> simp [member]
  · rintro (wildcard | listed) <;> exact ⟨_, ‹_›, by simp⟩

theorem CORSConfig.loneWildcard_iff (cfg : CORSConfig) :
    cfg.loneWildcard = true ↔ cfg.allowOrigins = ["*"] := by
  unfold CORSConfig.loneWildcard
  rcases cfg.allowOrigins with _ | ⟨first, _ | ⟨second, rest⟩⟩ <;> simp

theorem originPolicy_eq (cfg : CORSConfig) (origin : String) :
    originPolicy cfg origin =
      if cfg.loneWildcard then some "*"
      else if (origin != "" && isOriginAllowed origin cfg.allowOrigins) = true then some origin
      else none := by
  simp only [originPolicy, CORSConfig.loneWildcard_iff, Bool.and_eq_true, bne_iff_ne, ne_eq,
    isOriginAllowed_iff]

/-! ### The two middlewares -/

section Middlewares

variable (config : Option CORSConfig) (c : Context)

theorem allowOriginWithLogger_fst (cfg : CORSConfig) : (allowOriginWithLogger cfg c).1 = allowOrigin cfg c := by
  unfold allowOriginWithLogger allowOrigin
  split_ifs <;> rfl

theorem allowOriginWithLogger_snd (cfg : CORSConfig) :
    (allowOriginWithLogger cfg c).2 = c.logs ++
      if c.request.origin ≠ "" ∧ originPolicy cfg c.request.origin = none then
        [⟨.warn, "CORS request from disallowed origin: " ++ c.request.origin, []⟩]
      else [] := by
  rw [originPolicy_eq]
  unfold allowOriginWithLogger
  split_ifs <;> simp_all

theorem cors_request : (cors config c).1.request = c.request := rfl

theorem cors_next : (cors config c).2 = (c.request.method != "OPTIONS") := rfl

theorem corsWithLogger_request : (corsWithLogger config c).1.request = c.request := by
  unfold corsWithLogger
  dsimp only
  split_ifs <;> rfl

theorem corsWithLogger_next : (corsWithLogger config c).2 = (c.request.method != "OPTIONS") := by
  unfold corsWithLogger
  dsimp only
  split_ifs <;> simp [*]

theorem corsWithLogger_header : (corsWithLogger config c).1.header = (cors config c).1.header := by
  unfold corsWithLogger
  dsimp only
  split_ifs <;> simp only [allowOriginWithLogger_fst] <;> rfl

-- The lines `CORSWithLogger` adds: a warning exactly for a request with an origin
-- the policy grants nothing.
theorem corsWithLogger_logs : ∃ lines, (corsWithLogger config c).1.logs = c.logs ++ lines ∧
    ((∃ line ∈ lines, line.level = .warn) ↔
      c.request.origin ≠ "" ∧ originPolicy (config.getD defaultCORSConfig) c.request.origin = none) := by
  unfold corsWithLogger
  dsimp only
  split_ifs <;> simp only [allowOriginWithLogger_snd, List.append_assoc] <;>
    exact ⟨_, rfl, by split_ifs <;> simp_all⟩

end Middlewares

/-- `CORSWithLogger`, which `main` installs, answers every request as `CORS` does:
the same response header, and the same choice between `c.Next()` and the `204`
abort of a preflight. Only the log differs, and it holds a warning exactly when
a request with an `Origin` header is granted nothing. -/
theorem cors_with_logger_agrees (config : Option CORSConfig) (c : Context) :
    (corsWithLogger config c).1.header = (cors config c).1.header ∧
    (corsWithLogger config c).2 = (cors config c).2 ∧
    ∃ lines, (corsWithLogger config c).1.logs = c.logs ++ lines ∧
      ((∃ line ∈ lines, line.level = .warn) ↔
        c.request.origin ≠ "" ∧ originPolicy (config.getD defaultCORSConfig) c.request.origin = none) :=
  ⟨corsWithLogger_header config c, by rw [corsWithLogger_next, cors_next],
    corsWithLogger_logs config c⟩

end GoCleanArch
