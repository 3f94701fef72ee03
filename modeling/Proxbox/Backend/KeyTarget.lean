import Proxbox.Library.Json
/-!
# The target a backend key is bound to

`backend_key_target` and `backend_key_target_fingerprint`: the canonical base URL of a FastAPI endpoint and the
digest of everything a stored key is bound to, that is the URL, the fallback address, the TLS flag and the
WebSocket policy. Python's own parsers of addresses and URLs are parameters.
-/

namespace Proxbox.BackendKey

open Python

structure BackendKeyAdoptionError where
  code : String
  userMessage : String
  statusCode : Option Nat
  retryAfter : Option String
  deriving DecidableEq

def adoptionError (code userMessage : String) : BackendKeyAdoptionError := ⟨code, userMessage, none, none⟩

/-- `str(ip_address(text))`, and whether it is an `IPv6Address`. -/
structure IpAddress where
  text : String
  v6 : Bool

structure SplitUrl where
  scheme : String
  netloc : String
  hostname : Option String
  username : Option String
  password : Option String
  path : String
  query : String
  fragment : String
  port : Option Nat

/-- The parts of the standard library the target depends on; a parser gives `none` where it raises. -/
structure Platform where
  lower : String → String
  ipAddress : String → Option IpAddress
  urlsplit : String → Option SplitUrl
  sha256 : String → String

structure Endpoint where
  pk : Option Int
  enabled : Bool
  domain : String
  ip : Option String
  port : Nat
  useHttps : Bool
  verifySsl : Bool
  useWebsocket : Bool
  websocketDomain : String
  websocketPort : Option Nat
  serverSideWebsocket : Bool
  deriving DecidableEq

def isAlnum (c : Char) : Bool := ('a' ≤ c && c ≤ 'z') || ('A' ≤ c && c ≤ 'Z') || ('0' ≤ c && c ≤ '9')

/-- `[a-zA-Z0-9](?:[a-zA-Z0-9-]{0,61}[a-zA-Z0-9])?`. -/
def isLabel (label : List Char) : Bool :=
  label.length ≤ 63 && label.all (fun c => isAlnum c || c = '-') && label.head?.any isAlnum && label.getLast?.any isAlnum

def isFqdn (domain : String) : Bool :=
  let labels := domain.toList.splitOn '.'
  2 ≤ labels.length && labels.dropLast.all isLabel && labels.getLast?.any fun top => 2 ≤ top.length && top.all isAlnum

def isSimpleHost (domain : String) : Bool := isLabel domain.toList

section Target

variable (platform : Platform)

def canonicalDomain (value : String) : Except BackendKeyAdoptionError String := do
  let domain := platform.lower (strip value)
  ensure (domain ≠ "" ∧ domain.length ≤ 253 ∧ (domain = "localhost" ∨ isFqdn domain ∨ isSimpleHost domain))
    (adoptionError "endpoint_domain_invalid" "Configure a valid backend domain name before adopting an API key.")
  return domain

def bracketed (address : IpAddress) : String := if address.v6 then "[" ++ address.text ++ "]" else address.text

def canonicalIpAuthority : Option String → Except BackendKeyAdoptionError String
  | none => .ok ""
  | some value =>
    match platform.ipAddress (strip (splitHead '/' value)) with
    | some address => .ok (bracketed address)
    | none => .error (adoptionError "endpoint_ip_invalid"
        "Configure a valid backend IP address before adopting an API key.")

def canonicalBackendAuthority (value : String) : Except BackendKeyAdoptionError String :=
  let raw := strip (splitHead '/' value)
  if raw = "" then .ok ""
  else
    match canonicalIpAuthority platform (some raw) with
    | .ok authority => .ok authority
    | .error _ => canonicalDomain platform raw

def addressMissing : BackendKeyAdoptionError :=
  adoptionError "endpoint_address_missing" "Configure a backend domain or IP address before adopting an API key."

def portInvalid : BackendKeyAdoptionError :=
  adoptionError "endpoint_port_invalid" "Configure a valid backend port before adopting an API key."

def SplitUrl.plain (parsed : SplitUrl) : Bool :=
  (platform.lower parsed.scheme = "http" || platform.lower parsed.scheme = "https") &&
    parsed.hostname.any (· ≠ "") && parsed.username = none && parsed.password = none &&
    (parsed.path = "" || parsed.path = "/") && parsed.query = "" && parsed.fragment = "" &&
    !endsWith ":" parsed.netloc

def normalizeBackendBaseUrl (baseUrl : String) : Except BackendKeyAdoptionError String := do
  let raw := strip baseUrl
  ensure (raw ≠ "") addressMissing
  match platform.urlsplit raw with
  | none => throw (adoptionError "endpoint_url_invalid" "Configure a valid backend URL before adopting an API key.")
  | some parsed =>
    ensure (parsed.plain platform) (adoptionError "endpoint_url_invalid"
      "Configure a backend URL containing only an HTTP(S) scheme, host, and port.")
    let hostname := parsed.hostname.getD ""
    let authority ← match platform.ipAddress hostname with
      | some address => pure (bracketed address)
      | none => canonicalDomain platform hostname
    match parsed.port with
    | none => return platform.lower parsed.scheme ++ "://" ++ authority
    | some port =>
      ensure (1 ≤ port ∧ port ≤ 65535) portInvalid
      return platform.lower parsed.scheme ++ "://" ++ authority ++ ":" ++ toString port

variable (endpoint : Endpoint)

def Endpoint.scheme : String := if endpoint.useHttps then "https" else "http"

def backendKeyTarget : Except BackendKeyAdoptionError (String × Bool) := do
  let host ← if strip endpoint.domain ≠ "" then canonicalDomain platform (strip endpoint.domain)
    else canonicalIpAuthority platform endpoint.ip
  ensure (host ≠ "") addressMissing
  ensure (1 ≤ endpoint.port ∧ endpoint.port ≤ 65535) portInvalid
  let baseUrl ← normalizeBackendBaseUrl platform (endpoint.scheme ++ "://" ++ host ++ ":" ++ toString endpoint.port)
  return (baseUrl, endpoint.verifySsl)

def fallbackTarget : Except BackendKeyAdoptionError String := do
  let fallback ← canonicalIpAuthority platform endpoint.ip
  return if fallback = "" then "" else endpoint.scheme ++ "://" ++ fallback ++ ":" ++ toString endpoint.port

/-- `websocket_domain or ip or domain`. -/
def websocketSource : String :=
  if endpoint.websocketDomain ≠ "" then endpoint.websocketDomain else endpoint.ip.getD endpoint.domain

def websocketTarget : Except BackendKeyAdoptionError String := do
  if !endpoint.useWebsocket then return ""
  let host ← canonicalBackendAuthority platform (websocketSource endpoint)
  ensure (host ≠ "") (adoptionError "endpoint_websocket_address_missing"
    "Configure a valid WebSocket host before adopting an API key.")
  let port := endpoint.websocketPort.getD endpoint.port
  ensure (1 ≤ port ∧ port ≤ 65535) (adoptionError "endpoint_websocket_port_invalid"
    "Configure a valid WebSocket port before adopting an API key.")
  return host ++ ":" ++ toString port

structure Binding where
  baseUrl : String
  fallback : String
  verifySsl : Bool
  useWebsocket : Bool
  serverSideWebsocket : Bool
  websocket : String
  deriving DecidableEq

def bit (b : Bool) : String := if b then "1" else "0"

def Binding.payload (binding : Binding) : String :=
  binding.baseUrl ++ "\x00" ++ binding.fallback ++ "\x00" ++ bit binding.verifySsl ++ "\x00" ++ bit binding.useWebsocket
    ++ "\x00" ++ bit binding.serverSideWebsocket ++ "\x00" ++ binding.websocket

def backendKeyBinding : Except BackendKeyAdoptionError Binding := do
  let (baseUrl, verifySsl) ← backendKeyTarget platform endpoint
  ensure (!endpoint.serverSideWebsocket || endpoint.useWebsocket) (adoptionError "endpoint_websocket_policy_invalid"
    "Enable WebSocket before enabling the server-side WebSocket client.")
  let fallback ← fallbackTarget platform endpoint
  let websocket ← websocketTarget platform endpoint
  return ⟨baseUrl, fallback, verifySsl, endpoint.useWebsocket, endpoint.serverSideWebsocket, websocket⟩

def backendKeyTargetFingerprint : Except BackendKeyAdoptionError String := do
  return platform.sha256 (← backendKeyBinding platform endpoint).payload

end Target

end Proxbox.BackendKey
