import Proxbox.Backend.EndpointIds
import Proxbox.Intent.FirewallCommon
/-!
# Direct pushes of firewall objects

A push of a firewall object goes to one operational target: an endpoint the user may operate on, bound to
the id the backend has for it. The target is only ever built by resolving the endpoint, and a push sends the
id of its target and no other.
-/

namespace Proxbox

open Python

structure OperationalUser where
  hasLegacyPermission : Bool
  mayOperate : Int → Bool

structure OperationalTargetError where
  reason : String
  detail : String
  statusCode : Nat
  deriving DecidableEq

structure OperationalTarget (view : BackendView) where
  endpoint : ProxmoxEndpoint
  backendEndpointId : Int
  httpUrl : String
  resolved : resolveBackendEndpointId view endpoint = .ok (.ok backendEndpointId)

structure PushConfig where
  endpoints : EndpointTable
  view : BackendView
  httpUrl : Option String

def authorizedEndpoint (table : EndpointTable) (user : OperationalUser) (pk : Int) :
    Option ProxmoxEndpoint :=
  table.rows.find? fun endpoint =>
    endpoint.pk = pk && (user.hasLegacyPermission || user.mayOperate endpoint.pk)

variable (cfg : PushConfig)

/-- The part of `resolve_operational_target` after the authorization. -/
def bindOperationalTarget (endpoint : ProxmoxEndpoint) :
    Except Raised (Except OperationalTargetError (OperationalTarget cfg.view)) :=
  if endpoint.enabled ≠ true then
    .ok (.error ⟨"endpoint_disabled", "The selected Proxmox endpoint is disabled.", 403⟩)
  else match cfg.httpUrl.filter (· ≠ "") with
    | none => .ok (.error
        ⟨"fastapi_endpoint_required", "No enabled ProxBox (FastAPI) backend is configured.", 503⟩)
    | some httpUrl =>
      match hresolved : resolveBackendEndpointId cfg.view endpoint with
      | .error raised => .error raised
      | .ok (.error text) => .ok (.error
          ⟨"backend_endpoint_unresolved",
            if text ≠ "" then text else "Could not resolve this endpoint on the ProxBox backend.", 502⟩)
      | .ok (.ok id) => .ok (.ok ⟨endpoint, id, httpUrl, hresolved⟩)

variable (user : Option OperationalUser)

def resolveOperationalTarget
    (endpoint : ProxmoxEndpoint) :
    Except Raised (Except OperationalTargetError (OperationalTarget cfg.view)) :=
  let authorized := match user with
    | none => some endpoint
    | some user => authorizedEndpoint cfg.endpoints user endpoint.pk
  match authorized with
  | none => .ok (.error
      ⟨"permission_denied", "Proxmox endpoint is outside the operational permission scope.", 404⟩)
  | some endpoint => bindOperationalTarget cfg endpoint

variable (obj : FirewallObject)

def firewallOperationalTarget :
    Except Raised (Except FirewallPushError (OperationalTarget cfg.view)) := do
  match firewallWriteEndpoint obj with
  | .error error => return .error error
  | .ok endpoint =>
    match ← resolveOperationalTarget cfg user endpoint with
    | .error error => return .error ⟨error.reason, error.detail, error.statusCode⟩
    | .ok target => return .ok target

structure PushRoute where
  method : String
  path : String
  payload : Fields

structure PushRequest where
  method : String
  url : String
  endpointId : Int
  payload : Fields
  actor : String

def actorRequired : FirewallPushError :=
  ⟨"actor_required", "Firewall pushes require an authenticated actor.", 422⟩

def pushUrl (httpUrl path : String) (endpointId : Int) : String :=
  let separator := if contains "?" path then "&" else "?"
  rstripOf '/' httpUrl ++ path ++ separator ++ "endpoint_id=" ++ toString endpointId

def OperationalTarget.request {view : BackendView} (target : OperationalTarget view) (route : PushRoute)
    (actor : String) : PushRequest :=
  ⟨route.method, pushUrl target.httpUrl route.path target.backendEndpointId, target.backendEndpointId, route.payload,
    strip actor⟩

/-- `_call_firewall_backend` up to its request, for a target that was resolved before. -/
def callFirewallBackend {view : BackendView} (route : PushRoute) (actor : String)
    (target : OperationalTarget view) : Except FirewallPushError PushRequest := do
  ensure (strip actor ≠ "") actorRequired
  let owner ← requireConsistentFirewallEndpoint obj
  ensure (owner.enabled = true) ⟨"endpoint_disabled", "The linked Proxmox endpoint is disabled.", 403⟩
  ensure (target.endpoint.pk = owner.pk)
    ⟨"endpoint_mismatch", "The authorized endpoint does not own this firewall object.", 403⟩
  ensure (target.endpoint.allowWrites = true)
    ⟨"writes_disabled_for_endpoint", "Firewall writes are disabled on the linked Proxmox endpoint.", 403⟩
  return target.request route actor

/-- `push_firewall_object` up to its request. Finding the route may fail. -/
def pushFirewallObject
    (route : Except FirewallPushError PushRoute) (actor : String) :
    Except Raised (Except FirewallPushError PushRequest) := do
  if strip actor = "" then return .error actorRequired
  else match ← firewallOperationalTarget cfg user obj with
    | .error error => return .error error
    | .ok target => return route.bind fun route => callFirewallBackend obj route actor target

variable {request : PushRequest}

/-- What a push checks once more before it sends its request. -/
structure Admitted {view : BackendView} (obj : FirewallObject) (actor : String) (target : OperationalTarget view) :
    Prop where
  actor_ne : strip actor ≠ ""
  owned : ∃ owner, requireConsistentFirewallEndpoint obj = .ok owner ∧ owner.enabled = true ∧
    target.endpoint.pk = owner.pk
  allows : target.endpoint.allowWrites = true

section Call

variable {view : BackendView} {obj : FirewallObject} {route : PushRoute} {actor : String} {target : OperationalTarget view}

theorem callFirewallBackend_eq_ok_iff : callFirewallBackend obj route actor target = .ok request ↔
    Admitted obj actor target ∧ request = target.request route actor := by
  simp only [callFirewallBackend, bind_eq_ok, ensure_eq_ok]
  constructor
  · rintro ⟨-, hactor, owner, howner, -, henabled, -, hpk, -, hwrites, h⟩
    exact ⟨⟨hactor, ⟨owner, howner, henabled, hpk⟩, hwrites⟩, (Except.ok.inj h).symm⟩
  · rintro ⟨⟨hactor, ⟨owner, howner, henabled, hpk⟩, hwrites⟩, rfl⟩
    exact ⟨(), hactor, owner, howner, (), henabled, (), hpk, (), hwrites, rfl⟩

theorem callFirewallBackend_eq_ok (h : callFirewallBackend obj route actor target = .ok request) :
    request.endpointId = target.backendEndpointId ∧
      ∃ owner, requireConsistentFirewallEndpoint obj = .ok owner ∧ target.endpoint.pk = owner.pk := by
  obtain ⟨hadmitted, rfl⟩ := callFirewallBackend_eq_ok_iff.1 h
  obtain ⟨owner, howner, -, hpk⟩ := hadmitted.owned
  exact ⟨rfl, owner, howner, hpk⟩

end Call

theorem pushFirewallObject_resolved {cfg : PushConfig} {user : Option OperationalUser}
    {obj : FirewallObject} {route : Except FirewallPushError PushRoute} {actor : String}
    (h : pushFirewallObject cfg user obj route actor = .ok (.ok request)) :
    ∃ owner endpoint, requireConsistentFirewallEndpoint obj = .ok owner ∧ endpoint.pk = owner.pk ∧
      resolveBackendEndpointId cfg.view endpoint = .ok (.ok request.endpointId) := by
  unfold pushFirewallObject at h
  split_ifs at h
  · cases h
  · obtain ⟨found, -, h⟩ := bind_eq_ok.1 h
    cases found with
    | error error => cases h
    | ok target =>
      cases route with
      | error error => cases h
      | ok route =>
        obtain ⟨hid, owner, howner, hpk⟩ := callFirewallBackend_eq_ok (Except.ok.inj h)
        exact ⟨owner, target.endpoint, howner, hpk, hid ▸ target.resolved⟩

end Proxbox
