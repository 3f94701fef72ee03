import Proxbox.Intent.FirewallRoute
import Proxbox.Library.Transaction
/-!
# The gate of a firewall push

A whole push: the checks of who owns the object, the target, the one request, and the status that is stored for
what came of it. A status is stored for a response and for an `HttpError`. The client turns the exceptions of
`requests` into one; an exception from below it, such as that of a header that is not Latin-1, passes by the
handler.
-/

namespace Proxbox

open Python Transaction

inductive FirewallSyncStatus where
  | active
  | stale
  | error
  deriving DecidableEq

structure PushLog where
  written : List FirewallSyncStatus
  sent : List PushRequest

inductive PushFault where
  | refused (error : FirewallPushError)
  | raised (exc : Raised)

abbrev PushAction (α : Type) := Action PushFault PushLog α

/-- A response of the backend that the client passes on. It treats every redirect as a failure. -/
structure CheckedReply where
  statusCode : Nat
  body : Option Json
  text : String
  not_redirect : ¬(300 ≤ statusCode ∧ statusCode < 400)

inductive PushReply where
  | failed (detail : String)
  | escaped (exc : Raised)
  | answered (reply : CheckedReply)

structure FirewallPushResult where
  status : String
  endpointId : Int
  path : String
  method : String
  payload : Fields
  response : Option Fields
  reason : Json
  detail : Json
  httpStatus : Nat

/-- `prepared` is what `requests` refuses before it writes the headers of a request, such as a line break in
one. -/
structure PushWorld where
  cfg : PushConfig
  isNetwork : String → Bool
  prepared : PushRequest → Option String
  exchange : PushRequest → PushReply
  latin1Error : String → String

/-- The actor goes into a header, which `http.client` encodes as Latin-1. The `UnicodeEncodeError` is no exception
of `requests`. -/
def PushWorld.reply (world : PushWorld) (request : PushRequest) : PushReply :=
  match world.prepared request with
  | some detail => .failed detail
  | none =>
    if isLatin1 request.actor then world.exchange request
    else .escaped (.withText (world.latin1Error request.actor))

/-! ### The push -/

def saveStatus (status : FirewallSyncStatus) : PushAction Unit :=
  write fun log => { log with written := log.written ++ [status] }

def recorded {α : Type} (check : Except FirewallPushError α) : PushAction α :=
  tryCatch (raising (check.mapError .refused)) fun fault => do
    saveStatus .error
    throw fault

def pushTarget (cfg : PushConfig) (user : Option OperationalUser) (obj : FirewallObject) :
    PushAction (OperationalTarget cfg.view) := do
  let endpoint ← recorded (firewallWriteEndpoint obj)
  let resolved ← raising ((resolveOperationalTarget cfg user endpoint).mapError .raised)
  recorded (resolved.mapError fun error => ⟨error.reason, error.detail, error.statusCode⟩)

def payloadValue (body : Option Json) (key : String) : Json :=
  match body with
  | some (.obj fields) =>
    match fields.lookup key with
    | some value => value
    | none => Fields.get (Fields.get fields "detail").asDict key
  | _ => .null

def CheckedReply.statusText (reply : CheckedReply) : String :=
  ((payloadValue reply.body "status").or (.str "pushed")).text

def CheckedReply.failure (reply : CheckedReply) : FirewallPushError where
  reason := ((payloadValue reply.body "reason").or (.str "proxmox_firewall_push_failed")).text
  detail := ((payloadValue reply.body "detail").or (.str reply.text)).text
  statusCode := reply.statusCode

def CheckedReply.result (reply : CheckedReply) (route : PushRoute) (endpointId : Int) : FirewallPushResult where
  status := reply.statusText
  endpointId := endpointId
  path := route.path
  method := route.method
  payload := route.payload
  response := reply.body.bind fun body =>
    match body with
    | .obj fields => some fields
    | _ => none
  reason := payloadValue reply.body "reason"
  detail := payloadValue reply.body "detail"
  httpStatus := reply.statusCode

def sendPush (world : PushWorld) (request : PushRequest) (route : PushRoute) : PushAction FirewallPushResult := do
  write fun log => { log with sent := log.sent ++ [request] }
  match world.reply request with
  | .failed detail => recorded (.error ⟨"backend_request_failed", detail, 502⟩)
  | .escaped exc => throw (.raised exc)
  | .answered reply =>
    if 400 ≤ reply.statusCode then recorded (.error reply.failure)
    else
      saveStatus (if reply.statusText = "skipped" then .stale else .active)
      return reply.result route request.endpointId

def runPush (world : PushWorld) (obj : FirewallObject) (route : PushRoute) (actor : String)
    (target : Option (OperationalTarget world.cfg.view)) : PushAction FirewallPushResult := do
  if strip actor = "" then throw (.refused actorRequired)
  else
    let owner ← recorded (requireConsistentFirewallEndpoint obj)
    recorded (ensure (owner.enabled = true)
      ⟨"endpoint_disabled", "The linked Proxmox endpoint is disabled.", 403⟩)
    let target ← authorized owner
    recorded (ensure (target.endpoint.allowWrites = true)
      ⟨"writes_disabled_for_endpoint", "Firewall writes are disabled on the linked Proxmox endpoint.", 403⟩)
    sendPush world (target.request route actor) route
where
  authorized (owner : ProxmoxEndpoint) : PushAction (OperationalTarget world.cfg.view) :=
    match target with
    | none => pushTarget world.cfg none obj
    | some target => do
      recorded (ensure (target.endpoint.pk = owner.pk)
        ⟨"endpoint_mismatch", "The authorized endpoint does not own this firewall object.", 403⟩)
      return target

/-- A call of `push_firewall_object` or of the function for the model, such as `push_rule`. -/
inductive PushCall (view : BackendView) where
  | object (user : Option OperationalUser)
  | helper (target : Option (OperationalTarget view))

def push (world : PushWorld) (raw : Fields) (obj : FirewallObject) (actor : String) :
    PushCall world.cfg.view → PushAction FirewallPushResult
  | .object user => do
    if strip actor = "" then throw (.refused actorRequired)
    else
      let target ← pushTarget world.cfg user obj
      let route ← raising ((pushRoute world.isNetwork raw obj).mapError .refused)
      runPush world obj route actor (some target)
  | .helper target => do
    let route ← raising ((pushRoute world.isNetwork raw obj).mapError .refused)
    runPush world obj route actor target

/-! ### Owners -/

structure GuestOwned (vm : VirtualMachine) (endpoint : ProxmoxEndpoint) (kind : GuestKind) : Prop where
  state : ∃ state, vm.syncState = some state ∧ state.virtualMachineId = vm.pk ∧
    state.endpointId = some endpoint.pk ∧
    (∃ linked, state.endpoint = some linked ∧ linked.pk = endpoint.pk ∧ linked.enabled = true) ∧
    (∀ cluster, state.proxmoxCluster = some cluster → cluster.endpoint.pk = endpoint.pk) ∧
    (∀ node, state.proxmoxNode = some node → node.endpoint.pk = endpoint.pk) ∧
    ∃ vmid, state.proxmoxVmId = some vmid ∧ 0 < vmid
  pk_pos : 0 < vm.pk
  kind_eq : resolveVmType vm = kind

def OwnsGuest (obj : FirewallObject) (endpoint : ProxmoxEndpoint) (kind : GuestKind) : Prop :=
  ∃ vm, virtualMachineForScope obj = some vm ∧ GuestOwned vm endpoint kind

def LinkedTo (related : Option ProxmoxEndpoint) (endpoint : ProxmoxEndpoint) : Prop :=
  ∃ owner, related = some owner ∧ owner.pk = endpoint.pk

/-- The links of the object's zone agree with the endpoint. -/
structure ScopeOwned (obj : FirewallObject) (endpoint : ProxmoxEndpoint) : Prop where
  qemu : firewallScopeForObject obj = some .vmQemu → OwnsGuest obj endpoint .qemu
  lxc : firewallScopeForObject obj = some .vmLxc → OwnsGuest obj endpoint .lxc
  node : firewallScopeForObject obj = some .node → LinkedTo (firewallNodeEndpoint obj) endpoint
  group : firewallScopeForObject obj = some .securityGroup → LinkedTo (firewallGroupEndpoint obj) endpoint

/-- The endpoint the row is linked to, with which the link of its zone agrees. -/
structure OwnedBy (obj : FirewallObject) (endpoint : ProxmoxEndpoint) : Prop where
  linked : explicitFirewallEndpoint obj = some endpoint
  scope : ScopeOwned obj endpoint

theorem positiveInt_eq_some {value : Option Int} {n : Int} : positiveInt value = some n ↔ value = some n ∧ 0 < n := by
  simp [positiveInt, Option.filter_eq_some_iff]

theorem linkedEndpointMatches_iff {linked : Option ProxmoxEndpoint} {id : Int} (hid : 0 < id) :
    linkedEndpointMatches linked id = true ↔ ∀ endpoint, linked = some endpoint → endpoint.pk = id := by
  cases linked with
  | none => simp [linkedEndpointMatches]
  | some endpoint => simp [linkedEndpointMatches, positiveInt_eq_some, hid]

theorem exists_context_iff {vm : VirtualMachine} {endpoint : ProxmoxEndpoint} {kind : GuestKind} :
    (∃ vmid, resolveVmEndpointContext vm = some (endpoint.pk, vmid, kind)) ↔ GuestOwned vm endpoint kind := by
  have hmatches {β : Type} {owner : β → ProxmoxEndpoint} {row : Option β} :
      linkedEndpointMatches (row.map owner) endpoint.pk = true ↔
        ∀ found, row = some found → (owner found).pk = endpoint.pk := by
    rw [linkedEndpointMatches_iff endpoint.pk_pos]
    cases row <;> simp
  simp only [resolveVmEndpointContext, Option.bind_eq_bind, Option.bind_none, Option.bind_eq_some_iff,
    Option.ite_none_left_eq_some, not_not, Option.pure_def, Option.some.injEq, Prod.mk.injEq, positiveInt_eq_some]
  constructor
  · rintro ⟨vmid, state, hstate, pk, ⟨rfl, hpos⟩, ⟨hvm, -⟩, linked, hlinked, id, ⟨hid, -⟩, ⟨hpk, -⟩, henabled,
      hcluster, hnode, vmid', ⟨hvmid, hvmidPos⟩, rfl, rfl, hkind⟩
    exact ⟨⟨state, hstate, hvm, hid, ⟨linked, hlinked, hpk, henabled⟩, hmatches.1 hcluster, hmatches.1 hnode,
      vmid', hvmid, hvmidPos⟩, hpos, hkind⟩
  · rintro ⟨⟨state, hstate, hvm, hid, ⟨linked, hlinked, hpk, henabled⟩, hcluster, hnode, vmid, hvmid, hvmidPos⟩,
      hpos, hkind⟩
    exact ⟨vmid, state, hstate, vm.pk, ⟨rfl, hpos⟩, ⟨hvm, hpos⟩, linked, hlinked, endpoint.pk,
      ⟨hid, endpoint.pk_pos⟩, ⟨hpk, endpoint.pk_pos⟩, henabled, hmatches.2 hcluster, hmatches.2 hnode, vmid,
      ⟨hvmid, hvmidPos⟩, rfl, rfl, hkind⟩

section Owner

variable {obj : FirewallObject} {endpoint : ProxmoxEndpoint}

theorem validateVmEndpointIdentity_eq_ok : validateVmEndpointIdentity obj endpoint = .ok () ↔
    OwnsGuest obj endpoint (if firewallScopeForObject obj = some .vmLxc then .lxc else .qemu) := by
  simp only [OwnsGuest, ← exists_context_iff]
  unfold validateVmEndpointIdentity
  generalize (if firewallScopeForObject obj = some .vmLxc then GuestKind.lxc else .qemu) = wanted
  cases hvm : virtualMachineForScope obj with
  | none => simp
  | some vm =>
    simp only [Option.bind_some]
    split
    · rename_i hcontext
      refine iff_of_false (fun h => ?_) (by simp [hcontext])
      split at h
      · split_ifs at h
      · cases h
    · rename_i id vmid kind hcontext
      split_ifs with hpk hkind
      · exact iff_of_false nofun (by simpa [hcontext] using fun h => absurd h.symm hpk)
      · exact iff_of_false nofun (by simpa [hcontext] using fun _ => hkind)
      · exact iff_of_true rfl ⟨vm, rfl, vmid, by rw [hcontext, not_not.1 hpk, not_not.1 hkind]⟩

theorem requireMatchingEndpoint_eq_ok {related : Option ProxmoxEndpoint} {detail : String} :
    requireMatchingEndpoint endpoint related detail = .ok () ↔ LinkedTo related endpoint := by
  unfold requireMatchingEndpoint
  split_ifs with hpk
  · exact iff_of_true rfl (Option.map_eq_some_iff.1 hpk)
  · exact iff_of_false nofun fun h => hpk (Option.map_eq_some_iff.2 h)

theorem validateFirewallScope_eq_ok : validateFirewallScope obj endpoint = .ok () ↔ ScopeOwned obj endpoint := by
  have hfields : ScopeOwned obj endpoint ↔
      (firewallScopeForObject obj = some .vmQemu → OwnsGuest obj endpoint .qemu) ∧
        (firewallScopeForObject obj = some .vmLxc → OwnsGuest obj endpoint .lxc) ∧
        (firewallScopeForObject obj = some .node → LinkedTo (firewallNodeEndpoint obj) endpoint) ∧
        (firewallScopeForObject obj = some .securityGroup → LinkedTo (firewallGroupEndpoint obj) endpoint) :=
    ⟨fun h => ⟨h.qemu, h.lxc, h.node, h.group⟩, fun h => ⟨h.1, h.2.1, h.2.2.1, h.2.2.2⟩⟩
  rw [hfields]
  unfold validateFirewallScope
  split
  · rename_i hscope
    simp [validateVmEndpointIdentity_eq_ok, hscope]
  · rename_i hscope
    simp [validateVmEndpointIdentity_eq_ok, hscope]
  · rename_i hscope
    simp [requireMatchingEndpoint_eq_ok, hscope]
  · rename_i hscope
    simp [requireMatchingEndpoint_eq_ok, hscope]
  · rename_i hqemu hlxc hnode hgroup
    exact iff_of_true rfl ⟨fun h => absurd h hqemu, fun h => absurd h hlxc, fun h => absurd h hnode,
      fun h => absurd h hgroup⟩

theorem requireConsistentFirewallEndpoint_eq_ok :
    requireConsistentFirewallEndpoint obj = .ok endpoint ↔ OwnedBy obj endpoint := by
  unfold requireConsistentFirewallEndpoint
  split
  · rename_i hlinked
    exact iff_of_false nofun fun h => by
      rw [h.linked] at hlinked
      cases hlinked
  · rename_i found hlinked
    constructor
    · intro h
      obtain ⟨⟨⟩, hvalid, h⟩ := bind_eq_ok.1 h
      obtain rfl := Except.ok.inj h
      exact ⟨hlinked, validateFirewallScope_eq_ok.1 hvalid⟩
    · rintro ⟨hsame, hscope⟩
      obtain rfl := Option.some.inj (hlinked.symm.trans hsame)
      exact bind_eq_ok.2 ⟨(), validateFirewallScope_eq_ok.2 hscope, rfl⟩

theorem OwnedBy.unique {endpoint' : ProxmoxEndpoint} (h : OwnedBy obj endpoint) (h' : OwnedBy obj endpoint') :
    endpoint' = endpoint := Option.some.inj (h'.linked.symm.trans h.linked)

end Owner

/-! ### Every push -/

def PushReply.written : PushReply → List FirewallSyncStatus
  | .failed _ => [.error]
  | .escaped _ => []
  | .answered reply =>
    [if 400 ≤ reply.statusCode then .error else if reply.statusText = "skipped" then .stale else .active]

/-- The owner passes the gate of the call. A target that was given is checked in place of the linked row's own
switch. -/
def PushGate {view : BackendView} (call : PushCall view) (obj : FirewallObject) (owner : ProxmoxEndpoint) : Prop :=
  OwnedBy obj owner ∧ owner.enabled = true ∧
    match call with
    | .helper (some target) => target.endpoint.pk = owner.pk ∧ target.endpoint.allowWrites = true
    | _ => owner.allowWrites = true

section Push

variable {world : PushWorld} {obj : FirewallObject} {actor : String} {route : PushRoute} {cfg : PushConfig}
  {log : PushLog}

def PushLog.refuse (log : PushLog) : PushLog := { log with written := log.written ++ [.error] }

@[simp] theorem wp_recorded {α : Type} {check : Except FirewallPushError α} {value : PushLog → α → Prop}
    {raised : PushLog → PushFault → Prop} : wp (recorded check) log value raised ↔
      (∀ a, check = .ok a → value log a) ∧ ∀ e, check = .error e → raised log.refuse (.refused e) := by
  unfold recorded saveStatus PushLog.refuse
  cases check <;> simp [Except.mapError]

theorem resolveOperationalTarget_pk {user : Option OperationalUser} {endpoint : ProxmoxEndpoint}
    {target : OperationalTarget cfg.view} (h : resolveOperationalTarget cfg user endpoint = .ok (.ok target)) :
    target.endpoint.pk = endpoint.pk := by
  have hbind {endpoint : ProxmoxEndpoint} (h : bindOperationalTarget cfg endpoint = .ok (.ok target)) :
      target.endpoint = endpoint := by
    unfold bindOperationalTarget at h
    split_ifs at h
    · cases h
    · split at h
      · cases h
      · split at h
        · cases h
        · cases h
        · cases h
          rfl
  unfold resolveOperationalTarget at h
  cases user with
  | none => rw [hbind h]
  | some user =>
    dsimp only at h
    split at h
    · cases h
    · rename_i found hfound
      rw [hbind h]
      have hpk := List.find?_some hfound
      simp only [Bool.and_eq_true, decide_eq_true_eq] at hpk
      exact hpk.1

theorem mapError_eq_ok {ε ε' α : Type} {result : Except ε α} {f : ε → ε'} {a : α} :
    result.mapError f = .ok a ↔ result = .ok a := by
  cases result <;> simp [Except.mapError]

theorem mapError_eq_error {ε ε' α : Type} {result : Except ε α} {f : ε → ε'} {e' : ε'} :
    result.mapError f = .error e' ↔ ∃ e, result = .error e ∧ f e = e' := by
  cases result <;> simp [Except.mapError]

def Writable (obj : FirewallObject) (owner : ProxmoxEndpoint) : Prop :=
  OwnedBy obj owner ∧ owner.enabled = true ∧ owner.allowWrites = true

theorem wp_pushTarget {user : Option OperationalUser} : wp (pushTarget cfg user obj) log
    (fun log' target => log' = log ∧ ∃ owner, Writable obj owner ∧ target.endpoint.pk = owner.pk)
    (fun log' fault => log' = log.refuse ∧ (∃ e, fault = .refused e) ∨
      log' = log ∧ (∃ exc, fault = .raised exc) ∧ ∃ owner, Writable obj owner) := by
  unfold pushTarget
  rw [wp_bind, wp_recorded]
  refine ⟨fun endpoint hendpoint => ?_, fun e _ => .inl ⟨rfl, e, rfl⟩⟩
  obtain ⟨howner, henabled, hwrites⟩ := firewallWriteEndpoint_eq_ok.1 hendpoint
  have hwritable : Writable obj endpoint := ⟨requireConsistentFirewallEndpoint_eq_ok.1 howner, henabled, hwrites⟩
  rw [wp_bind, wp_raising]
  refine ⟨fun resolved hresolved => ?_, fun fault hfault => ?_⟩
  · rw [mapError_eq_ok] at hresolved
    rw [wp_recorded]
    refine ⟨fun target htarget => ?_, fun e _ => .inl ⟨rfl, e, rfl⟩⟩
    rw [mapError_eq_ok] at htarget
    subst htarget
    exact ⟨rfl, endpoint, hwritable, resolveOperationalTarget_pk hresolved⟩
  · obtain ⟨exc, -, rfl⟩ := mapError_eq_error.1 hfault
    exact .inr ⟨rfl, ⟨exc, rfl⟩, endpoint, hwritable⟩

/-- A request was handed to the client for the owner, and its reply decided what was stored. -/
structure SentFor (world : PushWorld) (obj : FirewallObject) (actor : String)
    (target : Option (OperationalTarget world.cfg.view)) (log : PushLog) (fault : Option PushFault)
    (owner : ProxmoxEndpoint) (found : OperationalTarget world.cfg.view) (request : PushRequest) : Prop where
  owned : OwnedBy obj owner
  enabled : owner.enabled = true
  target_pk : found.endpoint.pk = owner.pk
  writes : found.endpoint.allowWrites = true
  own_switch : target = none → owner.allowWrites = true
  given : ∀ given, target = some given → found = given
  id : request.endpointId = found.backendEndpointId
  header : request.actor = strip actor
  log_eq : log = ⟨(world.reply request).written, [request]⟩
  fault_eq : fault ≠ none → (world.reply request).written = [.error] ∨
    ∃ exc, fault = some (.raised exc) ∧ world.reply request = .escaped exc

theorem wp_sendPush {request : PushRequest} : wp (sendPush world request route) ⟨[], []⟩
    (fun log _ => log = ⟨(world.reply request).written, [request]⟩)
    (fun log fault => log = ⟨(world.reply request).written, [request]⟩ ∧
      ((world.reply request).written = [.error] ∨
        ∃ exc, fault = .raised exc ∧ world.reply request = .escaped exc)) := by
  unfold sendPush
  rw [wp_bind, wp_write]
  cases hreply : world.reply request with
  | failed detail => exact wp_recorded.2 ⟨nofun, fun _ _ => ⟨rfl, .inl rfl⟩⟩
  | escaped exc => exact wp_throw.2 ⟨rfl, .inr ⟨exc, rfl, rfl⟩⟩
  | answered reply =>
    rw [wp_ite]
    refine ⟨fun hfailed => wp_recorded.2 ⟨nofun, fun _ _ => ?_⟩, fun hfailed => ?_⟩
    · rw [PushReply.written, if_pos hfailed]
      exact ⟨rfl, .inl rfl⟩
    · rw [saveStatus, wp_bind, wp_write, wp_pure, PushReply.written, if_neg hfailed]
      rfl

theorem wp_authorized {target : Option (OperationalTarget world.cfg.view)} {owner : ProxmoxEndpoint}
    (howned : OwnedBy obj owner) : wp (runPush.authorized world obj target owner) log
      (fun log' found => log' = log ∧ found.endpoint.pk = owner.pk ∧ (target = none → owner.allowWrites = true) ∧
        ∀ given, target = some given → found = given)
      (fun log' fault => log' = log.refuse ∧ (∃ e, fault = .refused e) ∨
        log' = log ∧ (∃ exc, fault = .raised exc) ∧ target = none ∧ owner.allowWrites = true) := by
  cases target with
  | none =>
    refine wp_mono wp_pushTarget (fun log' found => ?_) fun log' fault => ?_
    · rintro ⟨rfl, owner', ⟨howned', -, hwrites⟩, hpk⟩
      obtain rfl := howned.unique howned'
      exact ⟨rfl, hpk, fun _ => hwrites, nofun⟩
    · rintro (⟨rfl, hfault⟩ | ⟨rfl, hfault, owner', howned', -, hwrites⟩)
      · exact .inl ⟨rfl, hfault⟩
      · obtain rfl := howned.unique howned'
        exact .inr ⟨rfl, hfault, rfl, hwrites⟩
  | some given =>
    unfold runPush.authorized
    rw [wp_bind, wp_recorded]
    refine ⟨fun _ hpk => wp_pure.2 ⟨rfl, ensure_eq_ok.1 hpk, nofun, ?_⟩, fun e _ => .inl ⟨rfl, e, rfl⟩⟩
    rintro _ ⟨⟩
    rfl

theorem wp_runPush {target : Option (OperationalTarget world.cfg.view)} :
    wp (runPush world obj route actor target) ⟨[], []⟩
      (fun log _ => strip actor ≠ "" ∧ ∃ owner found request, SentFor world obj actor target log none owner found request)
      (fun log fault => (strip actor ≠ "" ∧
          ∃ owner found request, SentFor world obj actor target log (some fault) owner found request) ∨
        (log = ⟨[.error], []⟩ ∧ ∃ e, fault = .refused e) ∨
        log = ⟨[], []⟩ ∧ (strip actor = "" ∨
          (∃ exc, fault = .raised exc) ∧ target = none ∧ ∃ owner, Writable obj owner)) := by
  unfold runPush
  rw [wp_ite]
  refine ⟨fun hactor => wp_throw.2 (.inr (.inr ⟨rfl, .inl hactor⟩)), fun hactor => ?_⟩
  rw [wp_bind, wp_recorded]
  refine ⟨fun owner howner => ?_, fun e _ => .inr (.inl ⟨rfl, e, rfl⟩)⟩
  have howned := requireConsistentFirewallEndpoint_eq_ok.1 howner
  rw [wp_bind, wp_recorded]
  refine ⟨fun _ henabled => ?_, fun e _ => .inr (.inl ⟨rfl, e, rfl⟩)⟩
  rw [ensure_eq_ok] at henabled
  rw [wp_bind]
  refine wp_mono (wp_authorized howned) (fun log found => ?_) fun log fault => ?_
  · rintro ⟨rfl, hpk, hnone, hgiven⟩
    rw [wp_bind, wp_recorded]
    refine ⟨fun _ hwrites => ?_, fun e _ => .inr (.inl ⟨rfl, e, rfl⟩)⟩
    rw [ensure_eq_ok] at hwrites
    refine wp_mono wp_sendPush (fun log _ hlog => ⟨hactor, owner, found, found.request route actor, ?_⟩)
      fun log fault h => .inl ⟨hactor, owner, found, found.request route actor, ?_⟩
    · exact ⟨howned, henabled, hpk, hwrites, hnone, hgiven, rfl, rfl, hlog, fun h => absurd rfl h⟩
    · refine ⟨howned, henabled, hpk, hwrites, hnone, hgiven, rfl, rfl, h.1, fun _ => h.2.imp_right ?_⟩
      rintro ⟨exc, rfl, hreply⟩
      exact ⟨exc, rfl, hreply⟩
  · rintro (⟨rfl, hfault⟩ | ⟨rfl, hfault, hnone, hwrites⟩)
    · exact .inr (.inl ⟨rfl, hfault⟩)
    · exact .inr (.inr ⟨rfl, .inr ⟨hfault, hnone, owner, howned, henabled, hwrites⟩⟩)

/-- How a push can end: what it has stored and sent, and what it raises. -/
inductive PushEnd (world : PushWorld) (raw : Fields) (obj : FirewallObject) (actor : String)
    (call : PushCall world.cfg.view) : PushLog → Option PushFault → Prop
  | sent (log : PushLog) (owner : ProxmoxEndpoint) (found : OperationalTarget world.cfg.view) (request : PushRequest)
      (target : Option (OperationalTarget world.cfg.view)) (fault : Option PushFault) (hactor : strip actor ≠ "")
      (hgate : PushGate call obj owner) (hsent : SentFor world obj actor target log fault owner found request) :
      PushEnd world raw obj actor call log fault
  | refused (e : FirewallPushError) : PushEnd world raw obj actor call ⟨[.error], []⟩ (some (.refused e))
  | raised (owner : ProxmoxEndpoint) (exc : Raised) (hgate : PushGate call obj owner) :
      PushEnd world raw obj actor call ⟨[], []⟩ (some (.raised exc))
  | anonymous (fault : Option PushFault) (hactor : strip actor = "") :
      PushEnd world raw obj actor call ⟨[], []⟩ fault
  | unrouted (e : FirewallPushError) (hroute : pushRoute world.isNetwork raw obj = .error e)
      (hgate : ∀ user, call = .object user → ∃ owner, PushGate call obj owner) :
      PushEnd world raw obj actor call ⟨[], []⟩ (some (.refused e))

variable {raw : Fields} {call : PushCall world.cfg.view}

theorem wp_push : wp (push world raw obj actor call) ⟨[], []⟩ (fun log _ => PushEnd world raw obj actor call log none)
    (fun log fault => PushEnd world raw obj actor call log (some fault)) := by
  cases call with
  | object user =>
    unfold push
    rw [wp_ite]
    refine ⟨fun hactor => wp_throw.2 (.anonymous _ hactor), fun hactor => ?_⟩
    rw [wp_bind]
    refine wp_mono wp_pushTarget (fun log target => ?_) fun log fault => ?_
    · rintro ⟨rfl, owner, ⟨howned, henabled, hwrites⟩, -⟩
      have hgate : PushGate (.object user : PushCall world.cfg.view) obj owner := ⟨howned, henabled, hwrites⟩
      have hsent {log fault owner' found request} (h : SentFor world obj actor (some target) log fault owner' found request) :
          PushEnd world raw obj actor (.object user) log fault :=
        .sent log owner' found request (some target) fault hactor (howned.unique h.owned ▸ hgate) h
      rw [wp_bind, wp_raising]
      refine ⟨fun route _ => ?_, fun fault hroute => ?_⟩
      · refine wp_mono wp_runPush (fun log _ ⟨_, _, _, _, h⟩ => hsent h) fun log fault => ?_
        rintro (⟨-, _, _, _, h⟩ | ⟨rfl, e, rfl⟩ | ⟨rfl, h | ⟨-, h, -⟩⟩)
        · exact hsent h
        · exact .refused e
        · exact .anonymous _ h
        · cases h
      · obtain ⟨e, hfound, rfl⟩ := mapError_eq_error.1 hroute
        exact .unrouted e hfound fun _ _ => ⟨owner, hgate⟩
    · rintro (⟨rfl, e, rfl⟩ | ⟨rfl, ⟨exc, rfl⟩, owner, howned, henabled, hwrites⟩)
      · exact .refused e
      · exact .raised owner exc ⟨howned, henabled, hwrites⟩
  | helper target =>
    have hsent {log fault owner found request} (hactor : strip actor ≠ "")
        (h : SentFor world obj actor target log fault owner found request) :
        PushEnd world raw obj actor (.helper target) log fault := by
      refine .sent log owner found request target fault hactor ⟨h.owned, h.enabled, ?_⟩ h
      cases target with
      | none => exact h.own_switch rfl
      | some given => exact h.given given rfl ▸ ⟨h.target_pk, h.writes⟩
    unfold push
    rw [wp_bind, wp_raising]
    refine ⟨fun route _ => ?_, fun fault hroute => ?_⟩
    · refine wp_mono wp_runPush (fun log _ ⟨hactor, _, _, _, h⟩ => hsent hactor h) fun log fault => ?_
      rintro (⟨hactor, _, _, _, h⟩ | ⟨rfl, e, rfl⟩ | ⟨rfl, h | ⟨⟨exc, rfl⟩, rfl, owner, howned, henabled, hwrites⟩⟩)
      · exact hsent hactor h
      · exact .refused e
      · exact .anonymous _ h
      · exact .raised owner exc ⟨howned, henabled, hwrites⟩
    · obtain ⟨e, hfound, rfl⟩ := mapError_eq_error.1 hroute
      exact .unrouted e hfound nofun

/-! ### The request of a push

The gate of `push_firewall_object`, without what is stored, is `pushFirewallObject`. -/

theorem recorded_ok {α : Type} (a : α) : recorded (.ok a) = pure a := rfl

theorem recorded_bind {α β : Type} (check : Except FirewallPushError α) (next : α → Except FirewallPushError β) :
    recorded (check >>= next) = recorded check >>= fun a => recorded (next a) := by
  cases check <;> rfl

theorem pushTarget_eq (user : Option OperationalUser) : pushTarget cfg user obj =
    raising ((firewallOperationalTarget cfg user obj).mapError .raised) >>= recorded := by
  unfold pushTarget firewallOperationalTarget
  cases firewallWriteEndpoint obj with
  | error e => rfl
  | ok endpoint =>
    rw [recorded_ok, pure_bind]
    dsimp only
    cases resolveOperationalTarget cfg user endpoint with
    | error exc => rfl
    | ok resolved => cases resolved <;> rfl

theorem runPush_eq {target : OperationalTarget world.cfg.view} (hactor : strip actor ≠ "") :
    runPush world obj route actor (some target) =
      recorded (callFirewallBackend obj route actor target) >>= fun request => sendPush world request route := by
  unfold runPush runPush.authorized callFirewallBackend
  rw [if_neg hactor]
  simp only [ensure, if_pos hactor, recorded_bind, recorded_ok, bind_assoc, pure_bind]
  rfl

theorem sendPush_sent {request : PushRequest} : wp (sendPush world request route) log
    (fun log' _ => log'.sent = log.sent ++ [request]) (fun log' _ => log'.sent = log.sent ++ [request]) := by
  unfold sendPush saveStatus
  rw [wp_bind, wp_write]
  cases world.reply request with
  | failed detail => exact wp_recorded.2 ⟨nofun, fun _ _ => rfl⟩
  | escaped exc => exact wp_throw.2 rfl
  | answered reply =>
    rw [wp_ite]
    exact ⟨fun _ => wp_recorded.2 ⟨nofun, fun _ _ => rfl⟩, fun _ => wp_bind.2 (wp_write.2 (wp_pure.2 rfl))⟩

theorem push_sent (user : Option OperationalUser) : let action := push world raw obj actor (.object user)
    (action log).2.sent = log.sent ++
      match pushFirewallObject world.cfg user obj (pushRoute world.isNetwork raw obj) actor with
      | .ok (.ok request) => [request]
      | _ => [] := by
  intro action
  generalize hrequests : (match pushFirewallObject world.cfg user obj (pushRoute world.isNetwork raw obj) actor with
    | .ok (.ok request) => [request]
    | _ => []) = requests
  have hwp : wp action log (fun log' _ => log'.sent = log.sent ++ requests)
      fun log' _ => log'.sent = log.sent ++ requests := by
    subst hrequests
    unfold action push pushFirewallObject
    by_cases hactor : strip actor = ""
    · simp [hactor, pure, Except.pure]
    simp only [if_neg hactor, pushTarget_eq, bind_assoc, wp_bind, wp_raising, mapError_eq_ok, mapError_eq_error]
    refine ⟨fun found hfound => ?_, ?_⟩
    · cases found with
      | error e => simp [hfound, bind, Except.bind, pure, Except.pure, PushLog.refuse]
      | ok target =>
        simp only [hfound, recorded_ok, wp_pure]
        refine ⟨fun route hroute => ?_, ?_⟩
        · rw [runPush_eq hactor, wp_bind, wp_recorded, hroute]
          refine ⟨fun request hrequest => ?_, fun e he => ?_⟩
          · simpa [bind, Except.bind, pure, Except.pure, hrequest] using sendPush_sent
          · simp [bind, Except.bind, pure, Except.pure, he, PushLog.refuse]
        · rintro _ ⟨e, he, rfl⟩
          simp [he, bind, Except.bind, pure, Except.pure]
    · rintro _ ⟨exc, hexc, rfl⟩
      simp [hexc, bind, Except.bind]
  exact @wp_run _ _ _ action log (fun log' _ => log'.sent = log.sent ++ requests) hwp

/-! ### The gate -/

theorem PushReply.active_mem_written {reply : PushReply} (h : .active ∈ reply.written) :
    ∃ answer, reply = .answered answer ∧ answer.statusCode < 300 ∧ answer.statusText ≠ "skipped" := by
  cases reply with
  | failed detail => simp [written] at h
  | escaped exc => cases h
  | answered answer =>
    rw [written, List.mem_singleton] at h
    split_ifs at h with hfailed hskipped
    have hredirect := answer.not_redirect
    exact ⟨answer, rfl, by omega, hskipped⟩

theorem PushReply.written_of_failed {reply : PushReply}
    (h : ∀ answer, reply = .answered answer → 300 ≤ answer.statusCode) :
    reply.written = [.error] ↔ ∀ exc, reply ≠ .escaped exc := by
  cases reply with
  | failed detail => exact iff_of_true rfl nofun
  | escaped exc => exact iff_of_false nofun fun h => h exc rfl
  | answered answer =>
    have hcode := h answer rfl
    have hredirect := answer.not_redirect
    refine iff_of_true ?_ nofun
    rw [written, if_pos (by omega)]

end Push

def lanAlias : FirewallObject :=
  .alias
    { pk := 7, endpoint := some eastEndpoint, scope := .datacenter, virtualMachine := none, name := "lan",
      cidr := "10.0.0.0/8", comment := none }

def acceptingWorld : PushWorld where
  cfg := ⟨⟨[eastEndpoint], by decide⟩, renumberingView, some "http://backend:8800"⟩
  isNetwork := fun _ => true
  prepared := fun _ => none
  exchange := fun _ => .answered ⟨200, none, "", by decide⟩
  latin1Error := fun text => text

end Proxbox
