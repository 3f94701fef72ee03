import Proxbox.Library.Dict
import Proxbox.Model.Inventory
/-!
# Endpoints in the backend's own numbering

proxbox-api numbers the endpoints pushed to it itself; a row carries the plugin's primary key only as a suffix
of its name. The plugin finds the row of an endpoint by that suffix, checks that the row still dials the
endpoint's host and port, and then takes the row's own id. One resolver does so for a single endpoint, with a
cache of recent pushes in front of it, and one for a batch.
-/

namespace Proxbox

open Python

inductive RowReply where
  | notFound
  | failed (detail : String)
  | unreadable
  | json (row : Json)

/-- What the plugin sees of the backend's endpoint table. The listing holds the JSON objects of the reply, or
says why there is none; `cachedPush` is what the push cache has for the endpoint. -/
structure BackendView where
  lowerText : String → String
  listing : Except String (List Fields)
  cachedPush : ProxmoxEndpoint → Option Int
  rowReply : Int → RowReply

def proxmoxBackendName (endpoint : ProxmoxEndpoint) : String :=
  let base := strip (if endpoint.name ≠ "" then endpoint.name else "Proxmox Endpoint")
  (if base ≠ "" then base else "Proxmox Endpoint") ++ " (nb:" ++ toString endpoint.pk ++ ")"

def disabledEndpointDetail (endpoint : ProxmoxEndpoint) : Option String :=
  if endpoint.enabled then none
  else some ("Proxmox endpoint '" ++ endpoint.str ++ "' (id=" ++ toString endpoint.pk ++
    ") is disabled; skipping.")

/-! ### Connection targets -/

def proxmoxConnectionTarget (domain address : String) : String := if domain ≠ "" then domain else address

def normalDomain (lowerText : String → String) (text : String) : String :=
  lowerText (rstripOf '.' (strip text))

def normalAddress (lowerText : String → String) (text : String) : String :=
  lowerText (strip (splitHead '/' text))

def proxmoxIdentityHost (lowerText : String → String) (row : Fields) : String × String :=
  (normalDomain lowerText ((Fields.get row "domain").or (.str "")).text,
    normalAddress lowerText ((Fields.get row "ip_address").or (.str "")).text)

def proxmoxEndpointIdentity (lowerText : String → String) (endpoint : ProxmoxEndpoint) :
    String × String :=
  (normalDomain lowerText (endpoint.domain.getD ""),
    match endpoint.ipAddress with
    | none => ""
    | some address => normalAddress lowerText address)

def proxmoxEndpointTarget (lowerText : String → String) (endpoint : ProxmoxEndpoint) :
    Option (String × Int) :=
  let (domain, address) := proxmoxEndpointIdentity lowerText endpoint
  let host := proxmoxConnectionTarget domain address
  if host = "" then none else some (host, if endpoint.port = 0 then 8006 else endpoint.port)

def proxmoxRowTarget (lowerText : String → String) (row : Fields) :
    Except Raised (Option (String × Int)) := do
  let (domain, address) := proxmoxIdentityHost lowerText row
  let host := proxmoxConnectionTarget domain address
  if host = "" then return none
  else match row.lookup "port" with
    | none => return none
    | some port => return (← port.intOrNone).map (host, ·)

def describeTarget (target : String × Int) : String := target.1 ++ ":" ++ toString target.2

/-! ### The row of an endpoint -/

def backendRowsForEndpoint (rows : List Fields) (endpoint : ProxmoxEndpoint) : List Fields :=
  rows.filter fun row =>
    endsWith ("(nb:" ++ toString endpoint.pk ++ ")") (strip ((Fields.get row "name").or (.str "")).text)

/-- `_resolve_backend_row_id`: the id of the row, or why there is none to use. -/
def resolveBackendRowId (lowerText : String → String) (rows : List Fields)
    (endpoint : ProxmoxEndpoint) : Except Raised (Except String Int) := do
  let name := proxmoxBackendName endpoint
  match backendRowsForEndpoint rows endpoint with
  | _ :: _ :: _ =>
    return .error ("Multiple ProxBox backend rows claim immutable identity nb:" ++
      toString endpoint.pk ++ "; refusing to choose one.")
  | [] =>
    return .error ("Proxmox endpoint '" ++ name ++ "' is not registered on the ProxBox backend yet; " ++
      "cannot scope sync to a single endpoint.")
  | [row] =>
    match proxmoxEndpointTarget lowerText endpoint, ← proxmoxRowTarget lowerText row with
    | none, _ =>
      return .error ("Proxmox endpoint '" ++ name ++ "' resolves no host or port in NetBox, so its " ++
        "ProxBox backend row cannot be confirmed to point at it; set a domain or IP address on the " ++
        "endpoint.")
    | some want, none =>
      return .error ("Proxmox endpoint '" ++ name ++ "' is registered on the ProxBox backend, but the " ++
        "stored row resolves no host or port, so it cannot be confirmed to still point at " ++
        describeTarget want ++ ". Refusing to use it so this endpoint is not synced from the wrong " ++
        "Proxmox host.")
    | some want, some got =>
      if want ≠ got then
        return .error ("Proxmox endpoint '" ++ name ++ "' is registered on the ProxBox backend, but " ++
          "the backend's stored copy points at " ++ describeTarget got ++ " instead of " ++
          describeTarget want ++ ". Refusing to use it so this endpoint is not synced from the wrong " ++
          "Proxmox host; re-run once the endpoint push to the backend succeeds.")
      else match ← (Fields.get row "id").intOrNone with
        | none =>
          return .error ("Proxmox endpoint '" ++ name ++ "' is registered on the ProxBox backend but " ++
            "carries no usable id; cannot scope sync to a single endpoint.")
        | some id => return .ok id

/-! ### One endpoint -/

/-- `_confirmed_cached_proxmox_row`: whether the row of the cached id is still the endpoint's, or the error
of asking for it. -/
def confirmedCachedProxmoxRow (view : BackendView) (endpoint : ProxmoxEndpoint) (id : Int) :
    Except Raised (Except String Bool) := do
  match view.rowReply id with
  | .notFound => return .ok false
  | .failed detail => return .error ("Failed to verify cached ProxBox backend endpoint: " ++ detail)
  | .unreadable => return .ok false
  | .json row =>
    let rows := match row with
      | .obj fields => [fields]
      | _ => []
    let resolved ← resolveBackendRowId view.lowerText rows endpoint
    return .ok (resolved.toOption == some id)

def resolveListedEndpointId (view : BackendView) (endpoint : ProxmoxEndpoint) :
    Except Raised (Except String Int) :=
  match view.listing with
  | .error text => .ok (.error text)
  | .ok rows => resolveBackendRowId view.lowerText rows endpoint

def resolveBackendEndpointId (view : BackendView) (endpoint : ProxmoxEndpoint) :
    Except Raised (Except String Int) := do
  match disabledEndpointDetail endpoint with
  | some detail => return .error detail
  | none =>
    match view.cachedPush endpoint with
    | none => resolveListedEndpointId view endpoint
    | some id =>
      match ← confirmedCachedProxmoxRow view endpoint id with
      | .error text => return .error text
      | .ok true => return .ok id
      | .ok false => resolveListedEndpointId view endpoint

/-! ### A batch of endpoints -/

def resolveStep (lowerText : String → String) (rows : List Fields) (mapping : Dict Int Int)
    (endpoint : ProxmoxEndpoint) : Except Raised (Dict Int Int) := do
  match ← resolveBackendRowId lowerText rows endpoint with
  | .error _ => return mapping
  | .ok id => return mapping.set endpoint.pk id

/-- `resolve_backend_endpoint_ids`: endpoints without a usable row are left out of the map. -/
def resolveBackendEndpointIds (view : BackendView) (endpoints : List ProxmoxEndpoint) :
    Except Raised (Except String (Dict Int Int)) := do
  let enabled := endpoints.filter fun endpoint => (disabledEndpointDetail endpoint).isNone
  if enabled.isEmpty then return .ok Dict.empty
  else match view.listing with
    | .error text => return .error text
    | .ok rows =>
      let mapping ← enabled.foldlM (resolveStep view.lowerText rows) Dict.empty
      return .ok mapping

/-! ### What the map holds -/

def listedId (view : BackendView) (endpoint : ProxmoxEndpoint) : Option Int :=
  match resolveListedEndpointId view endpoint with
  | .ok (.ok id) => some id
  | _ => none

theorem disabledEndpointDetail_isNone {endpoint : ProxmoxEndpoint} :
    (disabledEndpointDetail endpoint).isNone = true ↔ endpoint.enabled = true := by
  unfold disabledEndpointDetail
  split_ifs with henabled <;> simp [henabled]

private theorem get?_of_foldlM_resolveStep {lowerText : String → String} {rows : List Fields}
    {endpoints : List ProxmoxEndpoint} {start mapping : Dict Int Int} {pk id : Int}
    (hfold : endpoints.foldlM (resolveStep lowerText rows) start = .ok mapping)
    (hget : mapping.get? pk = some id) :
    start.get? pk = some id ∨
      ∃ endpoint ∈ endpoints, endpoint.pk = pk ∧
        resolveBackendRowId lowerText rows endpoint = .ok (.ok id) := by
  induction endpoints generalizing start with
  | nil =>
    obtain rfl := Except.ok.inj hfold
    exact .inl hget
  | cons endpoint rest ih =>
    rw [List.foldlM_cons] at hfold
    obtain ⟨next, hstep, hrest⟩ := bind_eq_ok.1 hfold
    rcases ih hrest with hnext | ⟨found, hmem, hfound⟩
    · obtain ⟨resolved, hresolved, hstep⟩ := bind_eq_ok.1 hstep
      cases resolved with
      | error text =>
        obtain rfl := Except.ok.inj hstep
        exact .inl hnext
      | ok own =>
        obtain rfl := Except.ok.inj hstep
        rw [Dict.get?_set] at hnext
        split_ifs at hnext with hpk
        · obtain rfl := Option.some.inj hnext
          exact .inr ⟨endpoint, List.mem_cons_self, hpk.symm, hresolved⟩
        · exact .inl hnext
    · exact .inr ⟨found, List.mem_cons_of_mem _ hmem, hfound⟩

theorem listedId_of_resolveBackendEndpointIds {view : BackendView} {endpoints : List ProxmoxEndpoint}
    {mapping : Dict Int Int} {pk id : Int}
    (h : resolveBackendEndpointIds view endpoints = .ok (.ok mapping)) (hget : mapping.get? pk = some id) :
    ∃ endpoint ∈ endpoints, endpoint.enabled = true ∧ endpoint.pk = pk ∧
      listedId view endpoint = some id := by
  unfold resolveBackendEndpointIds at h
  dsimp only at h
  split_ifs at h with hempty
  · obtain rfl := Except.ok.inj (Except.ok.inj h)
    cases hget
  · cases hlisting : view.listing with
    | error text =>
      simp only [hlisting] at h
      cases h
    | ok rows =>
      simp only [hlisting] at h
      obtain ⟨found, hfold, h⟩ := bind_eq_ok.1 h
      obtain rfl := Except.ok.inj (Except.ok.inj h)
      rcases get?_of_foldlM_resolveStep hfold hget with hstart | ⟨endpoint, hmem, hpk, hresolved⟩
      · cases hstart
      · obtain ⟨hmem, henabled⟩ := List.mem_filter.1 hmem
        refine ⟨endpoint, hmem, disabledEndpointDetail_isNone.1 henabled, hpk, ?_⟩
        simp only [listedId, resolveListedEndpointId, hlisting, hresolved]

section Batch

variable {lowerText : String → String} {rows : List Fields} {view : BackendView} {endpoints : List ProxmoxEndpoint}
  {start mapping : Dict Int Int} {endpoint : ProxmoxEndpoint}

def usableRowId (lowerText : String → String) (rows : List Fields) (endpoint : ProxmoxEndpoint) : Option Int :=
  match resolveBackendRowId lowerText rows endpoint with
  | .ok (.ok id) => some id
  | _ => none

theorem usableRowId_eq_some {id : Int} :
    usableRowId lowerText rows endpoint = some id ↔ resolveBackendRowId lowerText rows endpoint = .ok (.ok id) := by
  unfold usableRowId
  split <;> simp_all

theorem listedId_of_listing (hlisting : view.listing = .ok rows) (endpoint : ProxmoxEndpoint) :
    listedId view endpoint = usableRowId view.lowerText rows endpoint := by
  simp only [listedId, resolveListedEndpointId, hlisting]
  rfl

theorem get?_resolveStep (h : resolveStep lowerText rows start endpoint = .ok mapping) (pk : Int) :
    mapping.get? pk
      = if pk = endpoint.pk then (usableRowId lowerText rows endpoint).or (start.get? pk) else start.get? pk := by
  obtain ⟨resolved, hresolved, h⟩ := bind_eq_ok.1 h
  unfold usableRowId
  cases resolved with
  | error text =>
    obtain rfl := Except.ok.inj h
    simp [hresolved]
  | ok id =>
    obtain rfl := Except.ok.inj h
    simp [hresolved]

private theorem get?_foldlM_resolveStep_of_not_mem {pk : Int} (hpk : pk ∉ endpoints.map ProxmoxEndpoint.pk)
    (hfold : endpoints.foldlM (resolveStep lowerText rows) start = .ok mapping) :
    mapping.get? pk = start.get? pk := by
  induction endpoints generalizing start with
  | nil =>
    obtain rfl := Except.ok.inj hfold
    rfl
  | cons first rest ih =>
    rw [List.foldlM_cons] at hfold
    obtain ⟨next, hstep, hrest⟩ := bind_eq_ok.1 hfold
    rw [List.map_cons, List.mem_cons, not_or] at hpk
    rw [ih hpk.2 hrest, get?_resolveStep hstep, if_neg hpk.1]

private theorem get?_foldlM_resolveStep (hnodup : (endpoints.map ProxmoxEndpoint.pk).Nodup)
    (hfold : endpoints.foldlM (resolveStep lowerText rows) start = .ok mapping) (hmem : endpoint ∈ endpoints) :
    mapping.get? endpoint.pk = (usableRowId lowerText rows endpoint).or (start.get? endpoint.pk) := by
  induction endpoints generalizing start with
  | nil => cases hmem
  | cons first rest ih =>
    rw [List.foldlM_cons] at hfold
    obtain ⟨next, hstep, hrest⟩ := bind_eq_ok.1 hfold
    obtain ⟨hfresh, hnodup⟩ := List.nodup_cons.1 hnodup
    rcases List.mem_cons.1 hmem with rfl | hlater
    · rw [get?_foldlM_resolveStep_of_not_mem hfresh hrest, get?_resolveStep hstep, if_pos rfl]
    · have hne : endpoint.pk ≠ first.pk := by
        intro hsame
        exact hfresh (hsame ▸ List.mem_map_of_mem hlater)
      rw [ih hnodup hrest hlater, get?_resolveStep hstep, if_neg hne]

theorem foldlM_resolveStep_isOk :
    (∃ mapping, endpoints.foldlM (resolveStep lowerText rows) start = .ok mapping)
      ↔ ∀ endpoint ∈ endpoints, ∃ resolved, resolveBackendRowId lowerText rows endpoint = .ok resolved := by
  induction endpoints generalizing start with
  | nil => simp [pure, Except.pure]
  | cons first rest ih =>
    rw [List.forall_mem_cons, List.foldlM_cons]
    constructor
    · rintro ⟨mapping, hfold⟩
      obtain ⟨next, hstep, hrest⟩ := bind_eq_ok.1 hfold
      obtain ⟨resolved, hresolved, -⟩ := bind_eq_ok.1 hstep
      exact ⟨⟨resolved, hresolved⟩, ih.1 ⟨mapping, hrest⟩⟩
    · rintro ⟨⟨resolved, hresolved⟩, hrest⟩
      cases resolved with
      | error text =>
        obtain ⟨mapping, hfold⟩ := ih.2 hrest
        exact ⟨mapping, bind_eq_ok.2 ⟨start, by rw [resolveStep, hresolved]; rfl, hfold⟩⟩
      | ok id =>
        obtain ⟨mapping, hfold⟩ := ih.2 hrest
        exact ⟨mapping, bind_eq_ok.2 ⟨start.set first.pk id, by rw [resolveStep, hresolved]; rfl, hfold⟩⟩

theorem get?_resolveBackendEndpointIds (hnodup : (endpoints.map ProxmoxEndpoint.pk).Nodup)
    (h : resolveBackendEndpointIds view endpoints = .ok (.ok mapping)) (hmem : endpoint ∈ endpoints)
    (henabled : endpoint.enabled = true) :
    mapping.get? endpoint.pk = listedId view endpoint := by
  have hkept : endpoint ∈ endpoints.filter fun endpoint => (disabledEndpointDetail endpoint).isNone :=
    List.mem_filter.2 ⟨hmem, disabledEndpointDetail_isNone.2 henabled⟩
  unfold resolveBackendEndpointIds at h
  dsimp only at h
  rw [if_neg (by simpa using ⟨endpoint, hmem, by simpa using disabledEndpointDetail_isNone.2 henabled⟩)] at h
  cases hlisting : view.listing with
  | error text =>
    simp only [hlisting] at h
    cases h
  | ok rows =>
    simp only [hlisting] at h
    obtain ⟨found, hfold, h⟩ := bind_eq_ok.1 h
    obtain rfl := Except.ok.inj (Except.ok.inj h)
    rw [get?_foldlM_resolveStep (hnodup.sublist (List.filter_sublist.map _)) hfold hkept, listedId_of_listing hlisting]
    exact Option.or_none

end Batch

def renumberingView : BackendView where
  lowerText := lower
  listing := .ok [[("id", .int 7), ("name", .str "east (nb:1)"), ("domain", .str "east.example"),
    ("ip_address", .str "127.0.0.1"), ("port", .int 8006)]]
  cachedPush _ := none
  rowReply _ := .notFound

end Proxbox
