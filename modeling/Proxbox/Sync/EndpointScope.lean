import Mathlib.Data.Set.Basic
import Proxbox.Sync.Stages
/-!
# The endpoints of a run

A run is asked to sync some endpoints, given as texts. The stages, the phases of the job that reconcile local
rows, and the preflight each read the texts themselves. All read a text as `int` does; they differ in what they
make of a selection without a readable text, and in whether a text has to be the plain decimal of the key.
-/

namespace Proxbox

open Python

/-! ### Resolvers -/

def stringifiedValues (values : List String) : List String := values.filter (· ≠ "")

def coerceEndpointIds (ids : List String) : List Int :=
  ids.filterMap fun id => if strip id = "" then none else intLiteral (strip id)

/-- `_enabled_endpoint_ids`: the endpoints of the local phases. -/
def enabledEndpointIds (table : EndpointTable) (ids : List String) : List Int :=
  if ids.isEmpty then (enabledRows table).map ProxmoxEndpoint.pk
  else
    let requested := coerceEndpointIds ids
    if requested.isEmpty then [] else (enabledRowsIn table requested).map ProxmoxEndpoint.pk

/-- `_selected_proxmox_endpoints`: the endpoints the preflight pushes. -/
def selectedProxmoxEndpoints (table : EndpointTable) (ids : List String) : List ProxmoxEndpoint :=
  if ids.isEmpty then enabledRows table else enabledRowsIn table (coerceEndpointIds ids)

structure BackendScope where
  params : Option Query
  mapping : Dict Int Int
  error : Option String

def backendScopeOf (endpoints : List ProxmoxEndpoint) (mapping : Dict Int Int) : BackendScope :=
  let backendIds := endpoints.filterMap fun endpoint => (mapping.get? endpoint.pk).map toString
  if backendIds.isEmpty then
    ⟨none, mapping, some "No enabled Proxmox endpoints are registered on the ProxBox backend."⟩
  else
    let params := Dict.ofWrites [("source", "database"), ("proxmox_endpoint_ids", String.intercalate "," backendIds)]
    ⟨some params, mapping, none⟩

/-- `enabled_backend_endpoint_scope`: the query of a local service, without one if no endpoint is in scope. -/
def enabledBackendEndpointScope (view : BackendView) (table : EndpointTable) (endpointIds : Option (List Int)) :
    Except Raised BackendScope := do
  if endpointIds = some [] then return ⟨none, Dict.empty, none⟩
  else
    let endpoints := match endpointIds with
      | none => enabledRows table
      | some ids => enabledRowsIn table ids
    if endpoints.isEmpty then return ⟨none, Dict.empty, none⟩
    else match ← resolveBackendEndpointIds view endpoints with
      | .error text => return if text = "" then backendScopeOf endpoints Dict.empty else ⟨none, Dict.empty, some text⟩
      | .ok mapping => return backendScopeOf endpoints mapping

/-! ### Readings -/

def Names (ids : List String) (endpoint : ProxmoxEndpoint) : Prop :=
  ∃ id ∈ ids, intLiteral (strip id) = some endpoint.pk

section Reading

variable {table : EndpointTable} {ids : List String} {endpoint : ProxmoxEndpoint}

theorem mem_enabledRowsIn {pks : List Int} :
    endpoint ∈ enabledRowsIn table pks ↔ endpoint ∈ enabledRows table ∧ endpoint.pk ∈ pks := by
  rw [enabledRowsIn, List.mem_filter, List.contains_iff_mem]

theorem intLiteral_strip_empty {id : String} (hempty : strip id = "") : intLiteral (strip id) = none := by
  rw [hempty]
  rfl

theorem mem_coerceEndpointIds : endpoint.pk ∈ coerceEndpointIds ids ↔ Names ids endpoint := by
  rw [coerceEndpointIds, List.mem_filterMap]
  refine exists_congr fun id => and_congr_right fun _ => ?_
  split_ifs with hempty
  · simp [intLiteral_strip_empty hempty]
  · rfl

theorem mem_requestedIds {text : String} :
    text ∈ requestedIds ids ↔ (∃ id ∈ ids, strip id = text) ∧ (intLiteral text).isSome := by
  rw [requestedIds, List.mem_filter, List.mem_map]
  refine and_congr_right ?_
  rintro ⟨id, -, rfl⟩
  by_cases hempty : strip id = ""
  · rw [intLiteral_strip_empty hempty]
    simp [hempty]
  · simp [hempty]

theorem mem_filterMap_requestedIds : endpoint.pk ∈ (requestedIds ids).filterMap intLiteral ↔ Names ids endpoint := by
  rw [List.mem_filterMap]
  constructor
  · rintro ⟨text, htext, hread⟩
    obtain ⟨⟨id, hid, rfl⟩, -⟩ := mem_requestedIds.1 htext
    exact ⟨id, hid, hread⟩
  · rintro ⟨id, hid, hread⟩
    exact ⟨strip id, mem_requestedIds.2 ⟨⟨id, hid, rfl⟩, by rw [hread, Option.isSome_some]⟩, hread⟩

theorem requestedIds_stringifiedValues (ids : List String) :
    requestedIds (stringifiedValues ids) = requestedIds ids := by
  induction ids with
  | nil => rfl
  | cons id rest ih =>
    by_cases hempty : id = ""
    · subst hempty
      exact ih
    · have hkept : stringifiedValues (id :: rest) = id :: stringifiedValues rest := List.filter_cons_of_pos (by simpa)
      unfold requestedIds at ih ⊢
      rw [hkept, List.map_cons, List.map_cons, List.filter_cons, List.filter_cons, ih]

theorem requestedIds_ne_nil (hnames : Names ids endpoint) : requestedIds ids ≠ [] := by
  intro hnone
  have hmem := mem_filterMap_requestedIds.2 hnames
  rw [hnone] at hmem
  cases hmem

end Reading

/-! ### The endpoints each part of a run works on -/

def stageEndpoints (table : EndpointTable) (ids : List String) : Set ProxmoxEndpoint :=
  {endpoint ∈ table.rows | [toString endpoint.pk] ∈ proxmoxEndpointScopes table (stringifiedValues ids)}

def localEndpoints (table : EndpointTable) (ids : List String) : Set ProxmoxEndpoint :=
  {endpoint ∈ table.rows | endpoint.pk ∈ enabledEndpointIds table ids}

def preflightEndpoints (table : EndpointTable) (ids : List String) : Set ProxmoxEndpoint :=
  {endpoint | endpoint ∈ selectedProxmoxEndpoints table ids}

section Endpoints

variable {table : EndpointTable} {ids : List String} {endpoint : ProxmoxEndpoint}

theorem EndpointTable.eq_of_toString_eq (table : EndpointTable) {left right : ProxmoxEndpoint}
    (hleft : left ∈ table.rows) (hright : right ∈ table.rows) (htext : toString left.pk = toString right.pk) :
    left = right :=
  table.eq_of_pk_eq hleft hright (toString_inj_of_nonneg left.pk_pos.le right.pk_pos.le htext)

theorem EndpointTable.mem_map_pk (table : EndpointTable) {rows : List ProxmoxEndpoint} (hrows : rows ⊆ table.rows) :
    endpoint ∈ table.rows ∧ endpoint.pk ∈ rows.map ProxmoxEndpoint.pk ↔ endpoint ∈ rows := by
  constructor
  · rintro ⟨hrow, hpk⟩
    obtain ⟨other, hother, hsame⟩ := List.mem_map.1 hpk
    rw [← table.eq_of_pk_eq (hrows hother) hrow hsame]
    exact hother
  · intro hmem
    exact ⟨hrows hmem, List.mem_map_of_mem hmem⟩

theorem enabledRows_subset : enabledRows table ⊆ table.rows := List.filter_subset_self _

theorem enabledRowsIn_subset {pks : List Int} : enabledRowsIn table pks ⊆ table.rows :=
  List.Subset.trans (List.filter_subset_self _) enabledRows_subset

theorem mem_localEndpoints_of_open (hopen : ids = []) :
    endpoint ∈ localEndpoints table ids ↔ endpoint ∈ enabledRows table := by
  subst hopen
  exact table.mem_map_pk enabledRows_subset

theorem mem_localEndpoints (hids : ids ≠ []) :
    endpoint ∈ localEndpoints table ids ↔ endpoint ∈ enabledRows table ∧ Names ids endpoint := by
  have hresolved : enabledEndpointIds table ids
      = (enabledRowsIn table (coerceEndpointIds ids)).map ProxmoxEndpoint.pk := by
    rw [enabledEndpointIds, if_neg (by simpa using hids)]
    dsimp only
    split_ifs with hnone
    · simp [List.isEmpty_iff.1 hnone, enabledRowsIn]
    · rfl
  show endpoint ∈ table.rows ∧ endpoint.pk ∈ enabledEndpointIds table ids ↔ _
  rw [hresolved, table.mem_map_pk enabledRowsIn_subset, mem_enabledRowsIn, mem_coerceEndpointIds]

theorem localEndpoints_eq_preflightEndpoints : localEndpoints table ids = preflightEndpoints table ids := by
  ext endpoint
  by_cases hids : ids = []
  · rw [mem_localEndpoints_of_open hids, hids]
    rfl
  · rw [mem_localEndpoints hids, ← mem_coerceEndpointIds, ← mem_enabledRowsIn]
    show _ ↔ endpoint ∈ selectedProxmoxEndpoints table ids
    rw [selectedProxmoxEndpoints, if_neg (by simpa using hids)]

theorem mem_stageEndpoints_of_unreadable (hnone : requestedIds ids = []) :
    endpoint ∈ stageEndpoints table ids ↔ endpoint ∈ enabledRows table := by
  have hscopes : proxmoxEndpointScopes table (stringifiedValues ids)
      = (enabledRows table).map fun endpoint => [toString endpoint.pk] := by
    simp [proxmoxEndpointScopes, requestedIds_stringifiedValues, hnone]
  show endpoint ∈ table.rows ∧ [toString endpoint.pk] ∈ proxmoxEndpointScopes table (stringifiedValues ids) ↔ _
  rw [hscopes, List.mem_map]
  constructor
  · rintro ⟨hrow, other, hother, hsame⟩
    rw [← table.eq_of_toString_eq (enabledRows_subset hother) hrow (List.singleton_inj.1 hsame)]
    exact hother
  · intro hmem
    exact ⟨enabledRows_subset hmem, endpoint, hmem, rfl⟩

theorem mem_stageEndpoints (hsome : requestedIds ids ≠ []) :
    endpoint ∈ stageEndpoints table ids
      ↔ endpoint ∈ enabledRows table ∧ Names ids endpoint ∧ toString endpoint.pk ∈ requestedIds ids := by
  show endpoint ∈ table.rows ∧ [toString endpoint.pk] ∈ proxmoxEndpointScopes table (stringifiedValues ids) ↔ _
  rw [proxmoxEndpointScopes]
  dsimp only
  rw [requestedIds_stringifiedValues, if_neg (by simpa using hsome)]
  simp only [List.mem_map, List.mem_filter, List.contains_iff_mem, List.singleton_inj]
  constructor
  · rintro ⟨hrow, text, ⟨hrequested, other, hother, rfl⟩, hsame⟩
    obtain rfl := table.eq_of_toString_eq (enabledRowsIn_subset hother) hrow hsame
    obtain ⟨henabled, hnamed⟩ := mem_enabledRowsIn.1 hother
    exact ⟨henabled, mem_filterMap_requestedIds.1 hnamed, hrequested⟩
  · rintro ⟨henabled, hnames, hrequested⟩
    have hfound := mem_enabledRowsIn.2 ⟨henabled, mem_filterMap_requestedIds.2 hnames⟩
    exact ⟨enabledRows_subset henabled, _, ⟨hrequested, endpoint, hfound, rfl⟩, rfl⟩

theorem exists_stageEndpoint {scope : List String}
    (hscope : scope ∈ proxmoxEndpointScopes table (stringifiedValues ids)) :
    ∃ endpoint ∈ stageEndpoints table ids, scope = [toString endpoint.pk] := by
  have hmem := hscope
  rw [proxmoxEndpointScopes] at hscope
  dsimp only at hscope
  split_ifs at hscope
  · obtain ⟨endpoint, hendpoint, rfl⟩ := List.mem_map.1 hscope
    exact ⟨endpoint, ⟨enabledRows_subset hendpoint, hmem⟩, rfl⟩
  · obtain ⟨text, htext, rfl⟩ := List.mem_map.1 hscope
    obtain ⟨endpoint, hendpoint, rfl⟩ := List.mem_map.1 (List.contains_iff_mem.1 (List.of_mem_filter htext))
    exact ⟨endpoint, ⟨enabledRowsIn_subset hendpoint, hmem⟩, rfl⟩

end Endpoints

/-! ### Requests -/

section Requests

variable {cfg : StageConfig} {ids : List String}

variable {params : SyncParams}

theorem runScope_endpointId {P : Option String → Prop} {backend : StageBackend}
    {stages : List SyncType} {wireIds : Except String (Dict String String)} {scope : List String} {log : StageLog}
    (hscope : P scope.head?) (hlog : ∀ request ∈ log.sent, P request.endpointId) :
    ∀ request ∈ (runScope cfg backend params stages wireIds scope log).sent, P request.endpointId := by
  unfold runScope
  split
  · exact runStages_forall backend hlog fun _ _ => hscope
  · dsimp only
    split
    · exact hlog
    · exact runStages_forall backend hlog fun _ _ => hscope

theorem runAllStagesSync_staged {backend : StageBackend} {stages : List SyncType} {log : StageLog}
    (hparams : params.proxmoxEndpointIds = stringifiedValues ids)
    (hrun : runAllStagesSync cfg backend params stages = .ok log) :
    ∀ request ∈ log.sent, ∃ endpoint ∈ stageEndpoints cfg.endpoints ids,
      request.endpointId = some (toString endpoint.pk) := by
  have hnone (request : StageRequest) (hmem : request ∈ []) :
      ∃ endpoint ∈ stageEndpoints cfg.endpoints ids, request.endpointId = some (toString endpoint.pk) := by
    cases hmem
  rw [runAllStagesSync, hparams] at hrun
  split_ifs at hrun
  · obtain rfl := Except.ok.inj hrun
    exact hnone
  · obtain ⟨wireIds, -, hrun⟩ := bind_eq_ok.1 hrun
    obtain rfl := Except.ok.inj hrun
    refine runScopes_forall backend (fun scope hscope log hlog => ?_) hnone
    obtain ⟨endpoint, hendpoint, rfl⟩ := exists_stageEndpoint hscope
    exact runScope_endpointId (P := fun id => ∃ endpoint ∈ stageEndpoints cfg.endpoints ids,
      id = some (toString endpoint.pk)) ⟨endpoint, hendpoint, rfl⟩ hlog

theorem enabledRowsIn_singleton {table : EndpointTable} {endpoint : ProxmoxEndpoint} (hrow : endpoint ∈ table.rows)
    (hsome : enabledRowsIn table [endpoint.pk] ≠ []) : enabledRowsIn table [endpoint.pk] = [endpoint] := by
  have hall : ∀ other ∈ enabledRowsIn table [endpoint.pk], other = endpoint := by
    intro other hother
    have hpk := List.mem_singleton.1 (mem_enabledRowsIn.1 hother).2
    exact table.eq_of_pk_eq (enabledRowsIn_subset hother) hrow hpk
  have hnodup : (enabledRowsIn table [endpoint.pk]).Nodup := (table.pk_nodup.of_map.filter _).filter _
  rw [List.eq_replicate_of_mem hall, List.nodup_replicate] at hnodup
  rw [List.eq_replicate_of_mem hall, Nat.le_antisymm hnodup (List.length_pos_iff.2 hsome)]
  rfl

theorem get?_of_backendScopeOf {endpoint : ProxmoxEndpoint} {mapping : Dict Int Int} {query : Query}
    (hquery : (backendScopeOf [endpoint] mapping).params = some query) :
    ∃ id, mapping.get? endpoint.pk = some id ∧ query.get? "proxmox_endpoint_ids" = some (toString id) := by
  cases hid : mapping.get? endpoint.pk with
  | none =>
    simp only [backendScopeOf, List.filterMap_cons, hid] at hquery
    cases hquery
  | some id =>
    simp only [backendScopeOf, List.filterMap_cons, hid] at hquery
    obtain rfl := Option.some.inj hquery
    exact ⟨id, rfl, rfl⟩

theorem listedId_of_enabledBackendEndpointScope {view : BackendView} {table : EndpointTable}
    {endpoint : ProxmoxEndpoint} (hrow : endpoint ∈ table.rows) {scope : BackendScope} {query : Query}
    (hscope : enabledBackendEndpointScope view table (some [endpoint.pk]) = .ok scope)
    (hquery : scope.params = some query) :
    ∃ id, listedId view endpoint = some id ∧ query.get? "proxmox_endpoint_ids" = some (toString id) := by
  rw [enabledBackendEndpointScope, if_neg (by simp)] at hscope
  dsimp only at hscope
  split_ifs at hscope with hempty
  · obtain rfl := Except.ok.inj hscope
    cases hquery
  · rw [enabledRowsIn_singleton hrow (by simpa using hempty)] at hscope
    obtain ⟨resolved, hresolved, hscope⟩ := bind_eq_ok.1 hscope
    cases resolved with
    | error text =>
      obtain rfl := Except.ok.inj hscope
      split_ifs at hquery
      obtain ⟨id, hid, -⟩ := get?_of_backendScopeOf hquery
      cases hid
    | ok mapping =>
      obtain rfl := Except.ok.inj hscope
      obtain ⟨id, hid, hget⟩ := get?_of_backendScopeOf hquery
      obtain ⟨other, hother, -, -, hlisted⟩ := listedId_of_resolveBackendEndpointIds hresolved hid
      obtain rfl := List.mem_singleton.1 hother
      exact ⟨id, hlisted, hget⟩

end Requests

/-! ### Scopes that never widen -/

/-- What the run works on, for a selection. -/
structure ScopeKept (cfg : StageConfig) (ids : List String) : Prop where
  /-- The stages stay within the enabled endpoints that the selection names. -/
  requests : ids ≠ [] → ∀ backend params stages log, params.proxmoxEndpointIds = stringifiedValues ids →
    runAllStagesSync cfg backend params stages = .ok log → ∀ request ∈ log.sent,
      ∃ endpoint ∈ enabledRows cfg.endpoints, Names ids endpoint ∧ request.endpointId = some (toString endpoint.pk)
  /-- So do the local phases, with what their services ask of the backend. -/
  services : ids ≠ [] → ∀ endpoint ∈ localEndpoints cfg.endpoints ids,
    endpoint ∈ enabledRows cfg.endpoints ∧ Names ids endpoint ∧
      ∀ scope query, enabledBackendEndpointScope cfg.view cfg.endpoints (some [endpoint.pk]) = .ok scope →
        scope.params = some query → ∃ id, listedId cfg.view endpoint = some id ∧
          query.get? "proxmox_endpoint_ids" = some (toString id)
  pushes : ids ≠ [] → ∀ endpoint ∈ preflightEndpoints cfg.endpoints ids,
    endpoint ∈ enabledRows cfg.endpoints ∧ Names ids endpoint
  same : stageEndpoints cfg.endpoints ids = localEndpoints cfg.endpoints ids ∧
    localEndpoints cfg.endpoints ids = preflightEndpoints cfg.endpoints ids

/-- Some text is readable, and each enabled endpoint that one names is named by the plain decimal of its key. -/
def PlainlyNamed (table : EndpointTable) (ids : List String) : Prop :=
  ids = [] ∨ enabledRows table = [] ∨
    requestedIds ids ≠ [] ∧
      ∀ endpoint ∈ enabledRows table, Names ids endpoint → toString endpoint.pk ∈ requestedIds ids

theorem stageEndpoints_eq_iff (table : EndpointTable) (ids : List String) :
    stageEndpoints table ids = localEndpoints table ids ↔ PlainlyNamed table ids := by
  by_cases hids : ids = []
  · refine iff_of_true ?_ (.inl hids)
    ext endpoint
    rw [mem_localEndpoints_of_open hids, mem_stageEndpoints_of_unreadable (by rw [hids]; rfl)]
  · by_cases hsome : requestedIds ids = []
    · -- Nothing is readable: the stages take every enabled endpoint, and the local phases none.
      have hnames (endpoint : ProxmoxEndpoint) : ¬ Names ids endpoint := fun hnames => requestedIds_ne_nil hnames hsome
      constructor
      · intro hsame
        refine .inr (.inl (List.eq_nil_iff_forall_not_mem.2 fun endpoint hendpoint => ?_))
        have hmem := (mem_stageEndpoints_of_unreadable hsome).2 hendpoint
        rw [hsame, mem_localEndpoints hids] at hmem
        exact hnames endpoint hmem.2
      · rintro (hopen | hnone | ⟨hreadable, -⟩)
        · exact absurd hopen hids
        · ext endpoint
          rw [mem_stageEndpoints_of_unreadable hsome, mem_localEndpoints hids, hnone]
          simp
        · exact absurd hsome hreadable
    · constructor
      · intro hsame
        refine .inr (.inr ⟨hsome, fun endpoint hendpoint hnames => ?_⟩)
        have hmem := (mem_localEndpoints hids).2 ⟨hendpoint, hnames⟩
        rw [← hsame, mem_stageEndpoints hsome] at hmem
        exact hmem.2.2
      · intro hplain
        ext endpoint
        rw [mem_stageEndpoints hsome, mem_localEndpoints hids]
        refine and_congr_right fun hendpoint => and_iff_left_of_imp fun hnames => ?_
        rcases hplain with hopen | hnone | ⟨-, hplain⟩
        · exact absurd hopen hids
        · rw [hnone] at hendpoint
          cases hendpoint
        · exact hplain endpoint hendpoint hnames

theorem scopeKept_iff (cfg : StageConfig) (ids : List String) :
    ScopeKept cfg ids ↔ PlainlyNamed cfg.endpoints ids := by
  constructor
  · intro hkept
    exact (stageEndpoints_eq_iff cfg.endpoints ids).1 hkept.same.1
  · intro hplain
    have hsame := (stageEndpoints_eq_iff cfg.endpoints ids).2 hplain
    refine ⟨fun hids backend params stages log hparams hrun request hrequest => ?_, fun hids endpoint hendpoint => ?_,
      fun hids endpoint hendpoint => ?_, hsame, localEndpoints_eq_preflightEndpoints⟩
    · obtain ⟨endpoint, hendpoint, hid⟩ := runAllStagesSync_staged hparams hrun request hrequest
      rw [hsame, mem_localEndpoints hids] at hendpoint
      exact ⟨endpoint, hendpoint.1, hendpoint.2, hid⟩
    · obtain ⟨henabled, hnames⟩ := (mem_localEndpoints hids).1 hendpoint
      exact ⟨henabled, hnames, fun scope query hscope hquery =>
        listedId_of_enabledBackendEndpointScope hendpoint.1 hscope hquery⟩
    · rw [← localEndpoints_eq_preflightEndpoints] at hendpoint
      exact (mem_localEndpoints hids).1 hendpoint

/-! ### A selection without a readable id -/

def listedEndpoint : ProxmoxEndpoint := ⟨1, Int.one_pos, "east", true, true, some "east.example", none, 8006⟩

def listedConfig : StageConfig where
  endpoints := ⟨[listedEndpoint], by decide⟩
  view :=
    { lowerText := lower
      listing := .ok [[("id", .int 7), ("name", .str "east (nb:1)"), ("domain", .str "east.example"), ("port", .int 8006)]]
      cachedPush := fun _ => none
      rowReply := fun _ => .notFound }
  httpUrl := some "http://backend"
  settings := ⟨true, "", 1, false, "", false⟩
  overwrites _ := []
  syncModes _ _ := .always

def answeringBackend : StageBackend := ⟨fun _ _ => ⟨1, .ok (.str "", .bool true)⟩, fun _ _ => false⟩

/-- Asked for an endpoint by a text that names none, the stages sync the enabled one; asked for it by another
spelling of its key, they have none. -/
theorem unreadable_selection_widens :
    ((runAllStagesSync listedConfig answeringBackend ⟨["east"], [], [], "", ""⟩ [.devices]).toOption.map fun log =>
        log.sent.map fun request => (request.endpointId, request.query.get? "proxmox_endpoint_ids"))
      = some [(some "1", some "7")] ∧
    enabledEndpointIds listedConfig.endpoints ["east"] = [] ∧
    selectedProxmoxEndpoints listedConfig.endpoints ["east"] = [] ∧
    proxmoxEndpointScopes listedConfig.endpoints ["01"] = [] ∧ enabledEndpointIds listedConfig.endpoints ["01"] = [1] := by
  decide +kernel

end Proxbox
