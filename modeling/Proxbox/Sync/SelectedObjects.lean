import Proxbox.Intent.VmIdentity
import Proxbox.Sync.EndpointScope
import Proxbox.Sync.IndividualSync
/-!
# A batch of selected objects

A run for selected objects asks the backend for each of them by names that are unique within one Proxmox
endpoint only. So each object is asked of one endpoint: the one that its cluster was reflected from. The owners
of a cluster are read off the reflected clusters once for the batch, and the run's scope is resolved to the
backend's ids before.
-/

namespace Proxbox

open Python Transaction

/-! ### Stored objects -/

structure CoreCluster where
  pk : Int
  name : String

structure TrackedCluster extends ProxmoxCluster where
  netboxClusterId : Option Int
  name : String

/-- A machine with the names of its clusters. The name of `proxbox_sync_state.proxmox_cluster` is empty without
one. -/
structure BatchMachine extends VirtualMachine where
  trackedClusterName : String
  stateClusterName : String
  coreClusterName : String

structure ProxmoxStorage where
  pk : Int
  cluster : CoreCluster
  name : String
  nodes : Option String

structure VMBackup where
  pk : Int
  proxmoxStorage : Option ProxmoxStorage
  storage : Option String
  virtualMachine : BatchMachine
  volumeId : Option String
  vmid : Option Int

structure VMSnapshot where
  pk : Int
  proxmoxStorage : Option ProxmoxStorage
  virtualMachine : BatchMachine
  name : String
  vmid : Int
  node : String
  subtype : String

structure VMTaskHistory where
  pk : Int
  virtualMachine : BatchMachine
  vmType : String
  upid : String
  node : String

inductive BatchObjectType where
  | virtualMachine
  | vmBackup
  | vmSnapshot
  | proxmoxStorage
  | vmTaskHistory
  deriving DecidableEq

def BatchObjectType.ofName (name : String) : Option BatchObjectType :=
  if name = "virtual-machine" then some .virtualMachine
  else if name = "vm-backup" then some .vmBackup
  else if name = "vm-snapshot" then some .vmSnapshot
  else if name = "proxmox-storage" then some .proxmoxStorage
  else if name = "vm-task-history" then some .vmTaskHistory
  else none

inductive BatchObject where
  | virtualMachine (vm : BatchMachine)
  | vmBackup (backup : VMBackup)
  | vmSnapshot (snapshot : VMSnapshot)
  | proxmoxStorage (storage : ProxmoxStorage)
  | vmTaskHistory (taskHistory : VMTaskHistory)

namespace BatchObject

def type : BatchObject → BatchObjectType
  | .virtualMachine _ => .virtualMachine
  | .vmBackup _ => .vmBackup
  | .vmSnapshot _ => .vmSnapshot
  | .proxmoxStorage _ => .proxmoxStorage
  | .vmTaskHistory _ => .vmTaskHistory

def pk : BatchObject → Int
  | .virtualMachine vm => vm.pk
  | .vmBackup backup => backup.pk
  | .vmSnapshot snapshot => snapshot.pk
  | .proxmoxStorage storage => storage.pk
  | .vmTaskHistory taskHistory => taskHistory.pk

end BatchObject

/-! ### The request of an object -/

section Params

variable (clusters : List TrackedCluster)

def resolveVmClusterName (vm : BatchMachine) : String :=
  let typed := if vm.trackedClusterName ≠ "" then vm.trackedClusterName else vm.stateClusterName
  if typed ≠ "" then typed
  else match vm.cluster with
    | none => ""
    | some cluster =>
      match clusters.find? fun tracked => tracked.netboxClusterId = some cluster with
      | some tracked => tracked.name
      | none => vm.coreClusterName

variable (storage : ProxmoxStorage)

def resolveStorageNodes : String := strip (splitHead ',' (storage.nodes.getD ""))

abbrev BatchParams := Except String (String × List (String × String))

def firstNonEmpty (first second : String) : String := if first ≠ "" then first else second

def resolveVmBatchParams (vm : BatchMachine) : BatchParams :=
  let clusterName := resolveVmClusterName clusters vm
  let node := resolveVmNode vm.toVirtualMachine
  let vmid := resolveVmVmid vm.toVirtualMachine
  if clusterName = "" ∨ node = "" ∨ vmid = "" then .error "Missing VM sync context."
  else .ok ("sync/individual/vm",
    [("cluster_name", clusterName), ("node", node), ("type", (resolveVmType vm.toVirtualMachine).text), ("vmid", vmid)])

/-- The number of a guest in a text, or the machine's if it is zero. -/
def guestId (own : Option Int) (vm : BatchMachine) : String :=
  match own.filter (· ≠ 0) with
  | some vmid => toString vmid
  | none => resolveVmVmid vm.toVirtualMachine

def resolveVmBackupBatchParams (backup : VMBackup) : BatchParams :=
  match backup.proxmoxStorage with
  | none => .error "Missing backup sync context."
  | some storage =>
    let clusterName := storage.cluster.name
    let node := firstNonEmpty (resolveStorageNodes storage) (resolveVmNode backup.virtualMachine.toVirtualMachine)
    let vmid := guestId backup.vmid backup.virtualMachine
    let volumeId := backup.volumeId.getD ""
    let storageName := firstNonEmpty (backup.storage.getD "") storage.name
    if clusterName = "" ∨ node = "" ∨ vmid = "" ∨ storageName = "" ∨ volumeId = "" then
      .error "Missing backup sync context."
    else .ok ("sync/individual/backup",
      [("cluster_name", clusterName), ("node", node), ("storage", storageName), ("vmid", vmid), ("volid", volumeId)])

/-- The kind a row records if that is one of the two, else the machine's. -/
def recordedVmType (recorded : String) (vm : BatchMachine) : Option GuestKind :=
  let typed := lower (strip recorded)
  if typed = "qemu" then some .qemu
  else if typed = "lxc" then some .lxc
  else resolveKnownVmType (some vm.toVirtualMachine)

def resolveVmSnapshotBatchParams (snapshot : VMSnapshot) : BatchParams :=
  let clusterName := resolveVmClusterName clusters snapshot.virtualMachine
  let node := firstNonEmpty snapshot.node (resolveVmNode snapshot.virtualMachine.toVirtualMachine)
  let vmid := guestId (some snapshot.vmid) snapshot.virtualMachine
  match recordedVmType snapshot.subtype snapshot.virtualMachine with
  | none => .error "Missing snapshot sync context."
  | some kind =>
    if clusterName = "" ∨ node = "" ∨ vmid = "" ∨ snapshot.name = "" then .error "Missing snapshot sync context."
    else
      let storage := (snapshot.proxmoxStorage.map ProxmoxStorage.name).filter (· ≠ "")
      .ok ("sync/individual/snapshot",
        [("cluster_name", clusterName), ("node", node), ("type", kind.text), ("vmid", vmid),
          ("snapshot_name", snapshot.name)] ++ (storage.map fun name => ("storage_name", name)).toList)

def resolveStorageBatchParams : BatchParams :=
  if storage.cluster.name = "" ∨ storage.name = "" then .error "Missing storage sync context."
  else .ok ("sync/individual/storage", [("cluster_name", storage.cluster.name), ("storage_name", storage.name)])

def resolveTaskHistoryBatchParams (taskHistory : VMTaskHistory) : BatchParams :=
  let node := firstNonEmpty taskHistory.node (resolveVmNode taskHistory.virtualMachine.toVirtualMachine)
  let vmid := resolveVmVmid taskHistory.virtualMachine.toVirtualMachine
  let clusterName := resolveVmClusterName clusters taskHistory.virtualMachine
  match recordedVmType taskHistory.vmType taskHistory.virtualMachine with
  | none =>
    let context := firstNonEmpty taskHistory.upid
      (if taskHistory.pk = 0 then "unknown" else toString taskHistory.pk)
    .error ("Task history '" ++ context ++ "' has unsupported stored VM type " ++ Python.reprStr taskHistory.vmType ++
      "; expected qemu or lxc, and no valid type could be derived from its linked virtual machine.")
  | some kind =>
    if node = "" ∨ vmid = "" then .error "Missing task-history sync context."
    else .ok ("sync/individual/task-history",
      [("node", node), ("type", kind.text), ("vmid", vmid)] ++
        (if taskHistory.upid ≠ "" then [("upid", taskHistory.upid)] else []) ++
        (if clusterName ≠ "" then [("cluster_name", clusterName)] else []))

def resolveBatchParams : BatchObject → BatchParams
  | .virtualMachine vm => resolveVmBatchParams clusters vm
  | .vmBackup backup => resolveVmBackupBatchParams backup
  | .vmSnapshot snapshot => resolveVmSnapshotBatchParams clusters snapshot
  | .proxmoxStorage storage => resolveStorageBatchParams storage
  | .vmTaskHistory taskHistory => resolveTaskHistoryBatchParams clusters taskHistory

end Params

/-! ### The scope of the run -/

structure WireScope where
  ids : String
  skipped : List String
  error : Option String
  byPk : Dict String String

/-- The end of `_batch_wire_endpoint_scope`: the endpoints in scope that the backend knows. -/
def wireScopeOf (pks : List String) (wireIds : Dict String String) : WireScope :=
  let found := pks.filterMap fun pk => (wireIds.get? pk).map (pk, ·)
  let skipped := pks.filter fun pk => (wireIds.get? pk).isNone
  if found.isEmpty then
    ⟨"", skipped, some ("none of the enabled Proxmox endpoints is registered with this ProxBox backend under a matching " ++
      "connection target, so this sync would not have been scoped to them"), Dict.empty⟩
  else ⟨String.intercalate "," (found.map Prod.snd), skipped, none, Dict.ofWrites found⟩

def batchWireEndpointScope (cfg : StageConfig) (requested : List String) : Except Raised WireScope := do
  let scopes := proxmoxEndpointScopes cfg.endpoints requested
  let pks := scopes.filterMap List.head?
  if scopes.isEmpty then return ⟨"", [], some (noEndpointScopeReason requested), Dict.empty⟩
  else match ← resolveWireEndpointIds cfg scopes with
    | .error text =>
      return if text = "" then wireScopeOf pks Dict.empty
        else ⟨"", [], some ("the enabled Proxmox endpoints could not be resolved to ProxBox backend ids, so this sync " ++
          "would not have been scoped to them: " ++ text), Dict.empty⟩
    | .ok wireIds => return wireScopeOf pks wireIds

/-! ### Owners -/

def clusterIdOf (cluster : Option Int) : Option Int := cluster.filter (· ≠ 0)

def batchObjectCoreClusterId : BatchObject → Option Int
  | .virtualMachine vm => clusterIdOf vm.cluster
  | .proxmoxStorage storage => clusterIdOf (some storage.cluster.pk)
  | .vmBackup backup =>
    (clusterIdOf (backup.proxmoxStorage.map fun storage => storage.cluster.pk)).or
      (clusterIdOf backup.virtualMachine.cluster)
  | .vmSnapshot snapshot =>
    (clusterIdOf snapshot.virtualMachine.cluster).or
      (clusterIdOf (snapshot.proxmoxStorage.map fun storage => storage.cluster.pk))
  | .vmTaskHistory taskHistory => clusterIdOf taskHistory.virtualMachine.cluster

def addOwner (owners : List String) (pk : String) : List String := if pk ∈ owners then owners else owners ++ [pk]

/-- `_owner_endpoint_pks_by_cluster_id`. The endpoint of a stored row is not null. -/
def ownerEndpointPksByClusterId (clusters : List TrackedCluster) (clusterIds : List Int) : Dict Int (List String) :=
  clusters.foldl
    (fun seen row => match row.netboxClusterId with
      | none => seen
      | some cluster =>
        if cluster ∈ clusterIds then
          seen.set cluster (addOwner ((seen.get? cluster).getD []) (toString row.endpoint.pk))
        else seen) Dict.empty

/-! ### One object -/

inductive BatchResult where
  | refused (status : Int) (error : String)
  | synced (status : Int) (response : Fields) (dependencies : List SyncedDependency)

/-- What was done for one object id: what it asked the backend, and how it ended. -/
structure ObjectRun where
  objectId : String
  object : Option BatchObject
  sent : List IndividualRequest
  outcome : Except Raised BatchResult

def jobScopeWireIds (ids : String) : List String := ((split ',' ids).map strip).filter (· ≠ "")

/-- The scope an object is asked with, or why it is not asked for. -/
def objectWireScope (ids : String) (byPk : Dict String String) (owners : List String) : Except String String :=
  match owners with
  | _ :: _ :: _ =>
    .error ("This object's Proxmox cluster is claimed by more than one Proxmox endpoint (ids " ++
      String.intercalate ", " (owners.insertionSort (· ≤ ·)) ++ "), so the endpoint that owns it cannot be determined " ++
      "and it was not synced. Syncing it against every claimant could match another cluster/node/VMID with the same " ++
      "name. Remove the duplicate reflected cluster, then retry.")
  | [owner] =>
    match (byPk.get? owner).filter (· ≠ "") with
    | some pinned => .ok pinned
    | none =>
      .error ("The Proxmox endpoint this object belongs to (id " ++ owner ++ ") is not in this run's endpoint " ++
        "scope, so it was not synced. Syncing it against the remaining endpoints could match another " ++
        "cluster/node/VMID with the same name.")
  | [] =>
    if 1 < (jobScopeWireIds ids).length then
      .error ("The Proxmox endpoint this object belongs to could not be determined — no reflected cluster names an " ++
        "owner — and this run spans " ++ toString (jobScopeWireIds ids).length ++ " Proxmox endpoints, so it was not " ++
        "synced. Syncing it against all of them could match another cluster/node/VMID with the same name. Run a " ++
        "staged sync first so the cluster is reflected, or retry with a single endpoint selected.")
    else .ok ids

/-- What the batch reads and does not change. The depth is that of the interpreter's stack. -/
structure BatchConfig where
  clusters : List TrackedCluster
  objects : List BatchObject
  netboxBranchSchemaId : String
  fastapiEndpointId : Option Int
  depth : Nat

def firstParams (cfg : BatchConfig) (scope : String) (query : List (String × String)) : Dict String Json :=
  let params := Dict.ofWrites (query.map fun field => (field.1, Json.str field.2))
  let params := if cfg.netboxBranchSchemaId = "" then params
    else params.set "netbox_branch_schema_id" (.str cfg.netboxBranchSchemaId)
  if scope = "" then params else params.set "proxmox_endpoint_ids" (.str scope)

def runFound (cfg : BatchConfig) (backend : IndividualBackend) (scope : WireScope) (objectId : String)
    (object : BatchObject) (owners : List String) : ObjectRun :=
  match objectWireScope scope.ids scope.byPk owners with
  | .error text => ⟨objectId, some object, [], .ok (.refused 424 text)⟩
  | .ok wire =>
    match resolveBatchParams cfg.clusters object with
    | .error text => ⟨objectId, some object, [], .ok (.refused 422 text)⟩
    | .ok (path, query) =>
      let args : SyncArguments := ⟨cfg.netboxBranchSchemaId, cfg.fastapiEndpointId, wire⟩
      let (result, state) := syncIndividualWithDependencies backend args cfg.depth path (firstParams cfg wire query)
        Dict.empty ⟨[], []⟩
      ⟨objectId, some object, state.sent,
        result.map fun synced => .synced synced.status synced.response synced.dependencies⟩

def runOne (cfg : BatchConfig) (backend : IndividualBackend) (scope : WireScope) (objects : Dict String BatchObject)
    (owners : Dict String (List String)) (objectId : String) : ObjectRun :=
  match objects.get? objectId with
  | none => ⟨objectId, none, [], .ok (.refused 404 "Selected object was not found.")⟩
  | some object => runFound cfg backend scope objectId object ((owners.get? objectId).getD [])

/-! ### The batch -/

def normalizeBatchObjectIds (objectIds : List String) : List String := stringifiedValues objectIds

/-- The objects of the type that the ids name. Django reads an id as `int` does, and raises where that does. -/
def fetchObjects (cfg : BatchConfig) (type : BatchObjectType) (ids : List String) :
    Except Raised (List BatchObject) := do
  let pks ← ids.mapM fun id => match intLiteral id with
    | some pk => .ok pk
    | none => .error (.withText ("Field 'id' expected a number but got " ++ Python.reprStr id ++ "."))
  return cfg.objects.filter fun object => object.type = type && pks.contains object.pk

def ownersByObjectId (cfg : BatchConfig) (scope : WireScope) (objects : Dict String BatchObject) :
    Dict String (List String) :=
  if scope.byPk.items.isEmpty then Dict.empty
  else
    let clusterIds := objects.items.filterMap fun item => batchObjectCoreClusterId item.2
    let owners := ownerEndpointPksByClusterId cfg.clusters clusterIds
    Dict.ofWrites (objects.items.filterMap fun item =>
      ((batchObjectCoreClusterId item.2).bind owners.get?).map (item.1, ·))

/-- `_run_batch_selected_sync`. The objects are synced at the same time, so each has a backend of its own here.
-/
def runBatchSelectedSync (cfg : BatchConfig) (backend : Nat → IndividualBackend) (scope : WireScope)
    (batchObjectType : String) (batchObjectIds : List String) : Except Raised (List ObjectRun) := do
  match BatchObjectType.ofName batchObjectType with
  | none => throw (.withText ("Unsupported batch object type: " ++ Python.reprStr batchObjectType))
  | some type =>
    let ids := normalizeBatchObjectIds batchObjectIds
    let found ← fetchObjects cfg type ids
    let objects := Dict.ofWrites (found.map fun object => (toString object.pk, object))
    let owners := ownersByObjectId cfg scope objects
    return ids.zipIdx.map fun item => runOne cfg (backend item.2) scope objects owners item.1

/-- The selected-object phase of the job, once its scope is resolved. -/
def syncSelectedObjects (stageCfg : StageConfig) (cfg : BatchConfig) (backend : Nat → IndividualBackend)
    (proxmoxEndpointIds : List String) (batchObjectType : String) (batchObjectIds : List String) :
    Except Raised (WireScope × List ObjectRun) := do
  let scope ← batchWireEndpointScope stageCfg (stringifiedValues proxmoxEndpointIds)
  match scope.error with
  | some text => throw (.withText ("Selected-object sync did not run: " ++ text))
  | none =>
    let runs ← runBatchSelectedSync cfg backend scope batchObjectType batchObjectIds
    return (scope, runs)

/-! ### Who owns an object -/

/-- A reflected cluster of the endpoint is linked to the core cluster the object belongs to. -/
def Claims (clusters : List TrackedCluster) (object : BatchObject) (pk : Int) : Prop :=
  ∃ cluster, batchObjectCoreClusterId object = some cluster ∧
    ∃ row ∈ clusters, row.netboxClusterId = some cluster ∧ row.endpoint.pk = pk

def SoleOwner (clusters : List TrackedCluster) (object : BatchObject) (pk : Int) : Prop :=
  ∀ other, Claims clusters object other ↔ other = pk

section Owners

variable {clusters : List TrackedCluster} {clusterIds : List Int} {cluster : Int} {text : String}

theorem mem_addOwner {owners : List String} {pk : String} : text ∈ addOwner owners pk ↔ text ∈ owners ∨ text = pk := by
  unfold addOwner
  split_ifs with hmem
  · refine ⟨.inl, ?_⟩
    rintro (hold | rfl)
    · exact hold
    · exact hmem
  · simp

theorem nodup_addOwner {owners : List String} (hnodup : owners.Nodup) (pk : String) : (addOwner owners pk).Nodup := by
  unfold addOwner
  split_ifs with hmem
  · exact hnodup
  · exact hnodup.append (List.nodup_singleton pk) (by simpa using hmem)

theorem owners_of_clusters (hcluster : cluster ∈ clusterIds) (clusters : List TrackedCluster) :
    (((ownerEndpointPksByClusterId clusters clusterIds).get? cluster).getD []).Nodup ∧
      ∀ text, text ∈ ((ownerEndpointPksByClusterId clusters clusterIds).get? cluster).getD []
        ↔ ∃ row ∈ clusters, row.netboxClusterId = some cluster ∧ toString row.endpoint.pk = text := by
  unfold ownerEndpointPksByClusterId
  induction clusters using List.reverseRecOn with
  | nil => exact ⟨List.nodup_nil, by simp [Dict.empty, Dict.get?]⟩
  | append_singleton rows row ih =>
    rw [List.foldl_concat]
    generalize List.foldl _ _ rows = seen at ih ⊢
    obtain ⟨hnodup, hmem⟩ := ih
    cases hlinked : row.netboxClusterId with
    | none =>
      refine ⟨hnodup, fun text => ?_⟩
      simp [hmem, hlinked, or_and_right, exists_or]
    | some linked =>
      dsimp only
      by_cases hsame : linked = cluster
      · subst hsame
        rw [if_pos hcluster, Dict.get?_set, if_pos rfl, Option.getD_some]
        refine ⟨nodup_addOwner hnodup _, fun text => ?_⟩
        rw [mem_addOwner, hmem]
        simp [hlinked, or_and_right, exists_or, eq_comm]
      · have hkept : ∀ seen' : Dict Int (List String), seen'.get? cluster = seen.get? cluster →
            ((seen'.get? cluster).getD []).Nodup ∧ ∀ text, text ∈ (seen'.get? cluster).getD []
              ↔ ∃ other ∈ rows ++ [row], other.netboxClusterId = some cluster ∧ toString other.endpoint.pk = text := by
          intro seen' hseen
          rw [hseen]
          refine ⟨hnodup, fun text => ?_⟩
          simp [hmem, hlinked, hsame, or_and_right, exists_or]
        split_ifs
        · exact hkept _ (by rw [Dict.get?_set, if_neg (Ne.symm hsame)])
        · exact hkept _ rfl

end Owners

section Objects

variable {scope : WireScope} {objects : Dict String BatchObject} {objectId : String}
  {object : BatchObject}

def objectOwners (cfg : BatchConfig) (scope : WireScope) (objects : Dict String BatchObject) (objectId : String) :
    List String :=
  ((ownersByObjectId cfg scope objects).get? objectId).getD []

theorem objectOwners_spec (cfg : BatchConfig) (hresolved : scope.byPk.items ≠ [])
    (hobject : objects.get? objectId = some object) :
    (objectOwners cfg scope objects objectId).Nodup ∧
      ∀ text, text ∈ objectOwners cfg scope objects objectId
        ↔ ∃ pk, Claims cfg.clusters object pk ∧ toString pk = text := by
  have hget : (ownersByObjectId cfg scope objects).get? objectId
      = (batchObjectCoreClusterId object).bind (ownerEndpointPksByClusterId cfg.clusters
          (objects.items.filterMap fun item => batchObjectCoreClusterId item.2)).get? := by
    rw [ownersByObjectId, if_neg (by simpa using hresolved)]
    dsimp only
    rw [Dict.get?_ofWrites_filterMap objects fun object => (batchObjectCoreClusterId object).bind _, hobject]
    rfl
  unfold objectOwners
  rw [hget]
  cases hcluster : batchObjectCoreClusterId object with
  | none => simp [Claims, hcluster]
  | some cluster =>
    have hmem : cluster ∈ objects.items.filterMap fun item => batchObjectCoreClusterId item.2 :=
      List.mem_filterMap.2 ⟨_, (objects.mem_items_iff_get? _ _).2 hobject, hcluster⟩
    obtain ⟨hnodup, howners⟩ := owners_of_clusters hmem cfg.clusters
    refine ⟨hnodup, fun text => (howners text).trans ?_⟩
    constructor
    · rintro ⟨row, hrow, hlinked, rfl⟩
      exact ⟨row.endpoint.pk, ⟨cluster, hcluster, row, hrow, hlinked, rfl⟩, rfl⟩
    · rintro ⟨pk, ⟨other, hother, row, hrow, hlinked, rfl⟩, rfl⟩
      obtain rfl := Option.some.inj (hcluster.symm.trans hother)
      exact ⟨row, hrow, hlinked, rfl⟩

theorem Claims.pos {clusters : List TrackedCluster} {pk : Int} (hclaims : Claims clusters object pk) : 0 < pk := by
  obtain ⟨cluster, -, row, -, -, rfl⟩ := hclaims
  exact row.endpoint.pk_pos

end Objects

/-! ### The resolved scope -/

/-- The text is the backend's id of the enabled endpoint of the key. -/
def ListedFor (cfg : StageConfig) (pk wire : String) : Prop :=
  ∃ endpoint ∈ cfg.endpoints.rows, endpoint.enabled = true ∧ toString endpoint.pk = pk ∧
    ∃ id, listedId cfg.view endpoint = some id ∧ toString id = wire

section Resolved

variable {stageCfg : StageConfig} {requested : List String} {scope : WireScope}

/-- The endpoints in scope, each with the backend's id of it. -/
structure WireScope.Resolves (scope : WireScope) (found : List (String × String)) : Prop where
  ids : scope.ids = String.intercalate "," (found.map Prod.snd)
  byPk : scope.byPk = Dict.ofWrites found
  ne_nil : found ≠ []

theorem WireScope.Resolves.items_ne_nil {found : List (String × String)} (hfound : scope.Resolves found) :
    scope.byPk.items ≠ [] := by
  obtain ⟨item, rest, rfl⟩ := List.exists_cons_of_ne_nil hfound.ne_nil
  have hkey : item.1 ∈ scope.byPk.keys := by
    rw [hfound.byPk, Dict.mem_keys_ofWrites]
    exact List.mem_cons_self
  intro hempty
  simp [Dict.keys, hempty] at hkey

theorem wireScopeOf_resolves {pks : List String} {wireIds : Dict String String}
    (herror : (wireScopeOf pks wireIds).error = none) :
    ∃ found, (wireScopeOf pks wireIds).Resolves found ∧ ∀ item ∈ found, wireIds.get? item.1 = some item.2 := by
  unfold wireScopeOf at herror ⊢
  dsimp only at herror ⊢
  split_ifs at herror with hempty
  rw [if_neg hempty]
  refine ⟨_, ⟨rfl, rfl, by simpa using hempty⟩, fun item hitem => ?_⟩
  obtain ⟨pk, -, hfound⟩ := List.mem_filterMap.1 hitem
  obtain ⟨wire, hwire, rfl⟩ := Option.map_eq_some_iff.1 hfound
  exact hwire

theorem batchWireEndpointScope_resolves (hscope : batchWireEndpointScope stageCfg requested = .ok scope)
    (herror : scope.error = none) :
    ∃ found, scope.Resolves found ∧ ∀ item ∈ found, ListedFor stageCfg item.1 item.2 := by
  unfold batchWireEndpointScope at hscope
  dsimp only at hscope
  split_ifs at hscope
  · obtain rfl := Except.ok.inj hscope
    cases herror
  · obtain ⟨resolved, hresolved, hscope⟩ := bind_eq_ok.1 hscope
    cases resolved with
    | error text =>
      obtain rfl := Except.ok.inj hscope
      split_ifs at herror ⊢
      obtain ⟨found, hfound, hlisted⟩ := wireScopeOf_resolves herror
      obtain ⟨item, rest, rfl⟩ := List.exists_cons_of_ne_nil hfound.ne_nil
      cases hlisted item List.mem_cons_self
    | ok wireIds =>
      obtain rfl := Except.ok.inj hscope
      obtain ⟨found, hfound, hlisted⟩ := wireScopeOf_resolves herror
      exact ⟨found, hfound, fun item hitem => listedId_of_resolveWireEndpointIds hresolved (hlisted item hitem)⟩

theorem ListedFor.wire {pk wire : String} (hlisted : ListedFor stageCfg pk wire) :
    wire ≠ "" ∧ ',' ∉ wire.toList ∧ strip wire = wire := by
  obtain ⟨endpoint, -, -, -, id, -, rfl⟩ := hlisted
  refine ⟨toString_ne_empty id, fun hcomma => ?_, strip_toString id⟩
  rcases isDigit_or_sign_of_toString hcomma with hdigit | hsign
  · exact absurd hdigit (by decide)
  · exact absurd hsign (by decide)

theorem jobScopeWireIds_of_resolves {found : List (String × String)} (hfound : scope.Resolves found)
    (hlisted : ∀ item ∈ found, ListedFor stageCfg item.1 item.2) : jobScopeWireIds scope.ids = found.map Prod.snd := by
  have hwires : ∀ wire ∈ found.map Prod.snd, wire ≠ "" ∧ ',' ∉ wire.toList ∧ strip wire = wire := by
    intro wire hwire
    obtain ⟨item, hitem, rfl⟩ := List.mem_map.1 hwire
    exact (hlisted item hitem).wire
  have hsplit : split ',' scope.ids = found.map Prod.snd := by
    rw [hfound.ids]
    exact split_intercalate (by simpa using hfound.ne_nil) fun wire hwire => (hwires wire hwire).2.1
  have hstrip : (found.map Prod.snd).map strip = found.map Prod.snd :=
    (List.map_congr_left fun wire hwire => (hwires wire hwire).2.2).trans (List.map_id _)
  rw [jobScopeWireIds, hsplit, hstrip, List.filter_eq_self]
  intro wire hwire
  simpa using (hwires wire hwire).1

end Resolved

/-! ### Pinning -/

/-- The request names one backend id: that of an enabled endpoint in scope, the owner of the object if it has
one. -/
def Pinned (stageCfg : StageConfig) (clusters : List TrackedCluster) (scope : WireScope) (object : BatchObject)
    (request : IndividualRequest) : Prop :=
  ∃ endpoint ∈ stageCfg.endpoints.rows, endpoint.enabled = true ∧
    (scope.byPk.get? (toString endpoint.pk)).isSome ∧
    (∃ id, listedId stageCfg.view endpoint = some id ∧
      request.params.get? "proxmox_endpoint_ids" = some (.str (toString id))) ∧
    ∀ owner, SoleOwner clusters object owner → endpoint.pk = owner

/-- Several endpoints claim the object, its owner is not in scope, or no endpoint claims it and several are in
scope. -/
def Unpinnable (clusters : List TrackedCluster) (scope : WireScope) (object : BatchObject) : Prop :=
  (∃ first second, Claims clusters object first ∧ Claims clusters object second ∧ first ≠ second) ∨
  (∃ owner, SoleOwner clusters object owner ∧ scope.byPk.get? (toString owner) = none) ∨
  ((∀ pk, ¬ Claims clusters object pk) ∧ 1 < scope.byPk.items.length)

section Pinning

variable {stageCfg : StageConfig} {cfg : BatchConfig} {scope : WireScope} {found : List (String × String)}
  {object : BatchObject} {owners : List String} {wire : String}

theorem objectWireScope_cases (hfound : scope.Resolves found)
    (hlisted : ∀ item ∈ found, ListedFor stageCfg item.1 item.2)
    (hwire : objectWireScope scope.ids scope.byPk owners = .ok wire) :
    (∃ owner, owners = [owner] ∧ scope.byPk.get? owner = some wire ∧ (owner, wire) ∈ found) ∨
      owners = [] ∧ ∃ pk, found = [(pk, wire)] := by
  unfold objectWireScope at hwire
  split at hwire
  · cases hwire
  · next owner =>
      split at hwire
      · next pinned hpinned =>
          obtain rfl := Except.ok.inj hwire
          have hget := (Option.filter_eq_some_iff.1 hpinned).1
          refine .inl ⟨owner, rfl, hget, ?_⟩
          rw [hfound.byPk] at hget
          exact Dict.mem_of_get?_ofWrites hget
      · cases hwire
  · split_ifs at hwire with hmany
    obtain rfl := Except.ok.inj hwire
    rw [jobScopeWireIds_of_resolves hfound hlisted, List.length_map] at hmany
    refine .inr ⟨rfl, ?_⟩
    obtain ⟨item, rest, rfl⟩ := List.exists_cons_of_ne_nil hfound.ne_nil
    obtain rfl : rest = [] := List.length_eq_zero_iff.1 (by simpa using hmany)
    exact ⟨item.1, by simp [hfound.ids]⟩

theorem not_unpinnable (hfound : scope.Resolves found) (hlisted : ∀ item ∈ found, ListedFor stageCfg item.1 item.2)
    (howners : ∀ text, text ∈ owners ↔ ∃ pk, Claims cfg.clusters object pk ∧ toString pk = text)
    (hwire : objectWireScope scope.ids scope.byPk owners = .ok wire) : ¬ Unpinnable cfg.clusters scope object := by
  have hmem {pk : Int} (hclaims : Claims cfg.clusters object pk) : toString pk ∈ owners :=
    (howners _).2 ⟨pk, hclaims, rfl⟩
  obtain ⟨owner, rfl, hget, -⟩ | ⟨rfl, pk, rfl⟩ := objectWireScope_cases hfound hlisted hwire
  · rintro (⟨first, second, hfirst, hsecond, hne⟩ | ⟨sole, hsole, hout⟩ | ⟨hnone, -⟩)
    · have hsame := (List.mem_singleton.1 (hmem hfirst)).trans (List.mem_singleton.1 (hmem hsecond)).symm
      exact hne (toString_inj_of_nonneg hfirst.pos.le hsecond.pos.le hsame)
    · rw [List.mem_singleton.1 (hmem ((hsole sole).2 rfl)), hget] at hout
      cases hout
    · obtain ⟨pk, hclaims, -⟩ := (howners owner).1 List.mem_cons_self
      exact hnone pk hclaims
  · rintro (⟨first, -, hfirst, -⟩ | ⟨sole, hsole, -⟩ | ⟨-, hmany⟩)
    · cases hmem hfirst
    · cases hmem ((hsole sole).2 rfl)
    · have hle := Dict.length_ofWrites_le [(pk, wire)]
      rw [← hfound.byPk] at hle
      exact absurd hmany (by simpa using hle)

theorem pinned_of_scoped (hfound : scope.Resolves found) (hlisted : ∀ item ∈ found, ListedFor stageCfg item.1 item.2)
    (howners : ∀ text, text ∈ owners ↔ ∃ pk, Claims cfg.clusters object pk ∧ toString pk = text)
    (hwire : objectWireScope scope.ids scope.byPk owners = .ok wire) {request : IndividualRequest}
    (hscoped : request.Scoped ⟨cfg.netboxBranchSchemaId, cfg.fastapiEndpointId, wire⟩) :
    Pinned stageCfg cfg.clusters scope object request := by
  obtain ⟨pk, hitem, howner⟩ : ∃ pk, (pk, wire) ∈ found ∧ ∀ text ∈ owners, text = pk := by
    obtain ⟨owner, rfl, -, hitem⟩ | ⟨rfl, pk, rfl⟩ := objectWireScope_cases hfound hlisted hwire
    · exact ⟨owner, hitem, fun text htext => List.mem_singleton.1 htext⟩
    · exact ⟨pk, List.mem_cons_self, fun text htext => by cases htext⟩
  have hne := (hlisted _ hitem).wire.1
  obtain ⟨endpoint, hrow, henabled, rfl, id, hid, rfl⟩ := hlisted _ hitem
  have hscope : toString endpoint.pk ∈ scope.byPk.keys := by
    rw [hfound.byPk, Dict.mem_keys_ofWrites]
    exact List.mem_map_of_mem hitem
  refine ⟨endpoint, hrow, henabled, ?_, ⟨id, hid, ?_⟩, fun owner hsole => ?_⟩
  · exact Option.isSome_iff_exists.2 ((scope.byPk.get?_isSome_iff _).2 hscope)
  · obtain ⟨params, hparams⟩ := hscoped
    rw [hparams, get?_scopedParams params hne]
  · have hclaims := (hsole owner).2 rfl
    have htext := howner _ ((howners _).2 ⟨owner, hclaims, rfl⟩)
    exact (toString_inj_of_nonneg hclaims.pos.le endpoint.pk_pos.le htext).symm

theorem runFound_sent (cfg : BatchConfig) (backend : IndividualBackend) (scope : WireScope) (objectId : String)
    (object : BatchObject) (owners : List String) :
    (runFound cfg backend scope objectId object owners).objectId = objectId ∧
      (runFound cfg backend scope objectId object owners).object = some object ∧
      ((runFound cfg backend scope objectId object owners).sent = [] ∨
        ∃ wire, objectWireScope scope.ids scope.byPk owners = .ok wire ∧
          ∀ request ∈ (runFound cfg backend scope objectId object owners).sent,
            request.Scoped ⟨cfg.netboxBranchSchemaId, cfg.fastapiEndpointId, wire⟩) := by
  unfold runFound
  split
  · exact ⟨rfl, rfl, .inl rfl⟩
  · next wire hwire =>
      split
      · exact ⟨rfl, rfl, .inl rfl⟩
      · next path query hparams =>
          refine ⟨rfl, rfl, .inr ⟨wire, hwire, ?_⟩⟩
          exact (keeps_syncIndividualWithDependencies cfg.depth path (firstParams cfg wire query) Dict.empty).run
            (s := ⟨[], []⟩) fun request hmem => absurd hmem List.not_mem_nil

/-- What a run for an id asks the backend. -/
structure ObjectRun.Kept (stageCfg : StageConfig) (cfg : BatchConfig) (scope : WireScope) (run : ObjectRun) : Prop where
  named : ∀ object, run.object = some object → object ∈ cfg.objects ∧ toString object.pk = run.objectId
  pinned : ∀ request ∈ run.sent, ∃ object, run.object = some object ∧ Pinned stageCfg cfg.clusters scope object request
  refused : ∀ object, run.object = some object → Unpinnable cfg.clusters scope object → run.sent = []

theorem runOne_kept {objects : Dict String BatchObject} (backend : IndividualBackend) (objectId : String)
    (hfound : scope.Resolves found) (hlisted : ∀ item ∈ found, ListedFor stageCfg item.1 item.2)
    (hobjects : ∀ id object, objects.get? id = some object → object ∈ cfg.objects ∧ toString object.pk = id) :
    (runOne cfg backend scope objects (ownersByObjectId cfg scope objects) objectId).Kept stageCfg cfg scope := by
  unfold runOne
  split
  · refine ⟨fun object hsome => ?_, fun request hmem => absurd hmem List.not_mem_nil, fun _ _ _ => rfl⟩
    cases hsome
  · next object hobject =>
      obtain ⟨-, howners⟩ := objectOwners_spec cfg hfound.items_ne_nil hobject
      obtain ⟨hid, hrun, hsent⟩ :=
        runFound_sent cfg backend scope objectId object (objectOwners cfg scope objects objectId)
      change (runFound cfg backend scope objectId object (objectOwners cfg scope objects objectId)).Kept stageCfg cfg scope
      generalize runFound cfg backend scope objectId object (objectOwners cfg scope objects objectId) = run at *
      refine ⟨fun other hother => ?_, fun request hmem => ⟨object, hrun, ?_⟩, fun other hother hunpinnable => ?_⟩
      · obtain rfl := Option.some.inj (hrun.symm.trans hother)
        rw [hid]
        exact hobjects objectId object hobject
      · rcases hsent with hnone | ⟨wire, hwire, hscoped⟩
        · exact absurd hmem (by simp [hnone])
        · exact pinned_of_scoped hfound hlisted howners hwire (hscoped request hmem)
      · obtain rfl := Option.some.inj (hrun.symm.trans hother)
        rcases hsent with hnone | ⟨wire, hwire, -⟩
        · exact hnone
        · exact absurd hunpinnable (not_unpinnable hfound hlisted howners hwire)

end Pinning

/-! ### Every batch -/

theorem fetchObjects_subset {cfg : BatchConfig} {type : BatchObjectType} {ids : List String}
    {found : List BatchObject} (hfetch : fetchObjects cfg type ids = .ok found) : found ⊆ cfg.objects := by
  obtain ⟨pks, -, hfetch⟩ := bind_eq_ok.1 hfetch
  obtain rfl := Except.ok.inj hfetch
  exact List.filter_subset_self _

theorem get?_of_fetched {found : List BatchObject} {id : String} {object : BatchObject}
    (hget : (Dict.ofWrites (found.map fun object => (toString object.pk, object))).get? id = some object) :
    object ∈ found ∧ toString object.pk = id := by
  obtain ⟨other, hother, hsame⟩ := List.mem_map.1 (Dict.mem_of_get?_ofWrites hget)
  obtain ⟨rfl, rfl⟩ := Prod.mk.inj hsame
  exact ⟨hother, rfl⟩

theorem run_of_runBatchSelectedSync {cfg : BatchConfig} {backend : Nat → IndividualBackend} {scope : WireScope}
    {batchObjectType : String} {batchObjectIds : List String} {runs : List ObjectRun} {run : ObjectRun}
    (hruns : runBatchSelectedSync cfg backend scope batchObjectType batchObjectIds = .ok runs) (hrun : run ∈ runs) :
    ∃ objects : Dict String BatchObject,
      (∀ id object, objects.get? id = some object → object ∈ cfg.objects ∧ toString object.pk = id) ∧
      ∃ index objectId, run = runOne cfg (backend index) scope objects (ownersByObjectId cfg scope objects) objectId := by
  unfold runBatchSelectedSync at hruns
  split at hruns
  · cases hruns
  · obtain ⟨found, hfetch, hruns⟩ := bind_eq_ok.1 hruns
    obtain rfl := Except.ok.inj hruns
    obtain ⟨item, -, rfl⟩ := List.mem_map.1 hrun
    refine ⟨_, fun id object hget => ?_, item.2, item.1, rfl⟩
    obtain ⟨hmem, hid⟩ := get?_of_fetched hget
    exact ⟨fetchObjects_subset hfetch hmem, hid⟩

/-- An object is asked of one endpoint, its owner if it has one, and one that cannot be pinned is not asked for.
-/
theorem selectedObjects_kept {stageCfg : StageConfig} {cfg : BatchConfig} {backend : Nat → IndividualBackend}
    {selection : List String} {batchObjectType : String} {batchObjectIds : List String} {scope : WireScope}
    {runs : List ObjectRun}
    (hsync : syncSelectedObjects stageCfg cfg backend selection batchObjectType batchObjectIds = .ok (scope, runs)) :
    ∀ run ∈ runs, run.Kept stageCfg cfg scope := by
  intro run hrun
  obtain ⟨resolved, hresolved, hsync⟩ := bind_eq_ok.1 hsync
  split at hsync
  · cases hsync
  · next herror =>
      obtain ⟨made, hmade, hsync⟩ := bind_eq_ok.1 hsync
      obtain ⟨rfl, rfl⟩ := Prod.mk.inj (Except.ok.inj hsync)
      obtain ⟨found, hfound, hlisted⟩ := batchWireEndpointScope_resolves hresolved herror
      obtain ⟨objects, hobjects, index, objectId, rfl⟩ := run_of_runBatchSelectedSync hmade hrun
      exact runOne_kept (backend index) objectId hfound hlisted hobjects

def unlistedEndpoint : ProxmoxEndpoint := ⟨3, by decide, "west", true, true, some "west.example", none, 8006⟩

/-- Two clusters with an owner each and one that both endpoints claim, with a storage in each. -/
def sampleBatch : BatchConfig where
  clusters := [⟨⟨listedEndpoint⟩, some 5, "dc"⟩, ⟨⟨unlistedEndpoint⟩, some 6, "dc"⟩, ⟨⟨listedEndpoint⟩, some 8, "both"⟩,
    ⟨⟨unlistedEndpoint⟩, some 8, "both"⟩]
  objects := [.proxmoxStorage ⟨10, ⟨5, "dc"⟩, "local", none⟩, .proxmoxStorage ⟨11, ⟨6, "dc"⟩, "local", none⟩,
    .proxmoxStorage ⟨12, ⟨8, "both"⟩, "local", none⟩]
  netboxBranchSchemaId := ""
  fastapiEndpointId := none
  depth := 5

def creatingBackend : IndividualBackend where
  context _ := some ⟨"http://backend", ""⟩
  reply sent _ := if sent.isEmpty then
      .json 200 (.obj [("dependencies_synced",
        .arr [.obj [("object_type", .str "cluster"), ("action", .str "created"), ("name", .str "dc")]])])
    else .json 200 (.obj [])

def sampleSync : Except Raised (WireScope × List ObjectRun) :=
  syncSelectedObjects listedConfig sampleBatch (fun _ => creatingBackend) [] "proxmox-storage" ["10", "11", "12"]

/-- The storage of the endpoint in scope is asked of it, and so is the cluster; the others are not asked for. -/
theorem selectedObjects_kept_sample :
    ∃ scope runs, sampleSync = .ok (scope, runs) ∧
      (runs.map fun run => (run.objectId, run.sent.map fun request =>
        (request.url, (request.params.get? "proxmox_endpoint_ids").map Json.text)))
        = [("10", [("http://backend/sync/individual/storage", some "7"),
            ("http://backend/sync/individual/cluster", some "7")]), ("11", []), ("12", [])] ∧
      ∀ run ∈ runs, run.Kept listedConfig sampleBatch scope := by
  have hsent : (sampleSync.toOption.map fun result => result.2.map fun run =>
      (run.objectId, run.sent.map fun request =>
        (request.url, (request.params.get? "proxmox_endpoint_ids").map Json.text)))
      = some [("10", [("http://backend/sync/individual/storage", some "7"),
          ("http://backend/sync/individual/cluster", some "7")]), ("11", []), ("12", [])] := by
    decide +kernel
  obtain ⟨⟨scope, runs⟩, hsync, hruns⟩ := Option.map_eq_some_iff.1 hsent
  have hresult : sampleSync = .ok (scope, runs) := toOption_eq_some.1 hsync
  exact ⟨scope, runs, hresult, hruns, selectedObjects_kept hresult⟩

end Proxbox
