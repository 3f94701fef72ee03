import Mathlib.Data.List.Sort
import Proxbox.Library.Dict
import Proxbox.Library.Json
import Proxbox.Library.Transaction
/-!
# One object and its dependencies

A selected object is synced by one request to the backend, whose answer may name further objects; each of these
is synced by a request of its own, and so on. The texts that identify an object are passed on from request to
request; the endpoint scope is an argument, and is written into every request.
-/

namespace Proxbox

open Python Transaction

/-! ### One request -/

structure FastapiContext where
  httpUrl : String
  ipAddressUrl : String

structure IndividualRequest where
  url : String
  params : Dict String Json

/-- How a request ends. An exception of the request may carry the response. -/
inductive IndividualReply where
  | json (status : Int) (payload : Json)
  | unreadable
  | failed (detail : String) (status : Option Int) (answered : Bool)
  | invalid
  | unexpected (text : String)

/-- The outside of a sync. What it shows may depend on the requests before. -/
structure IndividualBackend where
  context : List IndividualRequest → Option FastapiContext
  reply : List IndividualRequest → IndividualRequest → IndividualReply

/-- The arguments that every recursive call passes on unchanged. A missing text is empty. -/
structure SyncArguments where
  netboxBranchSchemaId : String
  fastapiEndpointId : Option Int
  proxmoxEndpointIds : String

structure IndividualState where
  visited : List String
  sent : List IndividualRequest

abbrev IndividualM := Action Raised IndividualState

section Requests

variable (backend : IndividualBackend) (args : SyncArguments)

def scopedParams (params : Dict String Json) : Dict String Json :=
  let params := if args.netboxBranchSchemaId = "" then params
    else params.set "netbox_branch_schema_id" (.str args.netboxBranchSchemaId)
  if args.proxmoxEndpointIds = "" then params else params.set "proxmox_endpoint_ids" (.str args.proxmoxEndpointIds)

def notConfigured : String :=
  match args.fastapiEndpointId with
  | some id => "The FastAPI endpoint selected for this run (id " ++ toString id ++ ") is not configured or not enabled."
  | none => "No FastAPI endpoint configured."

def invalidJsonDetail : String :=
  "ProxBox backend returned a response that is not valid JSON. Check that the FastAPI URL points to proxbox-api, not " ++
    "another service."

def requestCandidates (context : FastapiContext) (path : String) : List String :=
  let url := context.httpUrl ++ "/" ++ path
  let fallback := context.ipAddressUrl ++ "/" ++ path
  if context.ipAddressUrl ≠ "" ∧ fallback ≠ url then [url, fallback] else [url]

def lastFailure (error : String) (status : Int) : Fields × Int :=
  ([("error", .str (if error ≠ "" then error else "Unable to reach the ProxBox backend."))], status)

def tryCandidates (params : Dict String Json) : List String → String → Int → IndividualM (Fields × Int)
  | [], error, status => return lastFailure error status
  | url :: rest, _, _ => do
      let state ← read
      let reply := backend.reply state.sent ⟨url, params⟩
      write fun state => { state with sent := state.sent ++ [⟨url, params⟩] }
      match reply with
      | .json status (.obj fields) => return (fields, status)
      | .json status payload => return ([("response", payload)], status)
      | .unreadable => return ([("error", .str invalidJsonDetail)], 502)
      | .failed detail status answered =>
        let status := (status.filter (· ≠ 0)).getD 503
        if answered then return lastFailure detail status else tryCandidates params rest detail status
      | .invalid => tryCandidates params rest invalidJsonDetail 502
      | .unexpected text => tryCandidates params rest text 500

def syncIndividual (path : String) (params : Dict String Json) : IndividualM (Fields × Int) := do
  let state ← read
  match backend.context state.sent with
  | none => return ([("error", .str (notConfigured args))], 503)
  | some context =>
    if context.httpUrl = "" then return ([("error", .str (notConfigured args))], 503)
    else tryCandidates backend (scopedParams args params) (requestCandidates context path) "" 503

end Requests

/-! ### Dependencies -/

inductive ParamKey where
  | clusterName
  | nodeName
  | node
  | type
  | vmid
  | storageName
  | storage
  | volid
  | snapshotName
  | interfaceName
  | ipAddress
  | diskName
  | replicationId
  deriving DecidableEq

def ParamKey.name : ParamKey → String
  | .clusterName => "cluster_name"
  | .nodeName => "node_name"
  | .node => "node"
  | .type => "type"
  | .vmid => "vmid"
  | .storageName => "storage_name"
  | .storage => "storage"
  | .volid => "volid"
  | .snapshotName => "snapshot_name"
  | .interfaceName => "interface_name"
  | .ipAddress => "ip_address"
  | .diskName => "disk_name"
  | .replicationId => "replication_id"

def contextKeys : List ParamKey :=
  [.clusterName, .node, .type, .vmid, .storageName, .storage, .volid, .snapshotName, .interfaceName, .ipAddress,
    .diskName, .replicationId]

inductive DependencyKind where
  | cluster
  | node
  | vm
  | storage
  | interface
  | ip
  | disk
  | replication
  | backup
  | snapshot
  | taskHistory
  deriving DecidableEq

def DependencyKind.name : DependencyKind → String
  | .cluster => "cluster"
  | .node => "node"
  | .vm => "vm"
  | .storage => "storage"
  | .interface => "interface"
  | .ip => "ip"
  | .disk => "disk"
  | .replication => "replication"
  | .backup => "backup"
  | .snapshot => "snapshot"
  | .taskHistory => "task-history"

def DependencyKind.all : List DependencyKind :=
  [.cluster, .node, .vm, .storage, .interface, .ip, .disk, .replication, .backup, .snapshot, .taskHistory]

variable (kind : DependencyKind)

def DependencyKind.path : String := "sync/individual/" ++ kind.name

def DependencyKind.paramKeys : DependencyKind → List ParamKey
  | .cluster => [.clusterName]
  | .node => [.clusterName, .nodeName]
  | .vm => [.clusterName, .node, .type, .vmid]
  | .storage => [.clusterName, .storageName]
  | .interface => [.clusterName, .node, .type, .vmid, .interfaceName]
  | .ip => [.clusterName, .node, .type, .vmid, .ipAddress]
  | .disk => [.clusterName, .node, .type, .vmid, .diskName]
  | .replication => [.clusterName, .replicationId]
  | .backup => [.clusterName, .node, .storage, .vmid, .volid]
  | .snapshot => [.clusterName, .node, .type, .vmid, .snapshotName]
  | .taskHistory => [.node, .type, .vmid]

def getDependencyConfig : Json → Except Raised (Option DependencyKind)
  | .str name => .ok (DependencyKind.all.find? fun kind => kind.name = name)
  | .arr _ | .obj _ => .error .unhashable
  | _ => .ok none

def mergeContext (base : Dict String Json) (update : String → Json) : Dict String Json :=
  contextKeys.foldl
    (fun merged key => if (update key.name).blank then merged else merged.set key.name (update key.name)) base

variable (dep : Fields) (context : Dict String Json)

/-- `dep.get(key) or context.get(key, default)`. -/
def ownOrContext (key : ParamKey) (default : Json) : Json :=
  (Fields.get dep key.name).or ((context.get? key.name).getD default)

/-- `dep.get(key) or dep.get("name") or context.get(key, "")`. -/
def namedOrContext (key : ParamKey) : Json :=
  (Fields.get dep key.name).or ((Fields.get dep "name").or ((context.get? key.name).getD (.str "")))

def dependencyParam : ParamKey → Json
  | .clusterName =>
    (ownOrContext dep context .clusterName (.str "")).or
      (if kind = .cluster then Fields.get dep "name" else .str "")
  | .nodeName => (Fields.get dep "name").or ((Fields.get dep "node_name").or (.str ""))
  | .node => ownOrContext dep context .node (.str "")
  | .type => ownOrContext dep context .type (.str "qemu")
  | .vmid => ownOrContext dep context .vmid .null
  | .storageName => namedOrContext dep context .storageName
  | .storage => ownOrContext dep context .storage (.str "")
  | .volid => ownOrContext dep context .volid (.str "")
  | .snapshotName => namedOrContext dep context .snapshotName
  | .interfaceName => namedOrContext dep context .interfaceName
  | .ipAddress => namedOrContext dep context .ipAddress
  | .diskName => namedOrContext dep context .diskName
  | .replicationId => namedOrContext dep context .replicationId

structure SyncedDependency where
  objectType : Json
  response : Fields
  status : Int

structure Synced where
  response : Fields
  status : Int
  dependencies : List SyncedDependency

def syncDependency (recurse : String → Dict String Json → Dict String Json → IndividualM Synced) (dep : Fields)
    (parentContext : Dict String Json) : IndividualM Synced := do
  let depType := Fields.get dep "object_type"
  if depType.truthy then
    match ← raising (getDependencyConfig depType) with
    | none => return ⟨[], 200, []⟩
    | some kind =>
      let context := mergeContext parentContext (Fields.get dep)
      let params := Dict.ofWrites (kind.paramKeys.map fun key => (key.name, dependencyParam kind dep context key))
      recurse kind.path params context
  else return ⟨[], 200, []⟩

/-! ### The recursion -/

def typeName : Json → String
  | .null => "NoneType"
  | .bool _ => "bool"
  | .int _ => "int"
  | .float _ => "float"
  | .str _ => "str"
  | .arr _ => "list"
  | .obj _ => "dict"

def iterated : Json → Except Raised (List Json)
  | .arr xs => .ok xs
  | .str s => .ok (s.toList.map fun c => .str (String.ofList [c]))
  | .obj fields => .ok (fields.map fun field => .str field.1)
  | value => .error (.withText (Python.reprStr (typeName value) ++ " object is not iterable"))

def mapping : Json → Except Raised Fields
  | .obj fields => .ok fields
  | value => .error (.withText (Python.reprStr (typeName value) ++ " object has no attribute " ++ Python.reprStr "get"))

def tupleText : List (String × String) → String
  | [] => "()"
  | [(key, value)] => "((" ++ Python.reprStr key ++ ", " ++ Python.reprStr value ++ "),)"
  | items => "(" ++ String.intercalate ", "
      (items.map fun item => "(" ++ Python.reprStr item.1 ++ ", " ++ Python.reprStr item.2 ++ ")") ++ ")"

def buildCacheKey (path : String) (params : Dict String Json) : String :=
  let items := params.items.map fun item => (item.1, item.2.text)
  path ++ ":" ++ tupleText (items.insertionSort fun first second => first.1 ≤ second.1)

def fillContext (params context : Dict String Json) : Dict String Json :=
  contextKeys.foldl
    (fun params key => match context.get? key.name with
      | some value => params.setDefault key.name value
      | none => params) params

def touched (action : Json) : Bool := action.eq (.str "created") || action.eq (.str "updated")

/-- `sync_individual_with_dependencies`. The depth is what the interpreter allows; beyond it a `RecursionError`
ends the sync. -/
def syncIndividualWithDependencies (backend : IndividualBackend) (args : SyncArguments) :
    Nat → String → Dict String Json → Dict String Json → IndividualM Synced
  | 0, _, _, _ => throw (.withText "maximum recursion depth exceeded")
  | depth + 1, path, queryParams, parentContext => do
      let context := mergeContext parentContext fun key => (queryParams.get? key).getD .null
      let params := fillContext queryParams context
      let state ← read
      if buildCacheKey path params ∈ state.visited then return ⟨[], 200, []⟩
      else do
        write fun state => { state with visited := buildCacheKey path params :: state.visited }
        let (response, status) ← syncIndividual backend args path params
        if status = 200 then do
          let items ← raising (iterated (Fields.getD response "dependencies_synced" (.arr [])))
          let synced ← items.foldlM (fun synced item => do
            let dep ← raising (mapping item)
            if touched (Fields.get dep "action") then do
              let result ← syncDependency (syncIndividualWithDependencies backend args depth) dep context
              let own : List SyncedDependency := if result.response.isEmpty then []
                else [⟨Fields.get dep "object_type", result.response, result.status⟩]
              return synced ++ result.dependencies ++ own
            else return synced) []
          return ⟨response, status, synced⟩
        else return ⟨response, status, []⟩

/-! ### The scope of a request -/

section Scope

variable {backend : IndividualBackend} {args : SyncArguments}

variable (params : Dict String Json)

theorem get?_scopedParams (hscope : args.proxmoxEndpointIds ≠ "") :
    (scopedParams args params).get? "proxmox_endpoint_ids" = some (.str args.proxmoxEndpointIds) := by
  unfold scopedParams
  rw [if_neg hscope, Dict.get?_set, if_pos rfl]

def IndividualRequest.Scoped (args : SyncArguments) (request : IndividualRequest) : Prop :=
  ∃ params, request.params = scopedParams args params

def AllScoped (args : SyncArguments) (state : IndividualState) : Prop := ∀ request ∈ state.sent, request.Scoped args

theorem keeps_tryCandidates (urls : List String) (error : String) (status : Int) :
    Keeps (AllScoped args) (tryCandidates backend (scopedParams args params) urls error status) := by
  induction urls generalizing error status with
  | nil => exact keeps_pure _
  | cons url rest ih =>
    refine keeps_read_bind fun state => keeps_bind (keeps_write fun state hscoped => ?_) fun _ => ?_
    · intro request hrequest
      rcases List.mem_append.1 hrequest with hold | hnew
      · exact hscoped request hold
      · obtain rfl := List.mem_singleton.1 hnew
        exact ⟨params, rfl⟩
    · cases backend.reply state.sent ⟨url, scopedParams args params⟩ with
      | json status payload => cases payload <;> exact keeps_pure _
      | unreadable => exact keeps_pure _
      | failed detail status answered =>
        cases answered with
        | true => exact keeps_pure _
        | false => exact ih detail _
      | invalid => exact ih _ _
      | unexpected text => exact ih _ _

theorem keeps_syncIndividual (path : String) (params : Dict String Json) :
    Keeps (AllScoped args) (syncIndividual backend args path params) := by
  refine keeps_read_bind fun state => ?_
  cases backend.context state.sent with
  | none => exact keeps_pure _
  | some context =>
    dsimp only
    split_ifs
    · exact keeps_pure _
    · exact keeps_tryCandidates params _ _ _

theorem keeps_syncDependency {recurse : String → Dict String Json → Dict String Json → IndividualM Synced}
    (hrecurse : ∀ path params context, Keeps (AllScoped args) (recurse path params context)) (dep : Fields)
    (context : Dict String Json) : Keeps (AllScoped args) (syncDependency recurse dep context) := by
  unfold syncDependency
  dsimp only
  split_ifs
  · refine keeps_bind (keeps_raising _) fun config => ?_
    cases config with
    | none => exact keeps_pure _
    | some kind => exact hrecurse _ _ _
  · exact keeps_pure _

theorem keeps_syncIndividualWithDependencies (depth : Nat) (path : String) (params context : Dict String Json) :
    Keeps (AllScoped args) (syncIndividualWithDependencies backend args depth path params context) := by
  induction depth generalizing path params context with
  | zero => exact keeps_throw _
  | succ depth ih =>
    refine keeps_read_bind fun state => ?_
    split_ifs
    · exact keeps_pure _
    · refine keeps_bind (keeps_write fun _ hscoped => hscoped) fun _ => ?_
      refine keeps_bind (keeps_syncIndividual path _) fun answer => ?_
      obtain ⟨response, status⟩ := answer
      dsimp only
      split_ifs
      · refine keeps_bind (keeps_raising _) fun items => keeps_bind ?_ fun synced => keeps_pure _
        refine keeps_foldlM fun synced item _ => keeps_bind (keeps_raising _) fun dep => ?_
        split_ifs
        · exact keeps_bind (keeps_syncDependency ih dep _) fun result => keeps_pure _
        · exact keeps_pure _
      · exact keeps_pure _

end Scope

end Proxbox
