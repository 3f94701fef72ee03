import Proxbox.Intent.DiffUnion
import Proxbox.Intent.FirewallPayload
import Proxbox.Intent.Snapshot
import Proxbox.Library.Rounds
/-!
# The apply job

`run` walks the operations of a merged branch: first the union of the machine and intent rows, then the firewall
rows. Each round records one entry in a dictionary of results, and the state of the job is read off that
dictionary at the end. What the job does to the outside is a list of events; what the outside answers is a
`Backend` and may depend on everything that happened before.
-/

namespace Proxbox

open Python

/-! ### The gates of a branch

A row of the plugin names the branch by primary key and schema. Whatever cannot be resolved counts as false.
-/

structure BranchIntentRow where
  applyToProxmox : Bool
  applyDestroyConfirmed : Bool

/-- What the resolver looks up, by primary key and schema. A lookup may raise. -/
structure BranchStore where
  branchingAvailable : Except Unit Bool
  branchExists : Int → String → Except Unit Bool
  intent : Int → String → Except Unit (Option BranchIntentRow)

structure BranchIntentFlags where
  applyToProxmox : Bool
  applyDestroyConfirmed : Bool
  deriving DecidableEq

def falseBranchIntent : BranchIntentFlags := ⟨false, false⟩

def branchReferenceResolves (store : BranchStore) (branch : Branch) : Bool :=
  match store.branchingAvailable, branch.pk with
  | .ok true, some pk =>
    if branch.schemaId = "" then false
    else match store.branchExists pk branch.schemaId with
      | .ok found => found
      | .error _ => false
  | _, _ => false

def resolveBranchIntentFlags (store : BranchStore) (branch : Branch) : BranchIntentFlags :=
  match branchReferenceResolves store branch, branch.pk with
  | true, some pk =>
    match store.intent pk branch.schemaId with
    | .ok (some row) => ⟨row.applyToProxmox, row.applyDestroyConfirmed⟩
    | _ => falseBranchIntent
  | _, _ => falseBranchIntent

/-! ### The kind of a changed guest

It is read from the machine when it knows it, then from the slugs and names of its type and role, then from the
recorded states of the row.
-/

def containsLxcMarker (value : Json) : Bool :=
  let text := lower (value.or (.str "")).text
  contains "lxc" text || contains "container" text

def roleMarkers (vm : Option VirtualMachine) : List Json :=
  [vm.bind VirtualMachine.virtualMachineType, vm.bind VirtualMachine.role].flatMap fun object =>
    match object with
    | none => []
    | some object => [.str object.slug, .str object.name]

/-- `_snapshot_kind`, `none` for the empty text. -/
def snapshotKind (data : Fields) : Option GuestKind :=
  let typed := Fields.get (Fields.get data "proxbox_sync_state").asDict "proxmox_vm_type"
  if !typed.blank then some (if containsLxcMarker typed then .lxc else .qemu)
  else
    let related := ["virtual_machine_type", "role"].flatMap fun key =>
      match Fields.get data key with
      | .obj fields => [Fields.get fields "slug", Fields.get fields "name"]
      | value => [value]
    let flat := ["virtual_machine_type_slug", "role_slug", "role_name"].map (Fields.get data)
    if (related ++ flat).any containsLxcMarker then some .lxc else none

def classifyKind (vm : Option VirtualMachine) (row : ChangeDiff) : GuestKind :=
  match resolveKnownVmType vm with
  | some kind => kind
  | none =>
    if (roleMarkers vm).any containsLxcMarker then .lxc
    else ([row.original, row.current].findSome? fun data => snapshotKind data.asDict).getD .qemu

/-- `classify_diff`. A text that is no operation counts as an update. -/
def classifyDiff (vm : Option VirtualMachine) (op : String) (row : ChangeDiff) : Op × GuestKind :=
  ((Op.ofText? (lower op)).getD .update, classifyKind vm row)

@[simp] theorem classifyDiff_text (vm : Option VirtualMachine) (op : Op) (row : ChangeDiff) :
    classifyDiff vm op.text row = (op, classifyKind vm row) := by
  simp [classifyDiff, Op.lower_text]

/-! ### The job -/

structure Actor where
  username : String
  hasPerm : String → Bool

/-- What a run reads and no round of it changes. `overflowText` and `unhashableText` are the texts of the
two exceptions the interpreter itself may raise. -/
structure ApplyConfig where
  tables : Tables
  endpoints : EndpointTable
  payloadEnv : PayloadEnv
  /-- `get_fastapi_request_context().http_url`, without a context `none`. -/
  httpUrl : Option String
  actor : Option Actor
  branchStore : BranchStore
  runUuid : String
  overflowText : String
  unhashableText : String

variable (cfg : ApplyConfig)

def ApplyConfig.destroyConfirmed (branch : Branch) : Bool :=
  (resolveBranchIntentFlags cfg.branchStore branch).applyDestroyConfirmed

def ApplyConfig.permits (permission : String) : Bool :=
  match cfg.actor with
  | none => false
  | some actor => actor.hasPerm permission

def ApplyConfig.text (cfg : ApplyConfig) : Raised → String
  | .withText text => text
  | .overflow => cfg.overflowText
  | .unhashable => cfg.unhashableText

def permissionFor : Op → GuestKind → String
  | .create, .qemu => "netbox_proxbox.intent_create_vm"
  | .create, .lxc => "netbox_proxbox.intent_create_lxc"
  | .update, .qemu => "netbox_proxbox.intent_update_vm"
  | .update, .lxc => "netbox_proxbox.intent_update_lxc"
  | .delete, .qemu => "netbox_proxbox.intent_delete_vm"
  | .delete, .lxc => "netbox_proxbox.intent_delete_lxc"

/-! ### Effects -/

inductive DiffKind where
  | guest (kind : GuestKind)
  | firewall
  deriving DecidableEq

structure ApplyDiff where
  op : Op
  kind : DiffKind
  netboxId : Option Int
  payload : Fields

structure ApplyRequest where
  url : String
  endpointId : Option Int
  diff : ApplyDiff
  runUuid : String
  actor : Option String

structure DeletionRecord where
  branchId : Option Int
  branchName : String
  requestedBy : Option String
  vmid : Int
  node : String
  kind : GuestKind
  metadataSnapshot : Fields
  name : String

inductive Event where
  | post (row : ChangeDiff) (request : ApplyRequest)
  | saveDeletion (row : ChangeDiff) (record : DeletionRecord)
  | tagPending (row : ChangeDiff) (record : DeletionRecord)
  | stampIntent (row : ChangeDiff) (virtualMachineId : Int)
  | saveStatus (row : ChangeDiff) (obj : FirewallObject)

/-- What comes back from a request. The detail of an error status is the one the backend sent. -/
inductive HttpReply where
  | sslError (text : String)
  | connectionError (text : String)
  | timeout
  | requestError (text : String)
  | errorStatus (code : Nat) (detail : String)
  | notJson (text : String)
  | body (json : Json)

/-- The outside. Each answer may depend on the events before it; a save may raise. -/
structure Backend where
  post : List Event → ApplyRequest → HttpReply
  saveDeletion : List Event → DeletionRecord → Except String Int
  saveStatus : List Event → FirewallObject → Except String Unit

/-- The body of a reply, or the text of the error a client of the backend raises for it. -/
def replyBody (call : String) (timeout : Nat) (route url : String) : HttpReply → Except String Fields
  | .sslError text => .error ("TLS error reaching " ++ url ++ ": " ++ text)
  | .connectionError text => .error ("Cannot reach proxbox-api at " ++ url ++ ": " ++ text)
  | .timeout => .error (call ++ " request timed out after " ++ toString timeout ++ "s against " ++ url ++ ".")
  | .requestError text => .error (call ++ " request failed: " ++ text)
  | .errorStatus code detail =>
    .error ("proxbox-api returned HTTP " ++ toString code ++ " for " ++ route ++ ": " ++ detail)
  | .notJson text => .error ("proxbox-api returned a non-JSON body for " ++ route ++ ": " ++ text)
  | .body (.obj fields) => .ok fields
  | .body json => .error ("proxbox-api returned an unexpected body for " ++ route ++ ": " ++ json.repr)

def applyReplyBody : String → HttpReply → Except String Fields := replyBody "Apply" 3600 "/intent/apply"

def applyRequest (diff : ApplyDiff) (endpointId : Option Int) :
    Except Raised ApplyRequest :=
  match cfg.httpUrl with
  | none => .error (.withText "No FastAPIEndpoint is configured; cannot apply intent.")
  | some httpUrl =>
    if httpUrl = "" then .error (.withText "FastAPIEndpoint has no resolvable http_url.")
    else
      let url := rstripOf '/' httpUrl ++ "/intent/apply"
      let url := match endpointId with
        | some id => url ++ "?endpoint_id=" ++ toString id
        | none => url
      .ok ⟨url, endpointId, diff, cfg.runUuid, cfg.actor.map Actor.username⟩

def callApplyEndpoint (backend : Backend) (log : List Event) (row : ChangeDiff)
    (diff : ApplyDiff) (endpointId : Option Int) : Except Raised Fields × List Event :=
  match applyRequest cfg diff endpointId with
  | .error raised => (.error raised, [])
  | .ok request =>
    ((applyReplyBody request.url (backend.post log request)).mapError .withText, [.post row request])

def firstApplyResult (body : Fields) : Fields :=
  match Fields.get body "results" with
  | .arr (.obj item :: _) => item
  | _ => [("status", .str "failed"),
      ("message", .str "proxbox-api returned no ApplyResultItem for the CREATE diff.")]

/-! ### One round -/

/-- An entry of the results. A pending deletion has no task id and names its request. -/
structure ResultEntry where
  vmid : Json
  op : String
  kind : String
  status : String
  message : String
  proxmoxUpid : Json
  deletionRequestId : Option Int

abbrev Outcome := Rounds.Round Event String ResultEntry

def DiffKind.text : DiffKind → String
  | .guest kind => kind.text
  | .firewall => "firewall"

def resultEntry (vmid : Json) (op : String) (kind : DiffKind) (status message : String) : ResultEntry :=
  ⟨vmid, op, kind.text, status, message, .null, none⟩

def answeredEntry (vmid : Json) (op : Op) (kind : DiffKind) (item : Fields) : ResultEntry where
  vmid := Fields.getD item "vmid" vmid
  op := op.text
  kind := kind.text
  status := ((Fields.get item "status").or (.str "failed")).text
  message := ((Fields.get item "message").or (.str "")).text
  proxmoxUpid := (Fields.get item "proxmox_upid").or (Fields.get item "upid")
  deletionRequestId := none

def diffIdentifier (row : ChangeDiff) (fallback : Nat) : String :=
  match row.objectRepr.filter (· ≠ ""), row.objectId, row.pk with
  | some name, _, _ => name
  | none, some id, _ => toString id
  | none, none, some pk => toString pk
  | none, none, none => "changediff-" ++ toString fallback

/-- `_result_key`: the VMID, else the machine's primary key, else the row's identifier. -/
def resultKey (row : ChangeDiff) (vm : Option VirtualMachine) (vmid : Json) (fallback : Nat) : String :=
  if !vmid.blank then vmid.text
  else match vm with
    | some vm => toString vm.pk
    | none => diffIdentifier row fallback

def statusIsSuccess (status : String) : Bool :=
  ["succeeded", "success", "applied", "intent-logged", "delete-pending-approval"].contains
    (lower status)

def sendGuest (backend : Backend) (log : List Event) (row : ChangeDiff)
    (vm : VirtualMachine) (op : Op) (kind : GuestKind) (key : String) (vmid : Json) (payload : Fields) :
    Outcome :=
  let permission := permissionFor op kind
  if !cfg.permits permission then
    ⟨key, resultEntry vmid op.text (.guest kind) "skipped" ("permission denied: " ++ permission), []⟩
  else
    let (reply, events) := callApplyEndpoint cfg backend log row ⟨op, .guest kind, none, payload⟩
      (defaultProxmoxEndpointId cfg.endpoints)
    match reply with
    | .error raised => ⟨key, resultEntry vmid op.text (.guest kind) "failed" (cfg.text raised), events⟩
    | .ok body =>
      let entry := answeredEntry vmid op (.guest kind) (firstApplyResult body)
      -- Stamping the intent row swallows every exception.
      let stamp := if statusIsSuccess entry.status then [.stampIntent row vm.pk] else []
      ⟨key, entry, events ++ stamp⟩

def updateGuest (backend : Backend) (log : List Event) (row : ChangeDiff)
    (vm : VirtualMachine) (kind : GuestKind) (key : String) (vmid : Json) : Outcome :=
  match buildUpdateDelta cfg.payloadEnv vm (.obj []) with
  | .error raised =>
    ⟨key, resultEntry vmid Op.update.text (.guest kind) "failed" (cfg.text raised), []⟩
  | .ok delta =>
    if delta.isEmpty then
      ⟨key, resultEntry vmid Op.update.text (.guest kind) "skipped" "no real change", []⟩
    else sendGuest cfg backend log row vm .update kind key vmid delta

/-- The identity a deletion is recorded under, with the snapshot it was read from. -/
def deletionSnapshot (vm : Option VirtualMachine) (row : ChangeDiff) :
    Except Raised (Fields × Int × String × String) := do
  let snapshot ← match vm with
    | none => buildDeletedMetadataSnapshot row
    | some vm => buildMetadataSnapshot vm
  let identity ← deletionIdentity snapshot
  return (snapshot, identity)

def deletionRecord (branch : Branch) (kind : GuestKind)
    (found : Fields × Int × String × String) : DeletionRecord where
  branchId := branch.pk
  branchName := branch.name
  requestedBy := cfg.actor.map Actor.username
  vmid := found.2.1
  node := found.2.2.1
  kind := kind
  metadataSnapshot := found.1
  name := found.2.2.2

def deleteGuest (backend : Backend) (branch : Branch) (log : List Event)
    (index : Nat) (row : ChangeDiff) (vm : Option VirtualMachine) (kind : GuestKind) (key : String)
    (vmid : Json) : Outcome :=
  let permission := permissionFor .delete kind
  if !cfg.destroyConfirmed branch then
    ⟨key, resultEntry vmid Op.delete.text (.guest kind) "skipped" "apply_destroy_confirmed not set", []⟩
  else if !cfg.permits permission then
    ⟨key, resultEntry vmid Op.delete.text (.guest kind) "skipped" ("permission denied: " ++ permission),
      []⟩
  else match deletionSnapshot vm row with
    | .error raised =>
      ⟨key, resultEntry vmid Op.delete.text (.guest kind) "failed" (cfg.text raised), []⟩
    | .ok found =>
      let record := deletionRecord cfg branch kind found
      let key := resultKey row vm (.int record.vmid) index
      let saved := Event.saveDeletion row record
      match backend.saveDeletion log record with
      | .error text =>
        ⟨key, resultEntry (.int record.vmid) Op.delete.text (.guest kind) "failed" text, [saved]⟩
      | .ok pk =>
        -- The tag is only a mark on the guest, and tagging it never raises.
        let tag := if (cfg.httpUrl.getD "") = "" then [] else [Event.tagPending row record]
        ⟨key, ⟨.int record.vmid, Op.delete.text, kind.text, "delete-pending-approval",
          "pending authorization", .null, some pk⟩, saved :: tag⟩

def vmRound (backend : Backend) (branch : Branch) (log : List Event) (index : Nat)
    (item : UnionEntry) : Outcome :=
  let (op, kind) := classifyDiff item.vm item.op.text item.row
  let payload := match item.vm with
    | some vm => buildPayload cfg.payloadEnv kind vm
    | none => .ok []
  match payload with
  | .error raised =>
    ⟨diffIdentifier item.row index,
      resultEntry .null op.text (.guest kind) "failed" (cfg.text raised), []⟩
  | .ok payload =>
    let vmid := Fields.get payload "vmid"
    let key := resultKey item.row item.vm vmid index
    match op, item.vm with
    | .delete, vm => deleteGuest cfg backend branch log index item.row vm kind key vmid
    | op, none =>
      ⟨key, resultEntry vmid op.text (.guest kind) "failed"
        ("Could not resolve NetBox VM for ChangeDiff " ++ diffIdentifier item.row index ++ "."), []⟩
    | .update, some vm => updateGuest cfg backend log item.row vm kind key vmid
    | .create, some vm => sendGuest cfg backend log item.row vm .create kind key vmid payload

def firewallRound (backend : Backend) (log : List Event) (index : Nat) (row : ChangeDiff) : Outcome :=
  let key := firewallResultKey row index
  match buildFirewallApplyDiff row with
  | .error raised =>
    ⟨key, resultEntry (.int 0) Op.update.text .firewall "failed" (cfg.text raised), []⟩
  | .ok none =>
    let op := match row.action with
      | some action => if action ≠ "" then action else Op.update.text
      | none => Op.update.text
    ⟨key, resultEntry (.int 0) op .firewall "skipped" (unsupportedFirewallDiffMessage row), []⟩
  | .ok (some diff) =>
    let (reply, events) := callApplyEndpoint cfg backend log row
      ⟨diff.op, .firewall, diff.netboxId, diff.payload⟩ diff.endpointId
    match reply with
    | .error raised =>
      ⟨key, resultEntry (.int 0) diff.op.text .firewall "failed" (cfg.text raised), events⟩
    | .ok body =>
      let entry := answeredEntry (.int 0) diff.op .firewall (firstApplyResult body)
      match statusIsSuccess entry.status, diff.obj with
      | true, some obj =>
        let saved := events ++ [.saveStatus row obj]
        match backend.saveStatus (log ++ events) obj with
        | .error text => ⟨key, resultEntry (.int 0) diff.op.text .firewall "failed" text, saved⟩
        | .ok () => ⟨key, entry, saved⟩
      | _, _ => ⟨key, entry, events⟩

/-! ### The run -/

inductive ApplyState where
  | succeeded
  | failed
  | partlySucceeded
  deriving DecidableEq

def stateFromResults (results : Dict String ResultEntry) : ApplyState :=
  let statuses := results.values.map ResultEntry.status
  if statuses.all statusIsSuccess then .succeeded
  else if statuses.all fun status => lower status == "failed" then .failed
  else .partlySucceeded

abbrev JobState := Rounds.State Event String ResultEntry

def vmLoop (backend : Backend) (branch : Branch) : JobState :=
  Rounds.loop (fun log item => vmRound cfg backend branch log item.2 item.1) ⟨Dict.empty, []⟩
    ((virtualMachineDiffUnion cfg.tables branch).zipIdx 1)

def firewallLoop (backend : Backend) (branch : Branch) (state : JobState) :
    JobState :=
  Rounds.loop (fun log item => firewallRound cfg backend log item.2 item.1) state
    ((firewallChangediffs branch).zipIdx 1)

structure ApplyRun where
  perVmResults : Dict String ResultEntry
  state : ApplyState
  log : List Event

def run (backend : Backend) (branch : Branch) : ApplyRun :=
  let final := firewallLoop cfg backend branch (vmLoop cfg backend branch)
  ⟨final.results, stateFromResults final.results, final.log⟩

end Proxbox
