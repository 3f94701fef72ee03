import Proxbox.Intent.FirewallCommon
import Proxbox.Intent.Payload
/-!
# Payloads of firewall rows

`build_firewall_apply_diff` turns a change diff of a firewall model into one operation of proxbox-api.
It reads the live object where there is one and the recorded data of the row otherwise, field by field,
so a value is either a stored object or a piece of JSON: a `Ref`.
-/

namespace Proxbox

open Python

/-- A value of unknown type: JSON out of a recorded state, or an object a relation loads. -/
inductive Ref where
  | value (json : Json)
  | object (obj : FirewallObject)
  | vm (vm : VirtualMachine)
  | node (node : ProxmoxNode)

def Ref.blank : Ref → Bool
  | .value json => json.blank
  | _ => false

def Ref.json : Ref → Json
  | .value json => json
  | _ => .null

def Ref.ofVm? : Option VirtualMachine → Ref
  | some machine => .vm machine
  | none => .value .null

def Ref.ofNode? : Option ProxmoxNode → Ref
  | some host => .node host
  | none => .value .null

def FirewallObject.attr : FirewallObject → String → Option Ref
  | .securityGroup row, "name" => some (.value (.str row.name))
  | .rule row, "zone" => some (.value (.str row.zone.value))
  | .rule row, "pos" => some (.value (.int row.pos))
  | .rule row, "iface" => some (.value (.str row.iface))
  | .rule row, "proxmox_node" => some (.ofNode? row.proxmoxNode)
  | .rule row, "virtual_machine" => some (.ofVm? row.virtualMachine)
  | .rule row, "security_group" =>
    some (match row.securityGroup with
      | some group => .object (.securityGroup group)
      | none => .value .null)
  | .ipset row, "scope" => some (.value (.str row.scope.value))
  | .ipset row, "virtual_machine" => some (.ofVm? row.virtualMachine)
  | .ipset row, "name" => some (.value (.str row.name))
  | .ipsetEntry row, "ipset" => some (.object (.ipset row.ipset))
  | .ipsetEntry row, "cidr" => some (.value (.str row.cidr))
  | .alias row, "scope" => some (.value (.str row.scope.value))
  | .alias row, "virtual_machine" => some (.ofVm? row.virtualMachine)
  | .alias row, "name" => some (.value (.str row.name))
  | .alias row, "cidr" => some (.value (.str row.cidr))
  | .options row, "zone" => some (.value (.str row.zone.value))
  | .options row, "proxmox_node" => some (.ofNode? row.proxmoxNode)
  | .options row, "virtual_machine" => some (.ofVm? row.virtualMachine)
  | _, _ => none

variable (source : Ref)

/-- What `_field` finds on the object itself: a key of a mapping, or an attribute. -/
def Ref.own (name : String) : Ref :=
  match source with
  | .value json => .value (Fields.get json.asDict name)
  | .object obj => (obj.attr name).getD (.value .null)
  | _ => .value .null

variable (data : Fields)

def field (name : String) : Ref :=
  if !(source.own name).blank then source.own name
  else if !(Fields.get data name).blank then .value (Fields.get data name)
  else .value .null

def related (name : String) : Ref :=
  match field source data name with
  | .value .null => .value (Fields.get data (name ++ "_id"))
  | found => found

def intValueOrNone (value : Json) : Except Raised (Option Int) :=
  if value.blank then .ok none else value.intOrNone

def nameOrStr (name str : String) : Json := .str (if name ≠ "" then name else str)

/-- `_object_name`, asked about nodes, security groups, IP sets and JSON values. -/
def objectName : Ref → Json
  | .value (.obj fields) => strOrNone ((Fields.get fields "name").or (Fields.get fields "display"))
  | .value json => strOrNone json
  | .node node => nameOrStr node.name node.str
  | .object (.securityGroup group) => nameOrStr group.name group.str
  | .object (.ipset ipset) => nameOrStr ipset.name ipset.str
  | _ => .null

def jsonObjectId : Json → Except Raised (Option Int)
  | .obj fields => intValueOrNone ((Fields.get fields "id").or (Fields.get fields "pk"))
  | json => intValueOrNone json

/-- `_object_id` of a stored object: its primary key, which is falsy when it is zero. -/
def storedObjectId (pk : Int) : Option Int := if pk = 0 then none else some pk

/-! ### The row -/

def rowFirewallModel (row : ChangeDiff) : Option FirewallModel :=
  match row.object with
  | .firewall model _ _ => some model
  | _ => none

def rowObject (row : ChangeDiff) : Option FirewallObject :=
  match row.object with
  | .firewall _ object _ => object
  | _ => none

def firewallChangediffs (branch : Branch) : List ChangeDiff :=
  branch.rows.filter fun row => (rowFirewallModel row).isSome

def rowOp (row : ChangeDiff) : Op :=
  match Op.ofText? row.actionText with
  | some op => op
  | none =>
    if row.prechangeData.isNull && row.postchangeData.isDict then .create
    else if row.prechangeData.isDict && row.postchangeData.isNull then .delete
    else .update

def rowData (row : ChangeDiff) (op : Op) : Fields :=
  let (preferred, fallback) :=
    if op = .delete then (row.prechangeData, row.postchangeData)
    else (row.postchangeData, row.prechangeData)
  if preferred.isDict then preferred.asDict else fallback.asDict

def rowObjectId (row : ChangeDiff) : Option Int :=
  (row.objectId.bind storedObjectId).or
    ((rowObject row).bind fun obj => storedObjectId obj.pk)

def rowModelName (row : ChangeDiff) : String := ((rowFirewallModel row).map FirewallModel.name).getD ""

def firewallResultKey (row : ChangeDiff) (fallback : Nat) : String :=
  let model := if rowModelName row ≠ "" then rowModelName row else "firewall"
  let identifier := match rowObjectId row, row.objectRepr.filter (· ≠ "") with
    | some id, _ => toString id
    | none, some name => name
    | none, none => toString fallback
  "firewall:" ++ model ++ ":" ++ identifier

def unsupportedFirewallDiffMessage (row : ChangeDiff) : String :=
  let model := if rowModelName row ≠ "" then rowModelName row else "object"
  "Firewall intent for " ++ model ++ " " ++ Python.reprStr (rowOp row).text ++
    " is not supported by proxbox-api apply."

/-! ### The payload -/

def actionFor : FirewallModel → Op → Option String
  | .rule, op => some ("firewall.rule." ++ op.text)
  | .securityGroup, .update => none
  | .securityGroup, op => some ("firewall.group." ++ op.text)
  | .ipset, .update => none
  | .ipset, op => some ("firewall.ipset." ++ op.text)
  | .ipsetEntry, op => some ("firewall.ipset.entry." ++ op.text)
  | .alias, op => some ("firewall.alias." ++ op.text)
  | .options, .delete => none
  | .options, _ => some "firewall.options.update"

def recordedBody (model : FirewallModel) (op : Op) (data : Fields) : Fields :=
  let get := Fields.get data
  match model with
  | .rule => dropEmpty
      [("pos", get "pos"), ("type", (get "rule_type").or (get "type")), ("action", get "action"),
        ("enable", get "enable"), ("macro", get "macro"), ("iface", get "iface"),
        ("source", get "source"), ("dest", get "dest"), ("proto", get "proto"),
        ("dport", get "dport"), ("sport", get "sport"), ("log", get "log"),
        ("icmp-type", (get "icmp_type").or (get "icmp-type")), ("comment", get "comment"),
        ("digest", get "digest")]
  | .securityGroup => dropEmpty [("group", get "name"), ("comment", get "comment")]
  | .ipset => dropEmpty [("name", get "name"), ("comment", get "comment")]
  | .ipsetEntry => dropEmpty [("cidr", get "cidr"), ("comment", get "comment"), ("nomatch", get "nomatch")]
  | .alias =>
    let name := if op = .update then [] else [("name", get "name")]
    dropEmpty (name ++ [("cidr", get "cidr"), ("comment", get "comment")])
  | .options => dropEmpty
      [("enable", get "enable"), ("policy_in", get "policy_in"), ("policy_out", get "policy_out"),
        ("options", (get "options").or (.obj []))]

def bodyFor (model : FirewallModel) (op : Op) (obj : Option FirewallObject) (data : Fields) : Fields :=
  match obj with
  | none => recordedBody model op data
  | some (.securityGroup row) =>
    dropEmpty [("group", .str row.name), ("comment", Json.ofText? row.comment)]
  | some (.alias row) =>
    let state := firewallObjectState (.alias row)
    if op = .update then state.filter fun field => field.1 ≠ "name" else state
  | some obj => firewallObjectState obj

def zoneFromScope (scope : Json) : Json := strOrNone scope

def Ref.ofObject? : Option FirewallObject → Ref
  | some obj => .object obj
  | none => .value .null

def zoneFor (model : FirewallModel) (obj : Ref) (data : Fields) : Json :=
  match model with
  | .securityGroup => .str FirewallZone.datacenter.value
  | .rule => (field obj data "zone").json
  | .options => (field obj data "zone").json
  | .ipset => zoneFromScope (field obj data "scope").json
  | .alias => zoneFromScope (field obj data "scope").json
  | .ipsetEntry => zoneFromScope (field (related obj data "ipset") data "scope").json

/-- `zone in {VM_QEMU, VM_LXC}`, which raises on a value that cannot be hashed. -/
def zoneIsVm (zone : Json) : Except Raised Bool :=
  match zone with
  | .arr _ => .error .unhashable
  | .obj _ => .error .unhashable
  | .str s => .ok (s == FirewallZone.vmQemu.value || s == FirewallZone.vmLxc.value)
  | _ => .ok false

def zoneIs (zone : Json) (value : FirewallZone) : Bool :=
  match zone with
  | .str s => s == value.value
  | _ => false

def vmFor (model : FirewallModel) (obj : Ref) (data : Fields) : Ref :=
  match model with
  | .ipsetEntry =>
    match related (related obj data "ipset") data "virtual_machine" with
    | .value .null => related obj data "virtual_machine"
    | found => found
  | _ => related obj data "virtual_machine"

def refVmid : Ref → String
  | .vm machine => resolveVmVmid machine
  | .value json =>
    let vmid := Fields.get (Fields.get json.asDict "proxbox_sync_state").asDict "proxmox_vm_id"
    if vmid.blank then "" else vmid.text
  | _ => ""

def refNode : Ref → String
  | .vm machine => resolveVmNode machine
  | .value json =>
    let state := (Fields.get json.asDict "proxbox_sync_state").asDict
    let name := (Fields.get (Fields.get state "proxmox_node").asDict "name").or
      (Fields.get state "proxmox_node_name")
    if name.truthy then name.text
    else ((Fields.get (Fields.get json.asDict "device").asDict "name").or (.str "")).text
  | _ => ""

def nodeFor (model : FirewallModel) (obj : Ref) (data : Fields) : Except Raised Json := do
  let zone := zoneFor model obj data
  if zoneIs zone .node then
    return (objectName (related obj data "proxmox_node")).or (strOrNone (Fields.get data "node"))
  if ← zoneIsVm zone then
    return strOrNone (((Json.str (refNode (vmFor model obj data))).or (Fields.get data "node")).or
      (Fields.get data "proxmox_node"))
  return .null

def vmidFor (model : FirewallModel) (obj : Ref) (data : Fields) : Except Raised (Option Int) := do
  if ← zoneIsVm (zoneFor model obj data) then
    intValueOrNone (((Json.str (refVmid (vmFor model obj data))).or (Fields.get data "vmid")).or
      (Fields.get data "proxmox_vm_id"))
  else return none

def vmTypeFor (model : FirewallModel) (obj : Ref) (data : Fields) : Json :=
  let zone := zoneFor model obj data
  if zoneIs zone .vmQemu then .str "qemu"
  else if zoneIs zone .vmLxc then .str "lxc"
  else .null

def vnetFor (model : FirewallModel) (obj : Ref) (data : Fields) : Json :=
  if zoneIs (zoneFor model obj data) .vnet then strOrNone (field obj data "iface").json else .null

def groupFor (model : FirewallModel) (obj : Ref) (data : Fields) : Json :=
  if model = .securityGroup then strOrNone (field obj data "name").json
  else if zoneIs (zoneFor model obj data) .securityGroup then
    (objectName (related obj data "security_group")).or (strOrNone (Fields.get data "group"))
  else .null

def nameFor (model : FirewallModel) (obj : Ref) (data : Fields) : Json :=
  if model = .ipsetEntry then
    (objectName (related obj data "ipset")).or (strOrNone (Fields.get data "ipset_name"))
  else strOrNone (field obj data "name").json

def firewallPayload (model : FirewallModel) (op : Op) (action : String) (obj : Option FirewallObject)
    (data : Fields) : Except Raised Fields := do
  let body := if op = .delete then [] else bodyFor model op obj data
  let ref := Ref.ofObject? obj
  let node ← nodeFor model ref data
  let vmid ← vmidFor model ref data
  let pos ← intValueOrNone (field ref data "pos").json
  return dropNone
    [("action", .str action),
      ("zone", zoneFor model ref data),
      ("node", node),
      ("vmid", Json.ofInt? vmid),
      ("vm_type", vmTypeFor model ref data),
      ("vnet", vnetFor model ref data),
      ("group", groupFor model ref data),
      ("pos", Json.ofInt? pos),
      ("name", nameFor model ref data),
      ("cidr", (field ref data "cidr").json),
      ("body", .obj body)]

def endpointIdFor (obj : Option FirewallObject) (data : Fields) : Except Raised (Option Int) := do
  match (obj.bind resolveFirewallEndpoint).bind fun endpoint => storedObjectId endpoint.pk with
  | some id => return some id
  | none =>
    match ← jsonObjectId (Fields.get data "endpoint_id") with
    | some id => return some id
    | none => jsonObjectId (Fields.get data "endpoint")

structure FirewallApplyDiff where
  op : Op
  netboxId : Option Int
  payload : Fields
  endpointId : Option Int
  obj : Option FirewallObject

/-- `build_firewall_apply_diff`, `none` for a row the backend cannot apply. -/
def buildFirewallApplyDiff (row : ChangeDiff) : Except Raised (Option FirewallApplyDiff) := do
  let op := rowOp row
  let obj := rowObject row
  let data := rowData row op
  match (rowFirewallModel row).bind fun model => (actionFor model op).map (model, ·) with
  | none => return none
  | some (model, action) =>
    let payload ← firewallPayload model op action obj data
    let endpointId ← endpointIdFor obj data
    return some ⟨op, rowObjectId row, payload, endpointId, obj⟩

def defaultProxmoxEndpointId (table : EndpointTable) : Option Int :=
  let writable := table.rows.find? fun endpoint => endpoint.allowWrites && endpoint.enabled
  ((writable.or (table.rows.find? ProxmoxEndpoint.enabled)).map ProxmoxEndpoint.pk)

end Proxbox
