import Proxbox.Intent.Payload
/-!
# Metadata snapshots of deletions

What a deletion request records about the guest it is for: read from the machine while it exists, and
otherwise only from the recorded states of its row. The second reader refuses a row without a VMID, a
node or a name.
-/

namespace Proxbox

open Python

variable (vm : VirtualMachine)

def intentSnapshot : Fields :=
  match vm.intent with
  | none => []
  | some intent =>
    [("target_node", .str intent.targetNode),
      ("target_storage", .str intent.targetStorage),
      ("iso", .str intent.iso),
      ("template_vmid", Json.ofInt? intent.templateVmid),
      ("swap", Json.ofInt? intent.swap),
      ("rootfs", .str intent.rootfs),
      ("ostemplate", .str intent.ostemplate),
      ("cloud_init_user", .str intent.cloudInitUser),
      ("cloud_init_ssh_keys", .str intent.cloudInitSshKeys),
      ("cloud_init_user_data", .str intent.cloudInitUserData),
      ("cloud_init_network", .str intent.cloudInitNetwork),
      ("intent_state", .str intent.intentState),
      ("last_apply_run_id", .str intent.lastApplyRunId)]

def interfaceSnapshot (interface : VMInterface) : Except Raised Json := do
  let mtu ← intOrNone (Json.ofInt? interface.mtu)
  return .obj
    [("name", strOrNone (.str interface.name)),
      ("mac_address", strOrNone (Json.ofText? interface.macAddress)),
      ("enabled", .bool interface.enabled),
      ("mtu", Json.ofInt? mtu),
      ("description", strOrNone (.str interface.description))]

def buildMetadataSnapshot : Except Raised Fields := do
  let vmid ← intOrNone (.str (resolveVmVmid vm))
  let memory ← intOrNone (Json.ofInt? vm.memory)
  let disk ← diskGb vm
  let interfaces ← vm.interfaces.mapM interfaceSnapshot
  return [("vmid", Json.ofInt? vmid),
    ("node", strOrNone (.str (resolveVmNode vm))),
    ("name", .str vm.name),
    ("tags", tagNames vm),
    ("cores", Json.ofInt? (decimalOrNone vm.vcpus)),
    ("memory", Json.ofInt? memory),
    ("disk_gb", Json.ofInt? disk),
    ("interfaces", .arr interfaces),
    ("ipv4", strOrNone (Json.ofText? vm.primaryIp4)),
    ("ipv6", strOrNone (Json.ofText? vm.primaryIp6)),
    ("custom_field_data", .obj vm.customFieldData),
    ("intent", .obj (intentSnapshot vm))]

/-! ### From the row alone -/

variable (snapshots : List Fields)

def recordedValue (key : String) : Json :=
  ((snapshots.map (Fields.get · key)).find? fun value => !value.blank).getD .null

def recordedCustomFields : Fields :=
  (snapshots.findSome? fun data =>
    match (Fields.get data "custom_field_data").or (Fields.get data "custom_fields") with
    | .obj fields => some fields
    | _ => none).getD []

def recordedName (value : Json) : Json :=
  match value with
  | .obj fields => strOrNone (Fields.get fields "name")
  | value => strOrNone value

/-- `list(value) if isinstance(value, (list, tuple)) else []`. -/
def listOrEmpty : Json → Json
  | .arr xs => .arr xs
  | _ => .arr []

def buildDeletedMetadataSnapshot (row : ChangeDiff) : Except Raised Fields := do
  let original := row.original.asDict
  let current := row.current.asDict
  let snapshots := [original, current]
  let vmid ← match recordedValue snapshots "vmid" with
    | .bool _ => pure none
    | value => intOrNone value
  let vmid ← match vmid.filter fun n => decide (0 < n) with
    | some vmid => pure vmid
    | none => throw (.withText "Deleted VM ChangeDiff does not contain a Proxmox VMID.")
  let node := recordedName (recordedValue snapshots "node")
  if node.isNull then throw (.withText "Deleted VM ChangeDiff does not contain a Proxmox node.")
  let rawName := recordedValue snapshots "name"
  let name := strOrNone (if rawName.blank then Json.ofText? row.objectRepr else rawName)
  if name.isNull then throw (.withText "Deleted VM ChangeDiff does not contain a VM name.")
  let source := if original.isEmpty then current else original
  let cores ← intOrNone (Fields.getD source "cores" (Fields.get source "vcpus"))
  let memory ← intOrNone (Fields.get source "memory")
  let disk ← intOrNone (Fields.get source "disk_gb")
  return [("vmid", .int vmid),
    ("node", node),
    ("name", name),
    ("tags", listOrEmpty (Fields.get source "tags")),
    ("cores", Json.ofInt? cores),
    ("memory", Json.ofInt? memory),
    ("disk_gb", Json.ofInt? disk),
    ("interfaces", listOrEmpty (Fields.get source "interfaces")),
    ("ipv4", strOrNone (Fields.getD source "primary_ip4" (Fields.get source "ipv4"))),
    ("ipv6", strOrNone (Fields.getD source "primary_ip6" (Fields.get source "ipv6"))),
    ("custom_field_data", .obj (recordedCustomFields snapshots)),
    ("intent", .obj (Fields.get source "intent").asDict),
    ("change_diff", .obj
      [("object_id", Json.ofInt? row.objectId),
        ("object_repr", Json.ofText? row.objectRepr),
        ("original", .obj original),
        ("current", if current.isEmpty then .null else .obj current)])]

def deletionIdentity (snapshot : Fields) : Except Raised (Int × String × String) := do
  let node := Fields.get snapshot "node"
  let name := Fields.get snapshot "name"
  let vmid ← match Fields.get snapshot "vmid" with
    | .int vmid =>
      if vmid ≤ 0 then throw (.withText "Deletion metadata does not contain a valid Proxmox VMID.")
      else pure vmid
    | _ => throw (.withText "Deletion metadata does not contain a valid Proxmox VMID.")
  if node.blank then throw (.withText "Deletion metadata does not contain a Proxmox node.")
  if name.blank then throw (.withText "Deletion metadata does not contain a VM name.")
  return (vmid, node.text, name.text)

end Proxbox
