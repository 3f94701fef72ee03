import Proxbox.Intent.VmIdentity
import Proxbox.Intent.DescriptionMetadata
/-!
# Payloads of guest operations

The two builders turn a machine and its intent into the fields proxbox-api expects for a QEMU guest and
for a container, and `build_update_delta` keeps the fields that differ from a previous state. A
conversion of a number may overflow; that exception leaves the builder.
-/

namespace Proxbox

open Python

/-- What the builders read besides the machine: the plugin setting that embeds metadata, and the JSON
parser, which yields nothing for a text that is not JSON. -/
structure PayloadEnv where
  embedDescriptionMetadata : Bool
  jsonLoads : String → Option Json

/-- `_int_or_none`. Overflow is the one exception it lets through. -/
def intOrNone (value : Json) : Except Raised (Option Int) :=
  if value.blank then .ok none
  else match value.roundToInt with
    | .ok n => .ok (some n)
    | .error .overflowError => .error .overflow
    | .error _ => .ok none

/-- `_int_or_none` of a decimal column with two places, given in hundredths. -/
def decimalOrNone (hundredths : Option Int) : Option Int := hundredths.map (roundHalfEven · 100)

def strOrNone (value : Json) : Json := if value.blank then .null else .str value.text

variable (intent : Option IntentValues)

def intentValue (attributes : List (IntentValues → Json)) : Json :=
  match intent with
  | none => .null
  | some intent => ((attributes.map (· intent)).find? fun value => !value.blank).getD .null

variable (env : PayloadEnv) (vm : VirtualMachine)

def resolveDescription : Json :=
  let description := if vm.description = "" then none else some vm.description
  if env.embedDescriptionMetadata then Json.ofText? (buildDescriptionWithMetadata vm description)
  else Json.ofText? description

/-! ### Cloud-init -/

def cloudInitText (value : Json) : Json :=
  match value with
  | .str s => if strip s = "" then .null else .str s
  | value => value

def cloudInitSshKeys (value : Json) : Json :=
  match cloudInitText value with
  | .null => .null
  | text =>
    let keys := ((splitLines text.text).map strip).filter (· ≠ "")
    if keys.isEmpty then .null else .arr (keys.map Json.str)

def cloudInitNetwork (value : Json) : Json :=
  match cloudInitText value with
  | .null => .null
  | text =>
    match env.jsonLoads text.text with
    | some (.obj (field :: fields)) => .obj (field :: fields)
    | _ => .null

def cloudInitPayload (intent : Option IntentValues) : Json :=
  let parts := dropNone
    [("user", strOrNone (intentValue intent [fun i => .str i.cloudInitUser])),
      ("ssh_keys", cloudInitSshKeys (intentValue intent [fun i => .str i.cloudInitSshKeys])),
      ("user_data", cloudInitText (intentValue intent [fun i => .str i.cloudInitUserData])),
      ("network", cloudInitNetwork env (intentValue intent [fun i => .str i.cloudInitNetwork]))]
  if parts.isEmpty then .null else .obj parts

/-! ### The builders -/

def diskGb : Except Raised (Option Int) :=
  vm.virtualDisks.foldlM (fun total size => do
    match ← intOrNone (.int size) with
    | none => return total
    | some size => return some (total.getD 0 + size)) none

def tagNames : Json := .arr ((vm.tags.filter (· ≠ "")).map Json.str)

def withCloudInit (payload : Fields) (cloudInit : Json) : Fields :=
  match cloudInit with
  | .null => payload
  | cloudInit => payload ++ [("cloud_init", cloudInit)]

def buildVmPayload : Except Raised Fields := do
  let intent := vm.intent
  let vmid ← intOrNone (.str (resolveVmVmid vm))
  let memory ← intOrNone (Json.ofInt? vm.memory)
  let disk ← diskGb vm
  let templateVmid ← intOrNone (intentValue intent [fun i => Json.ofInt? i.templateVmid])
  return withCloudInit
    [("vmid", Json.ofInt? vmid),
      ("name", .str vm.name),
      ("node", strOrNone (intentValue intent [fun i => .str i.targetNode])),
      ("cores", Json.ofInt? (decimalOrNone vm.vcpus)),
      ("memory", Json.ofInt? memory),
      ("disk_gb", Json.ofInt? disk),
      ("storage", strOrNone (intentValue intent [fun i => .str i.targetStorage])),
      ("iso", strOrNone (intentValue intent [fun i => .str i.iso])),
      ("template_vmid", Json.ofInt? templateVmid),
      ("tags", tagNames vm),
      ("description", resolveDescription env vm)]
    (cloudInitPayload env intent)

def buildLxcPayload : Except Raised Fields := do
  let intent := vm.intent
  let vmid ← intOrNone (.str (resolveVmVmid vm))
  let memory ← intOrNone (Json.ofInt? vm.memory)
  let swap ← intOrNone (intentValue intent [fun i => Json.ofInt? i.swap])
  return withCloudInit
    [("vmid", Json.ofInt? vmid),
      ("name", .str vm.name),
      ("node", strOrNone (intentValue intent [fun i => .str i.targetNode])),
      ("cores", Json.ofInt? (decimalOrNone vm.vcpus)),
      ("memory", Json.ofInt? memory),
      ("swap", Json.ofInt? swap),
      ("rootfs", strOrNone (intentValue intent [fun i => .str i.rootfs])),
      ("storage", strOrNone (intentValue intent [fun i => .str i.targetStorage])),
      ("ostemplate", strOrNone (intentValue intent [fun i => .str i.ostemplate, fun i => .str i.iso])),
      ("tags", tagNames vm),
      ("description", resolveDescription env vm)]
    (cloudInitPayload env intent)

def buildPayload : GuestKind → VirtualMachine → Except Raised Fields
  | .lxc => buildLxcPayload env
  | .qemu => buildVmPayload env

/-- The fields of `current` that differ from `prev`, with the routing fields when there is one. -/
def deltaFields (prev current : Fields) : Fields :=
  let delta := current.filter fun field =>
    field.1 ≠ "vmid" && field.1 ≠ "node" && !(Json.eq (Fields.get prev field.1) field.2)
  if delta.isEmpty then []
  else delta ++ [("vmid", Fields.get current "vmid"), ("node", Fields.get current "node")]

def buildUpdateDelta (prevState : Json) :
    Except Raised Fields := do
  let prev := prevState.asDict
  let kindHint := lower ((Fields.get prev "kind").or (.str "")).text
  let current ← if kindHint = "lxc" then buildLxcPayload env vm else buildVmPayload env vm
  return deltaFields prev current

/-! ### Where the two builders agree

An update is always built as if the guest were a QEMU one. For a container that makes no difference
exactly when none of the fields that only one of the kinds has is set. -/

def NoKindFields : Prop :=
  vm.virtualDisks = [] ∧ ∀ intent, vm.intent = some intent →
    intent.iso = "" ∧ intent.templateVmid = none ∧ intent.swap = none ∧ intent.rootfs = "" ∧
      intent.ostemplate = ""

theorem buildVmPayload_eq_ok {env : PayloadEnv} {vm : VirtualMachine} {payload : Fields}
    (h : buildVmPayload env vm = .ok payload) :
    ∃ vmid memory disk templateVmid, intOrNone (.str (resolveVmVmid vm)) = .ok vmid ∧
      intOrNone (Json.ofInt? vm.memory) = .ok memory ∧ diskGb vm = .ok disk ∧
      intOrNone (intentValue vm.intent [fun i => Json.ofInt? i.templateVmid]) = .ok templateVmid ∧
      payload = withCloudInit
        [("vmid", Json.ofInt? vmid), ("name", .str vm.name),
          ("node", strOrNone (intentValue vm.intent [fun i => .str i.targetNode])),
          ("cores", Json.ofInt? (decimalOrNone vm.vcpus)), ("memory", Json.ofInt? memory),
          ("disk_gb", Json.ofInt? disk),
          ("storage", strOrNone (intentValue vm.intent [fun i => .str i.targetStorage])),
          ("iso", strOrNone (intentValue vm.intent [fun i => .str i.iso])),
          ("template_vmid", Json.ofInt? templateVmid), ("tags", tagNames vm),
          ("description", resolveDescription env vm)]
        (cloudInitPayload env vm.intent) := by
  obtain ⟨vmid, hvmid, h⟩ := bind_eq_ok.1 h
  obtain ⟨memory, hmemory, h⟩ := bind_eq_ok.1 h
  obtain ⟨disk, hdisk, h⟩ := bind_eq_ok.1 h
  obtain ⟨templateVmid, htemplate, h⟩ := bind_eq_ok.1 h
  exact ⟨vmid, memory, disk, templateVmid, hvmid, hmemory, hdisk, htemplate, (Except.ok.inj h).symm⟩

theorem buildLxcPayload_eq_ok {env : PayloadEnv} {vm : VirtualMachine} {payload : Fields}
    (h : buildLxcPayload env vm = .ok payload) :
    ∃ vmid memory swap, intOrNone (.str (resolveVmVmid vm)) = .ok vmid ∧
      intOrNone (Json.ofInt? vm.memory) = .ok memory ∧
      intOrNone (intentValue vm.intent [fun i => Json.ofInt? i.swap]) = .ok swap ∧
      payload = withCloudInit
        [("vmid", Json.ofInt? vmid), ("name", .str vm.name),
          ("node", strOrNone (intentValue vm.intent [fun i => .str i.targetNode])),
          ("cores", Json.ofInt? (decimalOrNone vm.vcpus)), ("memory", Json.ofInt? memory),
          ("swap", Json.ofInt? swap),
          ("rootfs", strOrNone (intentValue vm.intent [fun i => .str i.rootfs])),
          ("storage", strOrNone (intentValue vm.intent [fun i => .str i.targetStorage])),
          ("ostemplate",
            strOrNone (intentValue vm.intent [fun i => .str i.ostemplate, fun i => .str i.iso])),
          ("tags", tagNames vm), ("description", resolveDescription env vm)]
        (cloudInitPayload env vm.intent) := by
  obtain ⟨vmid, hvmid, h⟩ := bind_eq_ok.1 h
  obtain ⟨memory, hmemory, h⟩ := bind_eq_ok.1 h
  obtain ⟨swap, hswap, h⟩ := bind_eq_ok.1 h
  exact ⟨vmid, memory, swap, hvmid, hmemory, hswap, (Except.ok.inj h).symm⟩

theorem mem_deltaFields_nil {current : Fields} {key : String} {value : Json}
    (hvmid : key ≠ "vmid") (hnode : key ≠ "node") :
    (key, value) ∈ deltaFields [] current ↔ (key, value) ∈ current ∧ value ≠ .null := by
  have hfilter : (key, value) ∈ current.filter (fun field => field.1 ≠ "vmid" && field.1 ≠ "node" &&
      !(Json.eq (Fields.get [] field.1) field.2)) ↔ (key, value) ∈ current ∧ value ≠ .null := by
    rw [List.mem_filter]
    simp [hvmid, hnode, Json.eq_null_left, ← Json.isNull_iff]
  unfold deltaFields
  dsimp only
  split_ifs with hempty
  · rw [← hfilter, List.isEmpty_iff.1 hempty]
  · rw [List.mem_append, hfilter]
    simp [hvmid, hnode]

theorem mem_withCloudInit {payload : Fields} {cloudInit : Json} {field : String × Json} :
    field ∈ withCloudInit payload cloudInit ↔
      field ∈ payload ∨ (cloudInit ≠ .null ∧ field = ("cloud_init", cloudInit)) := by
  cases cloudInit <;> simp [withCloudInit]

theorem intOrNone_int (n : Int) :
    intOrNone (.int n) = .error .overflow ∨ ∃ m, intOrNone (.int n) = .ok (some m) := by
  rcases Json.roundToInt_int n with h | ⟨m, h⟩
  · exact .inl (by simp [intOrNone, h])
  · exact .inr ⟨m, by simp [intOrNone, h]⟩

theorem eq_none_iff_of_intOrNone {value found : Option Int} (h : intOrNone (Json.ofInt? value) = .ok found) :
    found = none ↔ value = none := by
  cases value with
  | none =>
    obtain rfl : found = none := by simpa [intOrNone, Json.ofInt?, eq_comm] using h
    simp
  | some n =>
    rcases intOrNone_int n with hn | ⟨m, hn⟩
    · simp [Json.ofInt?, hn] at h
    · obtain rfl : some m = found := by simpa [Json.ofInt?, hn] using h
      simp

private theorem foldlM_disks_ne_none (sizes : List Int) (total : Int) :
    sizes.foldlM (fun total size => do
      match ← intOrNone (.int size) with
      | none => return total
      | some size => return some (total.getD 0 + size)) (some total)
      ≠ (.ok none : Except Raised (Option Int)) := by
  induction sizes generalizing total with
  | nil => simp [pure, Except.pure]
  | cons size rest ih =>
    rw [List.foldlM_cons]
    rcases intOrNone_int size with h | ⟨m, h⟩
    · simp [h, bind, Except.bind]
    · simpa [h, bind, Except.bind, pure, Except.pure] using ih (total + m)

theorem eq_none_iff_of_diskGb {vm : VirtualMachine} {disk : Option Int} (h : diskGb vm = .ok disk) :
    disk = none ↔ vm.virtualDisks = [] := by
  unfold diskGb at h
  constructor
  · rintro rfl
    cases hdisks : vm.virtualDisks with
    | nil => rfl
    | cons size rest =>
      rw [hdisks, List.foldlM_cons] at h
      rcases intOrNone_int size with hn | ⟨m, hn⟩
      · simp [hn, bind, Except.bind] at h
      · exact absurd (by simpa [hn, bind, Except.bind, pure, Except.pure] using h)
          (foldlM_disks_ne_none rest (0 + m))
  · intro hdisks
    simpa [hdisks, pure, Except.pure, eq_comm] using h

private theorem null_of_deltaFields_eq {left right : Fields} {cloudInit value : Json} (key : String)
    (heq : deltaFields [] (withCloudInit left cloudInit) = deltaFields [] (withCloudInit right cloudInit))
    (hmem : (key, value) ∈ left)
    (hkey : key ∉ "vmid" :: "node" :: "cloud_init" :: right.map Prod.fst) : value = .null := by
  simp only [List.mem_cons, not_or] at hkey
  obtain ⟨hvmid, hnode, hcloud, hright⟩ := hkey
  by_contra hvalue
  have hleft : (key, value) ∈ deltaFields [] (withCloudInit left cloudInit) :=
    (mem_deltaFields_nil hvmid hnode).2 ⟨mem_withCloudInit.2 (.inl hmem), hvalue⟩
  rw [heq, mem_deltaFields_nil hvmid hnode, mem_withCloudInit] at hleft
  rcases hleft.1 with h | ⟨-, h⟩
  · exact hright (List.mem_map_of_mem h)
  · exact hcloud (congrArg Prod.fst h)

theorem ofInt?_eq_null {value : Option Int} : Json.ofInt? value = .null ↔ value = none := by
  cases value <;> simp [Json.ofInt?]

theorem strOrNone_eq_null {value : Json} : strOrNone value = .null ↔ value.blank = true := by
  unfold strOrNone
  split_ifs with h <;> simp [h]

theorem intentValue_blank_iff {intent : IntentValues} {reads : List (IntentValues → Json)} :
    (intentValue (some intent) reads).blank = true ↔ ∀ read ∈ reads, (read intent).blank = true := by
  unfold intentValue
  cases hfind : (reads.map (· intent)).find? fun value => !value.blank with
  | none =>
    have hall := List.find?_eq_none.1 hfind
    simp only [hfind, Option.getD_none, Json.blank_null, true_iff]
    intro read hread
    simpa using hall _ (List.mem_map_of_mem hread)
  | some value =>
    have hvalue : value.blank = false := by simpa using List.find?_some hfind
    obtain ⟨read, hread, rfl⟩ := List.mem_map.1 (List.mem_of_find?_eq_some hfind)
    simp only [hfind, Option.getD_some, hvalue, Bool.false_eq_true, false_iff]
    intro hall
    rw [hall read hread] at hvalue
    contradiction

theorem intentValue_ofInt? (intent : IntentValues) (read : IntentValues → Option Int) :
    intentValue (some intent) [fun i => Json.ofInt? (read i)] = Json.ofInt? (read intent) := by
  cases hread : read intent <;> simp [intentValue, Json.ofInt?, hread]

theorem noKindFields_iff {vm : VirtualMachine} {disk templateVmid swap : Option Int}
    (hdisk : diskGb vm = .ok disk)
    (htemplate :
      intOrNone (intentValue vm.intent [fun i => Json.ofInt? i.templateVmid]) = .ok templateVmid)
    (hswap : intOrNone (intentValue vm.intent [fun i => Json.ofInt? i.swap]) = .ok swap) :
    NoKindFields vm ↔ disk = none ∧
      strOrNone (intentValue vm.intent [fun i => .str i.iso]) = .null ∧ templateVmid = none ∧
      swap = none ∧ strOrNone (intentValue vm.intent [fun i => .str i.rootfs]) = .null ∧
      strOrNone (intentValue vm.intent [fun i => .str i.ostemplate, fun i => .str i.iso]) = .null := by
  unfold NoKindFields
  rw [eq_none_iff_of_diskGb hdisk]
  refine and_congr_right fun _ => ?_
  cases hintent : vm.intent with
  | none => simp_all [intentValue, intOrNone, strOrNone]
  | some intent =>
    rw [hintent, intentValue_ofInt?] at htemplate hswap
    simp only [eq_none_iff_of_intOrNone htemplate, eq_none_iff_of_intOrNone hswap, strOrNone_eq_null,
      intentValue_blank_iff, List.mem_cons, List.not_mem_nil, or_false, forall_eq_or_imp, forall_eq,
      Json.blank_str, beq_iff_eq, Option.some.injEq, forall_eq']
    tauto

/-- For a container the QEMU builder gives the delta of the container builder exactly when no field of
one kind only is set. -/
theorem deltaFields_builders_eq_iff {env : PayloadEnv} {vm : VirtualMachine} {qemu lxc : Fields}
    (hqemu : buildVmPayload env vm = .ok qemu) (hlxc : buildLxcPayload env vm = .ok lxc) :
    deltaFields [] qemu = deltaFields [] lxc ↔ NoKindFields vm := by
  obtain ⟨vmid, memory, disk, templateVmid, hvmid, hmemory, hdisk, htemplate, rfl⟩ :=
    buildVmPayload_eq_ok hqemu
  obtain ⟨vmid', memory', swap, hvmid', hmemory', hswap, rfl⟩ := buildLxcPayload_eq_ok hlxc
  obtain rfl : vmid = vmid' := by simpa [hvmid] using hvmid'
  obtain rfl : memory = memory' := by simpa [hmemory] using hmemory'
  rw [noKindFields_iff hdisk htemplate hswap]
  constructor
  · intro heq
    have hd := null_of_deltaFields_eq "disk_gb" heq (by simp; rfl) (by simp)
    have hi := null_of_deltaFields_eq "iso" heq (by simp; rfl) (by simp)
    have ht := null_of_deltaFields_eq "template_vmid" heq (by simp; rfl) (by simp)
    have hs := null_of_deltaFields_eq "swap" heq.symm (by simp; rfl) (by simp)
    have hr := null_of_deltaFields_eq "rootfs" heq.symm (by simp; rfl) (by simp)
    have ho := null_of_deltaFields_eq "ostemplate" heq.symm (by simp; rfl) (by simp)
    rw [ofInt?_eq_null] at hd ht hs
    exact ⟨hd, hi, ht, hs, hr, ho⟩
  · rintro ⟨rfl, hi, rfl, rfl, hr, ho⟩
    -- Every field that only one builder has is null, so both keep the same fields in the same order.
    rw [hi, hr, ho]
    cases cloudInitPayload env vm.intent <;>
      simp [withCloudInit, deltaFields, Json.ofInt?, Json.eq_null_left, List.filter_cons,
        Fields.get_cons]

end Proxbox
