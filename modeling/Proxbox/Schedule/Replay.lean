import Proxbox.Schedule.Edit
/-!
# Replaying a job

The parameters a job is enqueued with are kept in its row, and read back when it is run again. They come back as
they were unless the name of the job interferes: where they are those of a full sync, the name is read as that
of an old job for one machine. Texts come back trimmed.
-/

namespace Proxbox

open Python

/-- The arguments of `ProxboxSyncJob.enqueue` that say what is synced. A list that is not given is empty, and
another value null. -/
structure SyncKwargs where
  syncTypes : Option (List Json)
  syncType : Json
  proxmoxEndpointIds : List Json
  netboxEndpointIds : List Json
  netboxVmIds : List Json
  batchObjectType : Json
  batchObjectIds : List Json
  fastapiEndpointId : Json

def popEnqueuedSyncTypes (kwargs : SyncKwargs) : SyncSelection :=
  match kwargs.syncTypes with
  | some types => normalizeSyncTypes (types.map Json.text)
  | none => if kwargs.syncType.isNull then .all else normalizeSyncTypes [kwargs.syncType.text]

def coerceFastapiEndpointId : Json → Except Raised (Option Int)
  | .null => .ok none
  | .bool _ => .ok none
  | value => value.intOrNone

def SyncKwargs.normalized (kwargs : SyncKwargs) : Except Raised SyncJobParams := do
  let fastapiEndpointId ← coerceFastapiEndpointId kwargs.fastapiEndpointId
  return enqueuedSyncParams
    { syncTypes := []
      proxmoxEndpointIds := kwargs.proxmoxEndpointIds.map Json.text
      netboxEndpointIds := kwargs.netboxEndpointIds.map Json.text
      netboxVmIds := kwargs.netboxVmIds.map Json.text
      batchObjectType := if kwargs.batchObjectType.isNull then none else some kwargs.batchObjectType.text
      batchObjectIds := kwargs.batchObjectIds.map Json.text
      fastapiEndpointId } (popEnqueuedSyncTypes kwargs)

def persistEnqueuedSyncParams (job : StoredJob) (params : SyncJobParams) : StoredJob :=
  { job with block := some (serializeSyncParams params) }

/-- The name of the job stands for a machine, and the parameters leave that open. -/
def NameDecides (name : String) (params : SyncJobParams) : Prop :=
  params.syncTypes = ["all"] ∧ params.netboxVmIds = [] ∧ (targetedVmId name).isSome = true

variable (trim : Trim)

/-- No text changes when it is trimmed. -/
structure SyncJobParams.Trimmed (params : SyncJobParams) : Prop where
  proxmox : ∀ id ∈ params.proxmoxEndpointIds, trim.apply id = id
  netbox : ∀ id ∈ params.netboxEndpointIds, trim.apply id = id
  machines : ∀ id ∈ params.netboxVmIds, trim.apply id = id
  batchType : ∀ type ∈ params.batchObjectType, trim.apply type = type
  batchIds : ∀ id ∈ params.batchObjectIds, trim.apply id = id

theorem normalTypes_normalized {kwargs : SyncKwargs} {params : SyncJobParams} (h : kwargs.normalized = .ok params) :
    NormalTypes params.syncTypes := by
  obtain ⟨pin, -, hparams⟩ := bind_eq_ok.1 h
  obtain rfl := Except.ok.inj hparams
  change NormalTypes (popEnqueuedSyncTypes kwargs).slugs
  unfold popEnqueuedSyncTypes
  cases kwargs.syncTypes with
  | some types => exact normalTypes_normalizeSyncTypes _
  | none =>
    dsimp only
    split_ifs
    · exact .all
    · exact normalTypes_normalizeSyncTypes _

theorem map_trim_of_normal {slugs : List String} (h : NormalTypes slugs) : slugs.map trim.apply = slugs := by
  cases h with
  | all => exact congrArg (· :: []) (trim.plain "all" (forall_mem_of_all (by decide)))
  | types _ _ =>
    rw [List.map_map]
    exact List.map_congr_left fun stage _ => trim.plain stage.slug (forall_mem_of_all (by cases stage <;> decide))

theorem storedSyncTypes_serialized {params : SyncJobParams} (h : NormalTypes params.syncTypes) :
    (storedSyncTypes trim (serializeSyncParams params)).slugs = params.syncTypes := by
  have hnonempty : (!params.syncTypes.isEmpty) = true := by
    rw [Bool.not_eq_true', List.isEmpty_eq_false_iff]
    exact ne_nil_of_normal h
  change (if !params.syncTypes.isEmpty then normalizeSyncTypes (params.syncTypes.map trim.apply) else _).slugs = _
  rw [if_pos hnonempty, map_trim_of_normal trim h]
  exact normalizeSyncTypes_of_normal h fun _ => Iff.rfl

def SyncJobParams.trimmed (params : SyncJobParams) : SyncJobParams :=
  { params with
    proxmoxEndpointIds := params.proxmoxEndpointIds.map trim.apply
    netboxEndpointIds := params.netboxEndpointIds.map trim.apply
    netboxVmIds := params.netboxVmIds.map trim.apply
    batchObjectType := params.batchObjectType.map trim.apply
    batchObjectIds := params.batchObjectIds.map trim.apply }

theorem trimmed_eq_iff (params : SyncJobParams) : params.trimmed trim = params ↔ params.Trimmed trim := by
  have hlist (texts : List String) : texts.map trim.apply = texts ↔ ∀ text ∈ texts, trim.apply text = text := by
    conv_lhs => rhs; rw [← List.map_id texts]
    rw [List.map_inj_left]
    rfl
  have hoption (text : Option String) : text.map trim.apply = text ↔ ∀ value ∈ text, trim.apply value = value := by
    cases text <;> simp
  obtain ⟨types, proxmox, netbox, machines, batchType, batchIds, pin⟩ := params
  rw [SyncJobParams.trimmed, SyncJobParams.mk.injEq]
  dsimp only
  rw [hlist, hlist, hlist, hoption, hlist]
  constructor
  · intro h
    obtain ⟨-, hproxmox, hnetbox, hmachines, htype, hids, -⟩ := h
    exact ⟨hproxmox, hnetbox, hmachines, htype, hids⟩
  · intro h
    exact ⟨rfl, h.proxmox, h.netbox, h.machines, h.batchType, h.batchIds, rfl⟩

section Replay

variable {params : SyncJobParams} (h : NormalTypes params.syncTypes) (job : StoredJob)

include h

theorem params_of_nameDecides (hname : NameDecides job.name params) :
    (proxboxSyncParamsFromJob trim (persistEnqueuedSyncParams job params)).syncTypes ≠ params.syncTypes := by
  obtain ⟨hall, hmachines, htargeted⟩ := hname
  obtain ⟨vmId, hvmId⟩ := Option.isSome_iff_exists.1 htargeted
  have hinferred : inferTargetedVmJobParams (persistEnqueuedSyncParams job params) =
      some ⟨["virtual-machines", "vm-backups", "vm-snapshots"], [], [], [vmId], none, [], none⟩ := by
    change (targetedVmId job.name).map _ = _
    rw [hvmId]
    rfl
  have hopen : (storedSyncTypes trim (serializeSyncParams params)).slugs = ["all"] ∧
      params.netboxVmIds.map trim.apply = [] := by
    rw [storedSyncTypes_serialized trim h, hall, hmachines]
    exact ⟨rfl, rfl⟩
  rw [proxboxSyncParamsFromJob]
  dsimp only
  change (if (storedSyncTypes trim (serializeSyncParams params)).slugs = ["all"] ∧
    params.netboxVmIds.map trim.apply = [] then _ else _ : SyncJobParams).syncTypes ≠ _
  rw [if_pos hopen, hinferred, hall]
  change ["virtual-machines", "vm-backups", "vm-snapshots"] ≠ ["all"]
  decide

theorem params_of_not_nameDecides (hname : ¬NameDecides job.name params) :
    proxboxSyncParamsFromJob trim (persistEnqueuedSyncParams job params) = params.trimmed trim := by
  have hread : ({ params.trimmed trim with
      syncTypes := (storedSyncTypes trim (serializeSyncParams params)).slugs } : SyncJobParams) =
        params.trimmed trim := by
    rw [storedSyncTypes_serialized trim h]
    rfl
  rw [proxboxSyncParamsFromJob]
  dsimp only
  change (if (storedSyncTypes trim (serializeSyncParams params)).slugs = ["all"] ∧
      params.netboxVmIds.map trim.apply = [] then _
    else ({ params.trimmed trim with syncTypes := (storedSyncTypes trim (serializeSyncParams params)).slugs } :
      SyncJobParams)) = _
  split_ifs with hopen
  · rw [storedSyncTypes_serialized trim h, List.map_eq_nil_iff] at hopen
    have hinferred : inferTargetedVmJobParams (persistEnqueuedSyncParams job params) = none := by
      change (targetedVmId job.name).map _ = none
      rw [Option.map_eq_none_iff, Option.eq_none_iff_forall_ne_some]
      intro vmId hvmId
      exact hname ⟨hopen.1, hopen.2, Option.isSome_iff_exists.2 ⟨vmId, hvmId⟩⟩
    rw [hinferred]
    exact hread
  · exact hread

end Replay

/-- The parameters come back exactly if the name does not decide and no text changes when it is trimmed. -/
theorem replay_faithful_iff (trim : Trim) (kwargs : SyncKwargs) (params : SyncJobParams)
    (h : kwargs.normalized = .ok params) (job : StoredJob) :
    proxboxSyncParamsFromJob trim (persistEnqueuedSyncParams job params) = params ↔
      ¬NameDecides job.name params ∧ params.Trimmed trim := by
  have hnormal := normalTypes_normalized h
  by_cases hname : NameDecides job.name params
  · refine iff_of_false ?_ fun hboth => hboth.1 hname
    intro hsame
    exact params_of_nameDecides trim hnormal job hname (congrArg SyncJobParams.syncTypes hsame)
  · rw [params_of_not_nameDecides trim hnormal job hname, trimmed_eq_iff, and_iff_right hname]

def namedRow (name : String) (h : name.length ≤ 200) : StoredJob := ⟨name, h, some "default", none, none, none⟩

def selectedSync (types : Option (List Json)) : SyncKwargs :=
  ⟨types, .null, [.int 3, .str "7"], [.int 1], [], .str "storage", [.int 41, .int 42], .str "2"⟩

def selectedParams (types : List String) : SyncJobParams :=
  ⟨types, ["3", "7"], ["1"], [], some "storage", ["41", "42"], some 2⟩

theorem replay_faithful_iff_selected :
    (selectedSync (some [.str "vm-backups", .str "virtual-machines"])).normalized =
        .ok (selectedParams ["virtual-machines", "vm-backups"]) ∧
      proxboxSyncParamsFromJob stripTrim (persistEnqueuedSyncParams
        (namedRow "Proxbox Sync: Virtual machine 5" (by decide)) (selectedParams ["virtual-machines", "vm-backups"])) =
          selectedParams ["virtual-machines", "vm-backups"] := by
  have hnormalized : (selectedSync (some [.str "vm-backups", .str "virtual-machines"])).normalized =
      .ok (selectedParams ["virtual-machines", "vm-backups"]) := by decide +kernel
  refine ⟨hnormalized, (replay_faithful_iff stripTrim _ _ hnormalized (namedRow _ _)).2 ⟨fun hname => ?_, ?_⟩⟩
  · exact absurd hname.1 (by decide)
  · exact (trimmed_eq_iff stripTrim _).1 (by decide +kernel)

/-- The sync is replayed as that of one machine: the endpoints and the selected objects are lost. -/
theorem named_full_sync_is_narrowed :
    (selectedSync none).normalized = .ok (selectedParams ["all"]) ∧
      proxboxSyncParamsFromJob stripTrim (persistEnqueuedSyncParams
        (namedRow "Proxbox Sync: Virtual machine 5" (by decide)) (selectedParams ["all"])) =
          ⟨["virtual-machines", "vm-backups", "vm-snapshots"], [], [], ["5"], none, [], some 2⟩ := by
  decide +kernel

end Proxbox
