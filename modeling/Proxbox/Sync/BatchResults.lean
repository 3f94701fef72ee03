import Proxbox.Sync.SelectedObjects
/-!
# The results of a batch

The selected objects of a batch are synced at the same time, and a virtual machine is then read again and given
a tenant. The batch waits for all of them together: an exception of one is the exception of the batch, and the
results of the others are lost.
-/

namespace Proxbox

open Python

/-! ### Tenants -/

structure RefreshedMachine where
  name : String
  tenant : Option Int

/-- What the database and the settings do for one machine; every access may raise. `search` is `re.search`,
`none` after a `re.error`. -/
structure TenantStore where
  refresh : Except Raised RefreshedMachine
  tagSlugs : Except Raised (List String)
  clusterTenant : Except Raised (Option Int)
  endpointId : Except Raised (Option Int)
  regexRules : Option Int → Except Raised (Bool × List Json)
  tagAssignment : Option Int → Except Raised Bool
  fromCluster : Option Int → Except Raised Bool
  search : String → String → Except Raised (Option Bool)
  tenant : String → Except Raised (Option Int)
  customersGroup : Except Raised Int
  makeTenant : String → Int → Except Raised Int
  save : Int → Except Raised Unit

section Tenants

variable (store : TenantStore) (vm : RefreshedMachine)

def saveTenant (tenant : Int) : Except Raised RefreshedMachine := do
  store.save tenant
  return { vm with tenant := some tenant }

/-- The rules of `maybe_assign_tenant_from_regex` in turn; the first that matches decides. -/
def assignByRules : List Json → Except Raised RefreshedMachine
  | [] => return vm
  | rule :: rest =>
    match Fields.get rule.asDict "pattern", Fields.get rule.asDict "tenant_slug" with
    | .str pattern, .str slug => do
      match ← store.search pattern vm.name with
      | some true =>
        match ← store.tenant slug with
        | none => return vm
        | some tenant => saveTenant store vm tenant
      | _ => assignByRules rest
    | _, _ => assignByRules rest

def maybeAssignTenantFromRegex : Except Raised RefreshedMachine := do
  let (enabled, rules) ← store.regexRules (← store.endpointId)
  if !enabled || rules.isEmpty || vm.tenant.isSome then return vm else assignByRules store vm rules

def maybeAssignTenantFromTags : Except Raised RefreshedMachine := do
  if !(← store.tagAssignment (← store.endpointId)) || vm.tenant.isSome then return vm
  else
    let slugs := ((← store.tagSlugs).map strip).filter (· ≠ "")
    match slugs.contains "cloud-customer", slugs.filter fun slug => "tenant-".toList.isPrefixOf slug.toList with
    | true, [tag] =>
      let slug := String.ofList (tag.toList.drop 7)
      if slug = "" then return vm
      else match ← store.tenant slug with
        | some tenant => saveTenant store vm tenant
        | none => do
          let group ← store.customersGroup
          let tenant ← store.makeTenant slug group
          saveTenant store vm tenant
    | _, _ => return vm

def maybeAssignTenantFromCluster : Except Raised RefreshedMachine := do
  if !(← store.fromCluster (← store.endpointId)) || vm.tenant.isSome then return vm
  else match ← store.clusterTenant with
    | some tenant => saveTenant store vm tenant
    | none => return vm

def postSyncAssign : Except Raised Unit := do
  let vm ← store.refresh
  let vm ← maybeAssignTenantFromRegex store vm
  let vm ← maybeAssignTenantFromTags store vm
  let _ ← maybeAssignTenantFromCluster store vm
  return

end Tenants

/-! ### The batch -/

/-- How the sync of an object and what follows it behave. -/
structure ObjectBehaviour where
  backend : IndividualBackend
  tenants : TenantStore

structure BatchItem where
  objectId : String
  result : BatchResult

def BatchResult.status : BatchResult → Int
  | .refused status _ => status
  | .synced status _ _ => status

structure BatchReport where
  total : Nat
  succeeded : Nat
  failed : Nat
  results : List BatchItem

def afterSync (store : TenantStore) (object : Option BatchObject) (result : BatchResult) : Except Raised Unit :=
  match object, result with
  | some (.virtualMachine _), .synced status _ _ =>
      if 200 ≤ status ∧ status < 300 then postSyncAssign store else .ok ()
  | _, _ => .ok ()

def finishRun (store : TenantStore) (run : ObjectRun) : Except Raised BatchItem := do
  let result ← run.outcome
  afterSync store run.object result
  return ⟨run.objectId, result⟩

def raisedIn {ε α : Type} : Except ε α → Option ε
  | .ok _ => none
  | .error e => some e

/-- `asyncio.gather`: the exception of the task that fails first, in the order in which they end, or all the
results. -/
def gather {ε α : Type} (order : List Nat) (tasks : List (Except ε α)) : Except ε (List α) :=
  match order.findSome? fun index => tasks[index]?.bind raisedIn with
  | some e => .error e
  | none => tasks.mapM fun task => task

variable (cfg : BatchConfig) (scope : WireScope) (behaviour : String → ObjectBehaviour)

def objectTask (objects : Dict String BatchObject) (id : String) : Except Raised BatchItem :=
  finishRun (behaviour id).tenants (runOne cfg (behaviour id).backend scope objects
    (ownersByObjectId cfg scope objects) id)

def batchReport (results : List BatchItem) : BatchReport :=
  let succeeded := (results.filter fun item => item.result.status < 400).length
  ⟨results.length, succeeded, results.length - succeeded, results⟩

/-- `_run_batch_selected_sync` to its end, with the order in which the objects are done. -/
def runSelectedBatch (order : List Nat) (batchObjectType : String) (batchObjectIds : List String) :
    Except Raised BatchReport := do
  let ids := normalizeBatchObjectIds batchObjectIds
  let runs ← runBatchSelectedSync cfg (fun index => (behaviour (ids.getD index "")).backend) scope
    batchObjectType batchObjectIds
  let results ← gather order (runs.map fun run => finishRun (behaviour run.objectId).tenants run)
  return batchReport results

/-! ### What each object does -/

def selectedObject (type : BatchObjectType) (id : String) : Option BatchObject :=
  (cfg.objects.filter fun object => object.type = type && toString object.pk = id).getLast?

def ownObjects (type : BatchObjectType) (id : String) : Dict String BatchObject :=
  Dict.ofWrites ((selectedObject cfg type id).toList.map fun object => (id, object))

/-- The objects of the batch are requested by numbers, each once, and none of them raises when it is synced on
its own. -/
def Undisturbing (batchObjectType : String) (batchObjectIds : List String) : Prop :=
  ∃ type, BatchObjectType.ofName batchObjectType = some type ∧ (normalizeBatchObjectIds batchObjectIds).Nodup ∧
    ∀ id ∈ normalizeBatchObjectIds batchObjectIds, (intLiteral id).isSome ∧
      ∃ item, objectTask cfg scope behaviour (ownObjects cfg type id) id = .ok item

/-- The batch has a result for each id, names as failed what has failed, and each object's results are as if
another were not in the batch. -/
def CompleteBatch (order : List Nat) (batchObjectType : String) (batchObjectIds : List String) : Prop :=
  ∃ report, runSelectedBatch cfg scope behaviour order batchObjectType batchObjectIds = .ok report ∧
    (report.results.map BatchItem.objectId).Nodup ∧
    (∀ id, id ∈ report.results.map BatchItem.objectId ↔ id ∈ normalizeBatchObjectIds batchObjectIds) ∧
    (∀ id ∈ normalizeBatchObjectIds batchObjectIds, ∀ type e, BatchObjectType.ofName batchObjectType = some type →
      objectTask cfg scope behaviour (ownObjects cfg type id) id = .error e → ∃ item ∈ report.results,
        item.objectId = id ∧ 400 ≤ item.result.status) ∧
    ∀ id ∈ normalizeBatchObjectIds batchObjectIds, ∃ others,
      runSelectedBatch cfg scope behaviour order batchObjectType (batchObjectIds.filter (· ≠ id)) = .ok others ∧
        others.results = report.results.filter fun item => item.objectId ≠ id

variable {cfg} {scope} {behaviour} {type : BatchObjectType} {ids : List String} {id : String}

theorem gather_eq_ok {ε α : Type} {order : List Nat} {tasks : List (Except ε α)} {results : List α} :
    gather order tasks = .ok results ↔ tasks = results.map .ok := by
  have hmapM : (tasks.mapM fun task => task) = .ok results ↔ tasks = results.map .ok := by
    induction tasks generalizing results with
    | nil =>
      cases results with
      | nil => exact iff_of_true rfl rfl
      | cons => exact iff_of_false nofun nofun
    | cons task rest ih =>
      rw [List.mapM_cons, bind_eq_ok]
      constructor
      · rintro ⟨value, rfl, h⟩
        obtain ⟨values, hvalues, h⟩ := bind_eq_ok.1 h
        obtain rfl := Except.ok.inj h
        rw [ih.1 hvalues, List.map_cons]
      · intro h
        cases results with
        | nil => cases h
        | cons value values =>
          obtain ⟨rfl, hrest⟩ := List.cons.inj h
          exact ⟨value, rfl, bind_eq_ok.2 ⟨values, ih.2 hrest, rfl⟩⟩
  unfold gather
  split
  · rename_i e he
    refine iff_of_false nofun ?_
    rintro rfl
    obtain ⟨index, -, hindex⟩ := List.exists_of_findSome?_eq_some he
    obtain ⟨task, htask, hraised⟩ := Option.bind_eq_some_iff.1 hindex
    obtain ⟨value, -, rfl⟩ := List.mem_map.1 (List.mem_of_getElem? htask)
    cases hraised
  · exact hmapM

theorem get?_ofWrites_last {κ α : Type} [DecidableEq κ] (writes : List (κ × α)) (k : κ) :
    (Dict.ofWrites writes).get? k = (writes.filter fun write => write.1 = k).getLast?.map Prod.snd := by
  induction writes using List.reverseRecOn with
  | nil => rfl
  | append_singleton writes write ih =>
    have hset : Dict.ofWrites (writes ++ [write]) = (Dict.ofWrites writes).set write.1 write.2 := by
      rw [Dict.ofWrites, List.foldl_append]
      rfl
    rw [hset, Dict.get?_set, List.filter_append, ih]
    by_cases hkey : k = write.1
    · simp [hkey]
    · simp [hkey, Ne.symm hkey]

theorem get?_ownObjects : (ownObjects cfg type id).get? id = selectedObject cfg type id := by
  rw [ownObjects, get?_ofWrites_last]
  cases selectedObject cfg type id <;> simp

theorem exists_mapM {ε α β : Type} {f : α → Except ε β} {xs : List α} : (∃ ys, xs.mapM f = .ok ys) ↔ ∀ x ∈ xs,
    ∃ y, f x = .ok y := by
  induction xs with
  | nil => exact iff_of_true ⟨[], rfl⟩ nofun
  | cons x rest ih =>
    rw [List.forall_mem_cons, ← ih, List.mapM_cons]
    constructor
    · rintro ⟨ys, h⟩
      obtain ⟨y, hy, h⟩ := bind_eq_ok.1 h
      obtain ⟨values, hvalues, -⟩ := bind_eq_ok.1 h
      exact ⟨⟨y, hy⟩, values, hvalues⟩
    · rintro ⟨⟨y, hy⟩, values, hvalues⟩
      exact ⟨y :: values, bind_eq_ok.2 ⟨y, hy, bind_eq_ok.2 ⟨values, hvalues, rfl⟩⟩⟩

theorem exists_fetchObjects : (∃ found, fetchObjects cfg type ids = .ok found) ↔ ∀ id ∈ ids,
    (intLiteral id).isSome := by
  constructor
  · rintro ⟨found, hfetch⟩ id hid
    obtain ⟨pks, hpks, -⟩ := bind_eq_ok.1 hfetch
    obtain ⟨pk, hpk⟩ := exists_mapM.1 ⟨pks, hpks⟩ id hid
    cases hread : intLiteral id with
    | none =>
      rw [hread] at hpk
      cases hpk
    | some pk => rfl
  · intro h
    refine Exists.elim (exists_mapM.2 ?_) fun pks hpks => ⟨_, bind_eq_ok.2 ⟨pks, hpks, rfl⟩⟩
    intro id hid
    obtain ⟨pk, hpk⟩ := Option.isSome_iff_exists.1 (h id hid)
    exact ⟨pk, by rw [hpk]⟩

theorem get?_fetched {found : List BatchObject} (hfetch : fetchObjects cfg type ids = .ok found) (hid : id ∈ ids) :
    (Dict.ofWrites (found.map fun object => (toString object.pk, object))).get? id =
      selectedObject cfg type id := by
  obtain ⟨pk, hpk⟩ := Option.isSome_iff_exists.1 (exists_fetchObjects.1 ⟨found, hfetch⟩ id hid)
  obtain ⟨pks, hpks, hfound⟩ := bind_eq_ok.1 hfetch
  obtain rfl := Except.ok.inj hfound
  have hmem : pk ∈ pks := (mem_mapM_eq_ok hpks).2 ⟨id, hid, by rw [hpk]⟩
  have hkept (object : BatchObject) : (decide (toString object.pk =
    id) && (decide (object.type = type) && pks.contains object.pk)) =
      (decide (object.type = type) && decide (toString object.pk = id)) := by
    by_cases hobject : toString object.pk = id
    · have hsame : pk = object.pk := eq_of_intLiteral_toString (hobject ▸ hpk)
      have hcontains : pks.contains object.pk = true := List.contains_iff_mem.2 (hsame ▸ hmem)
      simp only [hobject, hcontains, decide_true, Bool.true_and, Bool.and_true]
    · simp only [hobject, decide_false, Bool.false_and, Bool.and_false]
  rw [get?_ofWrites_last, List.filter_map, List.filter_filter, List.getLast?_map, Option.map_map, selectedObject]
  simp only [Function.comp_def, hkept, Option.map_id']

theorem get?_ownerEndpointPks {clusterIds clusterIds' : List Int} {cluster : Int} (h : cluster ∈ clusterIds)
    (h' : cluster ∈ clusterIds') (clusters : List TrackedCluster) :
    (ownerEndpointPksByClusterId clusters clusterIds).get? cluster =
      (ownerEndpointPksByClusterId clusters clusterIds').get? cluster := by
  unfold ownerEndpointPksByClusterId
  induction clusters using List.reverseRecOn with
  | nil => rfl
  | append_singleton rows row ih =>
    rw [List.foldl_concat, List.foldl_concat]
    generalize List.foldl _ _ rows = seen at ih ⊢
    generalize List.foldl _ _ rows = seen' at ih ⊢
    cases row.netboxClusterId with
    | none => exact ih
    | some linked =>
      dsimp only
      by_cases hsame : linked = cluster
      · subst hsame
        rw [if_pos h, if_pos h', Dict.get?_set, Dict.get?_set, ih]
      · have hset (seen : Dict Int (List String)) (ids : List Int) (value : List String) :
            (if linked ∈ ids then seen.set linked value else seen).get? cluster = seen.get? cluster := by
          split_ifs
          · rw [Dict.get?_set, if_neg (Ne.symm hsame)]
          · rfl
        rw [hset, hset, ih]

theorem get?_owners_congr {objects objects' : Dict String BatchObject} (h : objects.get? id = objects'.get? id) :
    (ownersByObjectId cfg scope objects).get? id = (ownersByObjectId cfg scope objects').get? id := by
  unfold ownersByObjectId
  split_ifs with hscope
  · rfl
  · dsimp only
    rw [Dict.get?_ofWrites_filterMap objects fun object => (batchObjectCoreClusterId object).bind _,
      Dict.get?_ofWrites_filterMap objects' fun object => (batchObjectCoreClusterId object).bind _, h]
    cases hobject : objects'.get? id with
    | none => rfl
    | some object =>
      cases hcluster : batchObjectCoreClusterId object with
      | none => simp [hcluster]
      | some cluster =>
        have hmem {objects : Dict String BatchObject} (hget : objects.get? id = some object) :
            cluster ∈ objects.items.filterMap fun item => batchObjectCoreClusterId item.2 :=
          List.mem_filterMap.2 ⟨_, (objects.mem_items_iff_get? _ _).2 hget, hcluster⟩
        simp only [Option.bind_some, hcluster]
        exact get?_ownerEndpointPks (hmem (h.trans hobject)) (hmem hobject) cfg.clusters

theorem objectTask_congr {objects objects' : Dict String BatchObject} (h : objects.get? id = objects'.get? id) :
    objectTask cfg scope behaviour objects id = objectTask cfg scope behaviour objects' id := by
  unfold objectTask runOne
  rw [h, get?_owners_congr h]

theorem objectId_runOne (backend : IndividualBackend) (objects : Dict String BatchObject)
    (owners : Dict String (List String)) :
    (runOne cfg backend scope objects owners id).objectId = id := by
  unfold runOne
  split
  · rfl
  · exact (runFound_sent cfg backend scope id _ _).1

theorem objectId_of_objectTask {objects : Dict String BatchObject} {item : BatchItem}
    (h : objectTask cfg scope behaviour objects id = .ok item) : item.objectId = id := by
  obtain ⟨result, -, h⟩ := bind_eq_ok.1 h
  obtain ⟨-, -, h⟩ := bind_eq_ok.1 h
  obtain rfl := Except.ok.inj h
  exact objectId_runOne _ _ _

/-- The runs of a batch, finished, are the tasks of its ids. -/
theorem finished_runs (objects : Dict String BatchObject) :
    ((ids.zipIdx.map fun item => runOne cfg (behaviour (ids.getD item.2 "")).backend scope objects
        (ownersByObjectId cfg scope objects) item.1).map fun run =>
          finishRun (behaviour run.objectId).tenants run) =
      ids.map (objectTask cfg scope behaviour objects) := by
  have hitem : ∀ item ∈ ids.zipIdx, finishRun (behaviour item.1).tenants
    (runOne cfg (behaviour (ids.getD item.2 "")).backend
      scope objects (ownersByObjectId cfg scope objects) item.1) =
        objectTask cfg scope behaviour objects item.1 := by
    rintro ⟨id, index⟩ hmem
    rw [List.getD_eq_getElem?_getD, List.mk_mem_zipIdx_iff_getElem?.1 hmem, Option.getD_some, objectTask]
  rw [List.map_map]
  simp only [Function.comp_def, objectId_runOne]
  rw [List.map_congr_left hitem]
  conv_rhs => rw [← List.zipIdx_map_fst 0 ids, List.map_map]
  rfl

theorem runSelectedBatch_eq_ok {order : List Nat} {batchObjectType : String} {batchObjectIds : List String}
    {report : BatchReport} :
    runSelectedBatch cfg scope behaviour order batchObjectType batchObjectIds = .ok report ↔
      ∃ type results, BatchObjectType.ofName batchObjectType = some type ∧
        (∀ id ∈ normalizeBatchObjectIds batchObjectIds, (intLiteral id).isSome) ∧
        ((normalizeBatchObjectIds batchObjectIds).map fun id =>
          objectTask cfg scope behaviour (ownObjects cfg type id) id) =
          results.map .ok ∧ report = batchReport results := by
  unfold runSelectedBatch runBatchSelectedSync
  dsimp only
  generalize normalizeBatchObjectIds batchObjectIds = ids
  split
  · rename_i htype
    refine iff_of_false nofun ?_
    rintro ⟨type, -, hsome, -⟩
    rw [htype] at hsome
    cases hsome
  · rename_i type htype
    have htasks {found : List BatchObject} (hfetch : fetchObjects cfg type ids = .ok found) :
        ids.map (objectTask cfg scope behaviour (Dict.ofWrites (found.map fun object =>
          (toString object.pk, object)))) =
          ids.map fun id => objectTask cfg scope behaviour (ownObjects cfg type id) id :=
      List.map_congr_left fun id hid => objectTask_congr ((get?_fetched hfetch hid).trans get?_ownObjects.symm)
    constructor
    · intro h
      obtain ⟨runs, hruns, h⟩ := bind_eq_ok.1 h
      obtain ⟨found, hfetch, hruns⟩ := bind_eq_ok.1 hruns
      obtain rfl := Except.ok.inj hruns
      obtain ⟨results, hresults, h⟩ := bind_eq_ok.1 h
      obtain rfl := Except.ok.inj h
      refine ⟨type, results, htype, exists_fetchObjects.1 ⟨found, hfetch⟩, ?_, rfl⟩
      rw [← htasks hfetch, ← finished_runs]
      exact gather_eq_ok.1 hresults
    · rintro ⟨_, results, htype', hids, hresults, rfl⟩
      obtain rfl := Option.some.inj (htype.symm.trans htype')
      obtain ⟨found, hfetch⟩ := exists_fetchObjects.2 hids
      rw [← htasks hfetch, ← finished_runs] at hresults
      exact bind_eq_ok.2 ⟨_, bind_eq_ok.2 ⟨found, hfetch, rfl⟩,
        bind_eq_ok.2 ⟨results, gather_eq_ok.2 hresults, rfl⟩⟩

theorem normalize_filter (batchObjectIds : List String) (id : String) :
    normalizeBatchObjectIds (batchObjectIds.filter (· ≠ id)) =
      (normalizeBatchObjectIds batchObjectIds).filter (· ≠ id) := by
  exact List.filter_comm _ _ _

section Tasks

variable {results : List BatchItem}

theorem ids_of_tasks (h : (ids.map fun id => objectTask cfg scope behaviour (ownObjects cfg type id) id) =
    results.map .ok) :
    results.map BatchItem.objectId = ids := by
  induction ids generalizing results with
  | nil =>
    cases results with
    | nil => rfl
    | cons item results => cases h
  | cons id ids ih =>
    cases results with
    | nil => cases h
    | cons item results =>
      obtain ⟨hitem, hrest⟩ := List.cons.inj h
      rw [List.map_cons, objectId_of_objectTask hitem, ih hrest]

theorem task_of_result (h : (ids.map fun id => objectTask cfg scope behaviour (ownObjects cfg type id) id) =
    results.map .ok) {item : BatchItem}
    (hitem : item ∈ results) : objectTask cfg scope behaviour (ownObjects cfg type item.objectId) item.objectId =
      .ok item := by
  have htask : .ok item ∈ ids.map fun id => objectTask cfg scope behaviour (ownObjects cfg type id) id :=
    h ▸ List.mem_map_of_mem hitem
  obtain ⟨id, -, hid⟩ := List.mem_map.1 htask
  rw [objectId_of_objectTask hid]
  exact hid

theorem exists_results (h : ∀ id ∈ ids, ∃ item, objectTask cfg scope behaviour (ownObjects cfg type id) id =
    .ok item) :
    ∃ results : List BatchItem, (ids.map fun id => objectTask cfg scope behaviour (ownObjects cfg type id) id) =
      results.map .ok := by
  induction ids with
  | nil => exact ⟨[], rfl⟩
  | cons id ids ih =>
    obtain ⟨⟨item, hitem⟩, hrest⟩ := List.forall_mem_cons.1 h
    obtain ⟨results, hresults⟩ := ih hrest
    exact ⟨item :: results, by rw [List.map_cons, hitem, hresults, List.map_cons]⟩

end Tasks

def idleStore : TenantStore where
  refresh := .ok ⟨"", none⟩
  tagSlugs := .ok []
  clusterTenant := .ok none
  endpointId := .ok none
  regexRules _ := .ok (false, [])
  tagAssignment _ := .ok false
  fromCluster _ := .ok false
  search _ _ := .ok none
  tenant _ := .ok none
  customersGroup := .ok 1
  makeTenant _ _ := .ok 1
  save _ := .ok ()

def answering (dependencies : Json) : ObjectBehaviour where
  backend := ⟨fun _ => some ⟨"http://backend", ""⟩, fun _ _ =>
    .json 200 (.obj [("dependencies_synced", dependencies)])⟩
  tenants := idleStore

def twoStorages : BatchConfig where
  clusters := []
  objects := [.proxmoxStorage ⟨10, ⟨5, "dc"⟩, "local", none⟩, .proxmoxStorage ⟨11, ⟨5, "dc"⟩, "nfs", none⟩]
  netboxBranchSchemaId := ""
  fastapiEndpointId := none
  depth := 5

end Proxbox
