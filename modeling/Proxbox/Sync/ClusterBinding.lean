import Proxbox.Library.Dict
import Proxbox.Library.Json
/-!
# Binding an endpoint to its native cluster

A report of the backend names the cluster of one endpoint. The native cluster is found through the endpoint
itself or, for older data, through its tracking rows, or created. Then the endpoint, one tracking row and the
sidecar of the cluster are made to agree, in one transaction. Evidence that disagrees is refused as a conflict.
-/

namespace Proxbox

open Python

structure BindingEndpoint where
  enabled : Bool
  netboxCluster : Option Nat

structure NativeCluster where
  name : String
  clusterType : Option Nat
  scope : Option (String × Nat)
  tenant : Option Nat
  deriving DecidableEq

structure TrackingRow where
  endpoint : Nat
  netboxCluster : Option Nat
  name : String
  mode : String
  clusterId : String

structure ClusterSidecar where
  proxmoxCluster : Option Nat
  proxmoxClusterName : String

/-- The rows by their keys. A sidecar belongs to one cluster and is kept by the cluster's key. -/
structure BindingTables where
  endpoints : Dict Nat BindingEndpoint
  clusters : Dict Nat NativeCluster
  tracking : Dict Nat TrackingRow
  sidecars : Dict Nat ClusterSidecar

inductive BindingError
  | conflict
  | permissionDenied (message : String)
  | operational

inductive BindingWrite
  | cluster
  | endpoint
  | tracking
  | newSidecar
  | sidecar

/-- Who asks, and what the database and the validation of the native models answer. -/
structure BindingContext where
  hasPerm : String → Bool
  /-- Whether `restrict(user, action)` of a model shows a row. -/
  restrict : String → String → BindingTables → Nat → Bool
  /-- The key of a new row among those of its table. -/
  newKey : List Nat → Nat
  newKey_notMem : ∀ keys, newKey keys ∉ keys
  write : BindingWrite → Except BindingError Unit
  cleanCluster : BindingTables → Nat → NativeCluster → Bool
  cleanSidecar : BindingTables → Nat → ClusterSidecar → Bool

/-- The report; `site` and `tenant` may be absent or null. -/
structure BindingValues where
  name : String
  clusterType : Nat
  mode : String
  clusterId : Option String
  site : Option (Option Nat)
  tenant : Option (Option Nat)

section Model

variable (context : BindingContext) (tables : BindingTables) (endpointPk : Nat)

def requireVisible (app model action : String) (pk : Nat) : Except BindingError Unit :=
  ensure (context.hasPerm (app ++ "." ++ action ++ "_" ++ model) = true ∧ context.restrict model action tables pk = true)
    (.permissionDenied "The required object permission is unavailable.")

def legacyClusterId : Except BindingError (Option Nat) :=
  let coreIds := (tables.tracking.items.filterMap fun item => if item.2.endpoint = endpointPk then
    item.2.netboxCluster else none).dedup
  match coreIds with
  | [] => .ok none
  | [core] => do
    ensure (∀ item ∈ tables.tracking.items, item.2.netboxCluster = some core → item.2.endpoint = endpointPk) .conflict
    return some core
  | _ => .error .conflict

def boundOrLegacy (endpoint : BindingEndpoint) : Except BindingError (Option Nat) :=
  match endpoint.netboxCluster with
  | some core => .ok (some core)
  | none => legacyClusterId tables endpointPk

/-- The checks on an existing cluster: no other endpoint has it, and the tracking rows agree. -/
def ownedCluster (core : Nat) : Except BindingError NativeCluster :=
  match tables.clusters.get? core with
  | none => .error .conflict
  | some row => do
    requireVisible context tables "virtualization" "cluster" "view" core
    requireVisible context tables "virtualization" "cluster" "change" core
    ensure (∀ item ∈ tables.endpoints.items, item.2.netboxCluster = some core → item.1 = endpointPk) .conflict
    ensure (∀ item ∈ tables.tracking.items, item.2.endpoint = endpointPk → item.2.netboxCluster.isSome →
      item.2.netboxCluster = some core) .conflict
    ensure (∀ item ∈ tables.tracking.items, item.2.netboxCluster = some core → item.2.endpoint = endpointPk) .conflict
    return row

def newCluster : NativeCluster := ⟨"", none, none, none⟩

/-- `_cluster`: the key of the cluster, its row and whether it is new. -/
def clusterOf (endpoint : BindingEndpoint) : Except BindingError (Nat × NativeCluster × Bool) := do
  match ← boundOrLegacy tables endpointPk endpoint with
  | none => do
    ensure (context.hasPerm "virtualization.add_cluster" = true)
      (.permissionDenied "Creating the endpoint's cluster requires add_cluster.")
    return (context.newKey tables.clusters.keys, newCluster, true)
  | some core => do
    let row ← ownedCluster context tables endpointPk core
    return (core, row, false)

def BindingValues.fill (values : BindingValues) (row : NativeCluster) : NativeCluster where
  name := values.name
  clusterType := some values.clusterType
  scope := (values.site.map (·.map fun pk => ("site", pk))).getD row.scope
  tenant := values.tenant.getD row.tenant

/-- `_validate_binding` of a tracking row that is saved under the permit for this endpoint and cluster. -/
def ValidBinding (core : Nat) (trackingPk : Option Nat) : Prop :=
  (∀ pk ∈ trackingPk, ∀ previous ∈ tables.tracking.get? pk, previous.endpoint = endpointPk ∧ ∀ old ∈ previous.netboxCluster,
    old = core) ∧
    (∀ endpoint ∈ tables.endpoints.get? endpointPk, ∀ owned ∈ endpoint.netboxCluster, owned = core) ∧
    (∀ item ∈ tables.endpoints.items, item.2.netboxCluster = some core → item.1 = endpointPk) ∧
    ∀ item ∈ tables.tracking.items, some item.1 ≠ trackingPk → item.2.netboxCluster.isSome →
      (item.2.endpoint = endpointPk ↔ item.2.netboxCluster = some core)

instance (core : Nat) (trackingPk : Option Nat) : Decidable (ValidBinding tables endpointPk core trackingPk) := by
  unfold ValidBinding
  infer_instance

/-- `_tracking`: the key of the row and the tables with the row saved. -/
def trackingOf (core : Nat) (values : BindingValues) : Except BindingError (Nat × BindingTables) := do
  let linked := tables.tracking.items.filter fun item => item.2.endpoint = endpointPk && item.2.netboxCluster = some core
  ensure (linked.length ≤ 1) .conflict
  let named := tables.tracking.items.find? fun item => item.2.endpoint = endpointPk && item.2.name = values.name
  ensure (∀ found ∈ named, ∀ item ∈ linked.head?, found.1 = item.1) .conflict
  let chosen := linked.head?.or named
  ensure (ValidBinding tables endpointPk core (chosen.map Prod.fst)) .conflict
  context.write .tracking
  let pk := (chosen.map Prod.fst).getD (context.newKey tables.tracking.keys)
  return (pk, { tables with
    tracking := tables.tracking.set pk ⟨endpointPk, some core, values.name, values.mode, values.clusterId.getD ""⟩ })

def createdSidecar (core : Nat) : Except BindingError ClusterSidecar :=
  match tables.sidecars.get? core with
  | some sidecar => .ok sidecar
  | none => do
    context.write .newSidecar
    return ⟨none, ""⟩

def sidecarOf (core trackingPk : Nat) (values : BindingValues) : Except BindingError BindingTables := do
  let sidecar ← createdSidecar context tables core
  ensure (∀ pk ∈ sidecar.proxmoxCluster, pk = trackingPk) .conflict
  let saved : ClusterSidecar := ⟨some trackingPk, values.name⟩
  ensure ((tables.tracking.get? trackingPk).bind (·.netboxCluster) = some core ∧
    context.cleanSidecar tables core saved = true) .conflict
  context.write .sidecar
  return { tables with sidecars := tables.sidecars.set core saved }

structure BindingOutcome where
  tables : BindingTables
  core : Nat
  tracking : Nat
  created : Bool
  changed : Bool

def synchronizeCluster (values : BindingValues) : Except BindingError BindingOutcome :=
  match tables.endpoints.get? endpointPk with
  | none => .error .conflict
  | some endpoint => do
    requireVisible context tables "netbox_proxbox" "proxmoxendpoint" "view" endpointPk
    requireVisible context tables "netbox_proxbox" "proxmoxendpoint" "change" endpointPk
    ensure (endpoint.enabled = true) (.permissionDenied "Disabled endpoints cannot synchronize a cluster.")
    let (core, previous, created) ← clusterOf context tables endpointPk endpoint
    let row := values.fill previous
    ensure (context.cleanCluster tables core row = true) .conflict
    context.write .cluster
    let saved := { tables with clusters := tables.clusters.set core row }
    requireVisible context saved "virtualization" "cluster" "view" core
    requireVisible context saved "virtualization" "cluster" (if created then "add" else "change") core
    context.write .endpoint
    let owned := { saved with endpoints := saved.endpoints.set endpointPk { endpoint with netboxCluster := some core } }
    let (tracking, tracked) ← trackingOf context owned endpointPk core values
    let bound ← sidecarOf context tracked core tracking values
    return ⟨bound, core, tracking, created, !created && decide (previous ≠ row)⟩

def BindingTables.synchronize (values : BindingValues) : BindingTables :=
  match synchronizeCluster context tables endpointPk values with
  | .ok outcome => outcome.tables
  | .error _ => tables

end Model

/-! ### What a run keeps -/

/-- Foreign keys point to rows, and no two endpoints have one cluster. -/
structure WellBound (tables : BindingTables) : Prop where
  endpoint_key : ∀ pk row core, tables.endpoints.get? pk = some row → row.netboxCluster = some core →
    core ∈ tables.clusters.keys
  tracking_key : ∀ pk row core, tables.tracking.get? pk = some row → row.netboxCluster = some core → core ∈ tables.clusters.keys
  one_to_one : ∀ pk pk' row row' core, tables.endpoints.get? pk = some row → tables.endpoints.get? pk' = some row' →
    row.netboxCluster = some core → row'.netboxCluster = some core → pk = pk'

/-- The endpoint is linked to one cluster, through one tracking row and the sidecar of the cluster. -/
structure Bound (tables : BindingTables) (endpointPk core tracking : Nat) : Prop where
  endpoint : ∃ row, tables.endpoints.get? endpointPk = some row ∧ row.netboxCluster = some core
  owner : ∀ pk row, tables.endpoints.get? pk = some row → row.netboxCluster = some core → pk = endpointPk
  row : ∃ row, tables.tracking.get? tracking = some row ∧ row.endpoint = endpointPk ∧ row.netboxCluster = some core
  only_row : ∀ pk row, tables.tracking.get? pk = some row → pk ≠ tracking → row.netboxCluster ≠ some core ∧
    (row.endpoint = endpointPk → row.netboxCluster = none)
  sidecar : ∃ sidecar, tables.sidecars.get? core = some sidecar ∧ sidecar.proxmoxCluster = some tracking

/-- Nothing of another endpoint is touched: neither its row, its tracking rows and its cluster nor a sidecar of
one of these. -/
structure OthersKept (tables tables' : BindingTables) (endpointPk : Nat) : Prop where
  endpoint : ∀ pk, pk ≠ endpointPk → tables'.endpoints.get? pk = tables.endpoints.get? pk
  tracking : ∀ pk row, tables.tracking.get? pk = some row → row.endpoint ≠ endpointPk → tables'.tracking.get? pk = some row
  cluster : ∀ pk row core, tables.endpoints.get? pk = some row → pk ≠ endpointPk → row.netboxCluster = some core →
    tables'.clusters.get? core = tables.clusters.get? core ∧ tables'.sidecars.get? core = tables.sidecars.get? core
  tracked : ∀ pk row core, tables.tracking.get? pk = some row → row.endpoint ≠ endpointPk → row.netboxCluster = some core →
    tables'.clusters.get? core = tables.clusters.get? core ∧ tables'.sidecars.get? core = tables.sidecars.get? core
  sidecar : ∀ core sidecar pk row, tables.sidecars.get? core = some sidecar → sidecar.proxmoxCluster = some pk →
    tables.tracking.get? pk = some row → row.endpoint ≠ endpointPk → tables'.sidecars.get? core = some sidecar

structure Available (tables : BindingTables) (endpointPk core : Nat) : Prop where
  endpoint : ∀ pk row, tables.endpoints.get? pk = some row → row.netboxCluster = some core → pk = endpointPk
  tracking : ∀ pk row, tables.tracking.get? pk = some row → row.netboxCluster = some core → row.endpoint = endpointPk
  only : ∀ pk row other, tables.tracking.get? pk = some row → row.endpoint = endpointPk → row.netboxCluster = some other →
    other = core

section Steps

variable {context : BindingContext} {tables : BindingTables} {endpointPk core tracking : Nat} {values : BindingValues}

theorem untracked_of_legacyClusterId (h : legacyClusterId tables endpointPk = .ok none) {pk : Nat} {row : TrackingRow}
    (hrow : tables.tracking.get? pk = some row) (hendpoint : row.endpoint = endpointPk) : row.netboxCluster = none := by
  unfold legacyClusterId at h
  dsimp only at h
  split at h
  · rename_i hnone
    rw [List.dedup_eq_nil, List.filterMap_eq_nil_iff] at hnone
    have hitem := hnone _ ((Dict.mem_items_iff_get? _ _ _).2 hrow)
    rwa [if_pos hendpoint] at hitem
  · obtain ⟨_, -, h⟩ := bind_eq_ok.1 h
    cases h
  · cases h

theorem available_clusterOf {endpoint : BindingEndpoint} {previous : NativeCluster} {created : Bool} (hwell : WellBound tables)
    (h : clusterOf context tables endpointPk endpoint = .ok (core, previous, created)) : Available tables endpointPk core := by
  obtain ⟨coreId, hcore, h⟩ := bind_eq_ok.1 h
  cases coreId with
  | none =>
    obtain ⟨_, -, h⟩ := bind_eq_ok.1 h
    obtain ⟨rfl, -⟩ := Prod.mk.inj (Except.ok.inj h)
    have hnone : legacyClusterId tables endpointPk = .ok none := by
      unfold boundOrLegacy at hcore
      split at hcore
      · cases hcore
      · exact hcore
    have hnew := context.newKey_notMem tables.clusters.keys
    refine ⟨fun pk row hrow howned => ?_, fun pk row hrow hlink => ?_, fun pk row other hrow hown hlink => ?_⟩
    · exact absurd (hwell.endpoint_key pk row _ hrow howned) hnew
    · exact absurd (hwell.tracking_key pk row _ hrow hlink) hnew
    · rw [untracked_of_legacyClusterId hnone hrow hown] at hlink
      cases hlink
  | some found =>
    obtain ⟨row, hrow, h⟩ := bind_eq_ok.1 h
    obtain ⟨rfl, -⟩ := Prod.mk.inj (Except.ok.inj h)
    unfold ownedCluster at hrow
    split at hrow
    · cases hrow
    obtain ⟨_, -, hrow⟩ := bind_eq_ok.1 hrow
    obtain ⟨_, -, hrow⟩ := bind_eq_ok.1 hrow
    obtain ⟨_, howner, hrow⟩ := bind_eq_ok.1 hrow
    obtain ⟨_, honly, hrow⟩ := bind_eq_ok.1 hrow
    obtain ⟨_, htracking, -⟩ := bind_eq_ok.1 hrow
    rw [ensure_eq_ok] at howner honly htracking
    refine ⟨fun pk row hrow => ?_, fun pk row hrow => ?_, fun pk row other hrow hown hlink => ?_⟩
    · exact howner _ ((Dict.mem_items_iff_get? _ _ _).2 hrow)
    · exact htracking _ ((Dict.mem_items_iff_get? _ _ _).2 hrow)
    · have hsame := honly _ ((Dict.mem_items_iff_get? _ _ _).2 hrow) hown (by rw [hlink]; rfl)
      exact Option.some.inj (hlink.symm.trans hsame)

theorem Available.owned (havailable : Available tables endpointPk core) (clusters : Dict Nat NativeCluster)
    (endpoint : BindingEndpoint) :
    Available { tables with clusters := clusters, endpoints := tables.endpoints.set endpointPk endpoint } endpointPk core where
  endpoint pk row hrow hcore := by
    rw [Dict.get?_set] at hrow
    split_ifs at hrow with hpk
    · exact hpk
    · exact havailable.endpoint pk row hrow hcore
  tracking := havailable.tracking
  only := havailable.only

/-- What the tracking step does: one row is saved, the only one of this endpoint with a link. -/
structure Tracked (tables tables' : BindingTables) (endpointPk core tracking : Nat) : Prop where
  set : ∃ row : TrackingRow, row.endpoint = endpointPk ∧ row.netboxCluster = some core ∧
    tables' = { tables with tracking := tables.tracking.set tracking row }
  own : ∀ row, tables.tracking.get? tracking = some row → row.endpoint = endpointPk
  only : ∀ pk row, tables.tracking.get? pk = some row → pk ≠ tracking → row.endpoint = endpointPk → row.netboxCluster = none

variable {tables' : BindingTables}

theorem tracked_trackingOf (havailable : Available tables endpointPk core)
    (h : trackingOf context tables endpointPk core values = .ok (tracking, tables')) :
      Tracked tables tables' endpointPk core tracking := by
  obtain ⟨_, hone, h⟩ := bind_eq_ok.1 h
  obtain ⟨_, hnamed, h⟩ := bind_eq_ok.1 h
  obtain ⟨_, -, h⟩ := bind_eq_ok.1 h
  obtain ⟨_, -, h⟩ := bind_eq_ok.1 h
  obtain ⟨rfl, rfl⟩ := Prod.mk.inj (Except.ok.inj h)
  rw [ensure_eq_ok] at hone
  generalize hlinked : tables.tracking.items.filter
    (fun item => item.2.endpoint = endpointPk && item.2.netboxCluster = some core) = linked at *
  have hmem (item : Nat × TrackingRow) : item ∈ linked ↔
      item ∈ tables.tracking.items ∧ item.2.endpoint = endpointPk ∧ item.2.netboxCluster = some core := by
    simp [← hlinked]
  -- A row of the endpoint with a link is linked to the cluster, so it is the one that is chosen.
  have hlink {pk : Nat} {row : TrackingRow} (hrow : tables.tracking.get? pk = some row) (hown : row.endpoint = endpointPk)
      (hsome : row.netboxCluster ≠ none) : linked = [(pk, row)] := by
    obtain ⟨other, hother⟩ := Option.ne_none_iff_exists'.1 hsome
    have hin : (pk, row) ∈ linked :=
      (hmem _).2 ⟨(Dict.mem_items_iff_get? _ _ _).2 hrow, hown, havailable.only pk row other hrow hown hother ▸ hother⟩
    obtain ⟨item, rfl⟩ := List.length_eq_one_iff.1 (le_antisymm hone (List.length_pos_of_mem hin))
    rw [List.mem_singleton.1 hin]
  refine ⟨⟨_, rfl, rfl, rfl⟩, fun row hrow => ?_, fun pk row hrow hne hown => ?_⟩
  · cases hchosen : linked.head?.or
        (tables.tracking.items.find? fun item => item.2.endpoint = endpointPk && item.2.name = values.name) with
    | none =>
      rw [hchosen] at hrow
      exact absurd ((Dict.get?_isSome_iff _ _).1 ⟨row, hrow⟩) (context.newKey_notMem _)
    | some item =>
      rw [hchosen] at hrow
      have hitem : item ∈ tables.tracking.items ∧ item.2.endpoint = endpointPk := by
        rcases Option.or_eq_some_iff.1 hchosen with hhead | ⟨-, hfind⟩
        · have hin := (hmem item).1 (List.mem_of_mem_head? hhead)
          exact ⟨hin.1, hin.2.1⟩
        · have hname := List.find?_some hfind
          simp only [Bool.and_eq_true, decide_eq_true_eq] at hname
          exact ⟨List.mem_of_find?_eq_some hfind, hname.1⟩
      have hget : tables.tracking.get? item.1 = some item.2 := (Dict.mem_items_iff_get? _ _ _).1 hitem.1
      obtain rfl := Option.some.inj (hget.symm.trans hrow)
      exact hitem.2
  · by_contra hsome
    refine hne ?_
    rw [hlink hrow hown hsome]
    rfl

theorem sidecarOf_eq_ok (h : sidecarOf context tables core tracking values = .ok tables') :
    (∀ sidecar, tables.sidecars.get? core = some sidecar → ∀ pk ∈ sidecar.proxmoxCluster, pk = tracking) ∧
      tables' = { tables with sidecars := tables.sidecars.set core ⟨some tracking, values.name⟩ } := by
  obtain ⟨sidecar, hsidecar, h⟩ := bind_eq_ok.1 h
  obtain ⟨_, hfree, h⟩ := bind_eq_ok.1 h
  obtain ⟨_, -, h⟩ := bind_eq_ok.1 h
  obtain ⟨_, -, h⟩ := bind_eq_ok.1 h
  obtain rfl := Except.ok.inj h
  refine ⟨fun found hfound => ?_, rfl⟩
  unfold createdSidecar at hsidecar
  rw [hfound] at hsidecar
  obtain rfl := Except.ok.inj hsidecar
  exact ensure_eq_ok.1 hfree

section Final

variable {endpoint : BindingEndpoint} {cluster : NativeCluster} {row : TrackingRow} {sidecar : ClusterSidecar}

def BindingTables.written (tables : BindingTables) (endpointPk core tracking : Nat) (endpoint : BindingEndpoint)
    (cluster : NativeCluster) (row : TrackingRow) (sidecar : ClusterSidecar) : BindingTables :=
  ⟨tables.endpoints.set endpointPk endpoint, tables.clusters.set core cluster, tables.tracking.set tracking row,
    tables.sidecars.set core sidecar⟩

theorem bound_written (havailable : Available tables endpointPk core) (hendpoint : endpoint.netboxCluster = some core)
    (hrow : row.endpoint = endpointPk ∧ row.netboxCluster = some core) (hsidecar : sidecar.proxmoxCluster = some tracking)
    (honly : ∀ pk row, tables.tracking.get? pk = some row → pk ≠ tracking → row.endpoint = endpointPk →
      row.netboxCluster = none) :
    Bound (tables.written endpointPk core tracking endpoint cluster row sidecar) endpointPk core tracking where
  endpoint := ⟨endpoint, by simp [BindingTables.written], hendpoint⟩
  owner pk other hother hcore := by
    rw [BindingTables.written, Dict.get?_set] at hother
    split_ifs at hother with hpk
    · exact hpk
    · exact havailable.endpoint pk other hother hcore
  row := ⟨row, by simp [BindingTables.written], hrow⟩
  only_row pk other hother hne := by
    rw [BindingTables.written, Dict.get?_set, if_neg hne] at hother
    refine ⟨fun hcore => ?_, honly pk other hother hne⟩
    rw [honly pk other hother hne (havailable.tracking pk other hother hcore)] at hcore
    cases hcore
  sidecar := ⟨sidecar, by simp [BindingTables.written], hsidecar⟩

theorem othersKept_written (havailable : Available tables endpointPk core)
    (hown : ∀ row, tables.tracking.get? tracking = some row → row.endpoint = endpointPk)
    (hfree : ∀ sidecar, tables.sidecars.get? core = some sidecar → ∀ pk ∈ sidecar.proxmoxCluster, pk = tracking) :
    OthersKept tables (tables.written endpointPk core tracking endpoint cluster row sidecar) endpointPk := by
  have hkept {other : Nat} (hne : other ≠ core) :
      (tables.written endpointPk core tracking endpoint cluster row sidecar).clusters.get? other = tables.clusters.get? other ∧
        (tables.written endpointPk core tracking endpoint cluster row sidecar).sidecars.get? other =
          tables.sidecars.get? other := by
    simp [BindingTables.written, hne]
  refine ⟨fun pk hne => ?_, fun pk old hold hother => ?_, fun pk old other hold hne hother => hkept ?_,
    fun pk old other hold hne hother => hkept ?_, fun other found pk old hfound hpk hold hne => ?_⟩
  · rw [BindingTables.written, Dict.get?_set, if_neg hne]
  · have hne : pk ≠ tracking := by
      rintro rfl
      exact hother (hown old hold)
    rw [BindingTables.written, Dict.get?_set, if_neg hne, hold]
  · rintro rfl
    exact hne (havailable.endpoint pk old hold hother)
  · rintro rfl
    exact hne (havailable.tracking pk old hold hother)
  · have hcore : other ≠ core := by
      rintro rfl
      obtain rfl := hfree found hfound pk hpk
      exact hne (hown old hold)
    rw [(hkept hcore).2, hfound]

theorem wellBound_written (hwell : WellBound tables) (havailable : Available tables endpointPk core)
    (hendpoint : endpoint.netboxCluster = some core) (hrow : row.netboxCluster = some core) :
    WellBound (tables.written endpointPk core tracking endpoint cluster row sidecar) := by
  refine ⟨fun pk old other hold hother => ?_, fun pk old other hold hother => ?_,
    fun pk pk' old old' other hold hold' hother hother' => ?_⟩
  · rw [BindingTables.written, Dict.get?_set] at hold
    refine (Dict.mem_keys_set _ _ _ _).2 ?_
    split_ifs at hold with hpk
    · obtain rfl := Option.some.inj hold
      exact .inl (Option.some.inj (hother.symm.trans hendpoint))
    · exact .inr (hwell.endpoint_key pk old other hold hother)
  · rw [BindingTables.written, Dict.get?_set] at hold
    refine (Dict.mem_keys_set _ _ _ _).2 ?_
    split_ifs at hold with hpk
    · obtain rfl := Option.some.inj hold
      exact .inl (Option.some.inj (hother.symm.trans hrow))
    · exact .inr (hwell.tracking_key pk old other hold hother)
  · rw [BindingTables.written, Dict.get?_set] at hold hold'
    split_ifs at hold hold' with hpk hpk' hpk'
    · rw [hpk, hpk']
    · obtain rfl := Option.some.inj hold
      rw [hpk, havailable.endpoint pk' old' hold' (hother'.trans (hother.symm.trans hendpoint))]
    · obtain rfl := Option.some.inj hold'
      rw [hpk', havailable.endpoint pk old hold (hother.trans (hother'.symm.trans hendpoint))]
    · exact hwell.one_to_one pk pk' old old' other hold hold' hother hother'

end Final

theorem synchronizeCluster_spec {outcome : BindingOutcome} (hwell : WellBound tables)
    (h : synchronizeCluster context tables endpointPk values = .ok outcome) :
    Bound outcome.tables endpointPk outcome.core outcome.tracking ∧ OthersKept tables outcome.tables endpointPk ∧
      WellBound outcome.tables := by
  unfold synchronizeCluster at h
  cases hendpoint : tables.endpoints.get? endpointPk with
  | none =>
    rw [hendpoint] at h
    cases h
  | some endpoint =>
  rw [hendpoint] at h
  obtain ⟨_, -, h⟩ := bind_eq_ok.1 h
  obtain ⟨_, -, h⟩ := bind_eq_ok.1 h
  obtain ⟨_, -, h⟩ := bind_eq_ok.1 h
  obtain ⟨⟨core, previous, created⟩, hcluster, h⟩ := bind_eq_ok.1 h
  obtain ⟨_, -, h⟩ := bind_eq_ok.1 h
  obtain ⟨_, -, h⟩ := bind_eq_ok.1 h
  obtain ⟨_, -, h⟩ := bind_eq_ok.1 h
  obtain ⟨_, -, h⟩ := bind_eq_ok.1 h
  obtain ⟨_, -, h⟩ := bind_eq_ok.1 h
  obtain ⟨⟨tracking, tracked⟩, htracking, h⟩ := bind_eq_ok.1 h
  obtain ⟨bound, hsidecar, h⟩ := bind_eq_ok.1 h
  obtain rfl := Except.ok.inj h
  have havailable := available_clusterOf hwell hcluster
  obtain ⟨⟨row, hrow, hlink, rfl⟩, hown, honly⟩ := tracked_trackingOf (havailable.owned _ _) htracking
  obtain ⟨hfree, rfl⟩ := sidecarOf_eq_ok hsidecar
  exact ⟨bound_written havailable rfl ⟨hrow, hlink⟩ rfl honly, othersKept_written havailable hown hfree,
    wellBound_written hwell havailable rfl hlink⟩

end Steps

def BindingTables.synchronizeAll (tables : BindingTables) (runs : List (BindingContext × Nat × BindingValues)) :
    BindingTables :=
  runs.foldl (fun tables run => tables.synchronize run.1 run.2.1 run.2.2) tables

theorem wellBound_synchronize {tables : BindingTables} (hwell : WellBound tables) (context : BindingContext) (endpointPk : Nat)
    (values : BindingValues) : WellBound (tables.synchronize context endpointPk values) := by
  unfold BindingTables.synchronize
  cases h : synchronizeCluster context tables endpointPk values with
  | ok outcome => exact (synchronizeCluster_spec hwell h).2.2
  | error _ => exact hwell

theorem wellBound_synchronizeAll {tables : BindingTables} (hwell : WellBound tables)
    (runs : List (BindingContext × Nat × BindingValues)) : WellBound (tables.synchronizeAll runs) := by
  unfold BindingTables.synchronizeAll
  induction runs generalizing tables with
  | nil => exact hwell
  | cons run runs ih => exact ih (wellBound_synchronize hwell _ _ _)

/-- After any runs, one more run changes nothing or binds its endpoint and keeps what the others have. -/
theorem synchronizeCluster_sound (tables : BindingTables) (runs : List (BindingContext × Nat × BindingValues))
    (context : BindingContext) (endpointPk : Nat) (values : BindingValues) (hwell : WellBound tables) :
    let before := tables.synchronizeAll runs
    let after := before.synchronize context endpointPk values
    WellBound after ∧ (after = before ∨ (∃ core tracking, Bound after endpointPk core tracking) ∧
      OthersKept before after endpointPk) := by
  intro before after
  have hbefore : WellBound before := wellBound_synchronizeAll hwell runs
  refine ⟨wellBound_synchronize hbefore context endpointPk values, ?_⟩
  cases h : synchronizeCluster context before endpointPk values with
  | error _ =>
    refine .inl ?_
    show BindingTables.synchronize context before endpointPk values = before
    rw [BindingTables.synchronize, h]
  | ok outcome =>
    have hafter : after = outcome.tables := by
      show BindingTables.synchronize context before endpointPk values = outcome.tables
      rw [BindingTables.synchronize, h]
    obtain ⟨hbound, hkept, -⟩ := synchronizeCluster_spec hbefore h
    rw [hafter]
    exact .inr ⟨⟨_, _, hbound⟩, hkept⟩

theorem lt_foldr_max_succ {keys : List Nat} {key : Nat} (h : key ∈ keys) : key < keys.foldr max 0 + 1 := by
  induction keys with
  | nil => cases h
  | cons first rest ih =>
    rw [List.foldr_cons]
    rcases List.mem_cons.1 h with rfl | hrest
    · omega
    · have := ih hrest
      omega

def grantAll : BindingContext where
  hasPerm _ := true
  restrict _ _ _ _ := true
  newKey keys := keys.foldr max 0 + 1
  newKey_notMem _ h := lt_irrefl _ (lt_foldr_max_succ h)
  write _ := .ok ()
  cleanCluster _ _ _ := true
  cleanSidecar _ _ _ := true

/-- An endpoint without a cluster beside one that is bound. -/
def twoEndpoints : BindingTables where
  endpoints := (Dict.empty.set 1 ⟨true, none⟩).set 2 ⟨true, some 7⟩
  clusters := Dict.empty.set 7 ⟨"east", some 4, none, none⟩
  tracking := Dict.empty.set 3 ⟨2, some 7, "east", "cluster", ""⟩
  sidecars := Dict.empty.set 7 ⟨some 3, "east"⟩

theorem wellBound_twoEndpoints : WellBound twoEndpoints := by
  have hkey : 7 ∈ twoEndpoints.clusters.keys := List.mem_singleton_self 7
  have hendpoint {pk core : Nat} {row : BindingEndpoint} (hrow : twoEndpoints.endpoints.get? pk = some row)
      (hcore : row.netboxCluster = some core) : pk = 2 ∧ core = 7 := by
    have hitem : (pk, row) ∈ [(1, ⟨true, none⟩), (2, ⟨true, some 7⟩)] := (Dict.mem_items_iff_get? _ _ _).2 hrow
    simp only [List.mem_cons, List.not_mem_nil, Prod.mk.injEq, or_false] at hitem
    rcases hitem with ⟨rfl, rfl⟩ | ⟨rfl, rfl⟩
    · cases hcore
    · exact ⟨rfl, (Option.some.inj hcore).symm⟩
  refine ⟨fun pk row core hrow hcore => (hendpoint hrow hcore).2 ▸ hkey, fun pk row core hrow hcore => ?_,
    fun pk pk' row row' core hrow hrow' hcore hcore' => (hendpoint hrow hcore).1.trans (hendpoint hrow' hcore').1.symm⟩
  obtain ⟨rfl, rfl⟩ := Prod.mk.inj (List.mem_singleton.1 ((Dict.mem_items_iff_get? _ _ _).2 hrow))
  exact Option.some.inj hcore ▸ hkey

def reportOf (name : String) : BindingValues := ⟨name, 4, "cluster", none, none, none⟩

/-- The bound endpoint is renamed, and then the other one is bound beside it. -/
theorem synchronizeCluster_sound_two :
    let before := twoEndpoints.synchronizeAll [(grantAll, 2, reportOf "east two")]
    let after := before.synchronize grantAll 1 (reportOf "lab")
    (before.clusters.get? 7).map (·.name) = some "east two" ∧ (∃ core tracking, Bound after 1 core tracking) ∧
      OthersKept before after 1 := by
  intro before after
  refine ⟨rfl, ?_⟩
  rcases (synchronizeCluster_sound twoEndpoints [(grantAll, 2, reportOf "east two")] grantAll 1 (reportOf "lab")
    wellBound_twoEndpoints).2 with hsame | hbound
  · have hbefore : (before.endpoints.get? 1).bind (·.netboxCluster) = none := rfl
    have hafter : (after.endpoints.get? 1).bind (·.netboxCluster) = some 8 := rfl
    cases hafter.symm.trans ((congrArg (fun tables => (tables.endpoints.get? 1).bind (·.netboxCluster)) hsame).trans hbefore)
  · exact hbound

end Proxbox
