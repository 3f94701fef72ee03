import Proxbox.Sync.FirewallSync
import Proxbox.Sync.TemplateSync
/-!
# Counts and commits

The syncs of clusters, firewalls and templates count what they create, update and delete while their
transactions are open. Each is described by the transactions it makes, and its counters are those of the
library.
-/

namespace Proxbox

open Python Tally

/-! ### Clusters and nodes -/

inductive ClusterKey where
  | cluster (stored : Option Nat)
  | node (name : String)
  deriving DecidableEq

inductive ClusterModel where
  | cluster
  | node
  deriving DecidableEq

def ClusterKey.model : ClusterKey → ClusterModel
  | .cluster _ => .cluster
  | .node _ => .node

structure SyncedCluster where
  pk : Nat
  name : String
  netboxCluster : Option Nat
  tagged : Bool

structure NodeRecord where
  name : String
  id : String
  node : String

/-- What the persisting part of the sync reads. -/
structure ClusterRun where
  endpointName : String
  netboxCluster : Option Nat
  locked : Bool
  clusterMode : SyncMode
  nodeMode : SyncMode
  clusters : List SyncedCluster
  /-- The stored nodes, and whether each has the bootstrap-only tag. -/
  nodes : Dict String Bool
  record : Option String
  records : List NodeRecord
  /-- The statement at which the database fails: a save or, after these, the deletion or the commit. -/
  fault : Option Nat

namespace ClusterRun

variable (run : ClusterRun)

def selectClusterTracking (name : String) : Except Raised (Option SyncedCluster) :=
  let linked := run.clusters.filter fun cluster => run.netboxCluster.isSome && cluster.netboxCluster = run.netboxCluster
  let named := run.clusters.find? fun cluster => cluster.name = name
  if linked.length > 1 then .error (.withText "Resolve ambiguous linked cluster tracking before synchronization.")
  else match linked.head?, named with
    | some existing, some other =>
      if existing.pk ≠ other.pk then .error (.withText "Resolve the conflicting named tracking row before synchronization.")
      else .ok (some existing)
    | some existing, none => .ok (some existing)
    | none, other => .ok other

def syncClusterRecord : Except Raised (List ClusterKey) :=
  match run.record with
  | none => .ok []
  | some recordName => do
    let existing ← run.selectClusterTracking (if recordName ≠ "" then recordName else run.endpointName)
    if run.clusterMode = .disabled ∨ existing.any (run.clusterMode = .bootstrapOnly ∧ ·.tagged) then return []
    return [.cluster (existing.map SyncedCluster.pk)]

def NodeRecord.nodeName (record : NodeRecord) : String :=
  if record.name ≠ "" then record.name else if record.id ≠ "" then record.id else record.node

/-- One round of `_sync_node_records`: the nodes with their tags, and the names saved so far. -/
def syncNodeRecord (state : Dict String Bool × List String) (record : NodeRecord) : Dict String Bool × List String :=
  let name := NodeRecord.nodeName record
  if name = "" then state
  else match state.1.get? name with
    | some tagged => if run.nodeMode = .bootstrapOnly ∧ tagged then state else (state.1, state.2 ++ [name])
    | none => (state.1.set name (run.nodeMode = .bootstrapOnly), state.2 ++ [name])

def savedNodes : List String :=
  if run.nodeMode = .disabled then [] else (run.records.foldl run.syncNodeRecord (run.nodes, [])).2

def staleNodes : List String :=
  if run.nodeMode = .disabled then []
  else run.nodes.keys.filter fun name => name ∉ (run.records.map NodeRecord.nodeName).filter
    (· ≠ "") && (run.nodeMode ≠ .bootstrapOnly || run.nodes.get? name = some false)

def batch : Batch ClusterKey :=
  match run.syncClusterRecord with
  | .error _ => ⟨[], ∅, false⟩
  | .ok saved =>
    let saves := saved ++ run.savedNodes.map .node
    if !run.locked then ⟨[], ∅, false⟩
    else match run.fault with
      | none => ⟨saves, (run.staleNodes.map .node).toFinset, true⟩
      | some statement =>
        ⟨saves.take statement, if saves.length < statement then (run.staleNodes.map .node).toFinset else ∅, false⟩

def stored : Finset ClusterKey := (run.clusters.map fun cluster => .cluster (some cluster.pk)).toFinset ∪ (run.nodes.keys.map
    .node).toFinset

theorem deletable_batch : Deletable [run.batch] ⟨run.stored, ∅⟩ := by
  have hstale : (run.staleNodes.map ClusterKey.node).toFinset ⊆ run.stored := by
    intro key hkey
    obtain ⟨name, hname, rfl⟩ := List.mem_map.1 (List.mem_toFinset.1 hkey)
    refine Finset.mem_union_right _ (List.mem_toFinset.2 (List.mem_map_of_mem ?_))
    unfold staleNodes at hname
    split_ifs at hname
    · cases hname
    · exact (List.mem_filter.1 hname).1
  refine ⟨?_, trivial⟩
  unfold batch
  split
  · exact Finset.empty_subset _
  · dsimp only
    split_ifs
    · exact Finset.empty_subset _
    · split
      · exact hstale
      · dsimp only
        split_ifs
        · exact hstale
        · exact Finset.empty_subset _

end ClusterRun

/-! ### Firewalls -/

def FirewallKey.model : FirewallKey → FirewallModel
  | .securityGroup _ => .securityGroup
  | .rule _ _ _ => .rule
  | .ipset _ => .ipset
  | .ipsetEntry _ _ => .ipsetEntry
  | .alias _ => .alias
  | .options => .options

def firewallBatches : List (SummaryEntry × Nat) → Rows (Nat × FirewallKey) → List (Batch (Nat × FirewallKey))
  | [], _ => []
  | write :: writes, rows =>
    let batch := write.1.batch write.2 rows.present
    batch :: firewallBatches writes (batch.commit rows)

theorem deletable_firewallBatches (writes : List (SummaryEntry × Nat)) (rows : Rows (Nat × FirewallKey)) :
    Deletable (firewallBatches writes rows) rows := by
  induction writes generalizing rows with
  | nil => trivial
  | cons write writes ih =>
    refine ⟨?_, ih _⟩
    dsimp only [SummaryEntry.batch]
    split_ifs
    · exact Finset.filter_subset _ _
    · exact Finset.empty_subset _

/-! ### Templates -/

/-- The transaction of `sync_vm_templates`. If it fails or is not reached, there is nothing, and nothing is
reported. -/
def templateBatches (world : TemplateWorld) (stored : Dict Int StoredTemplate) : List (Batch Int) :=
  match world.rows with
  | none => []
  | some rows =>
    let state := persistLoop world.mode rows stored
    [⟨state.saved, (staleTemplates stored state).toFinset, true⟩]

theorem deletable_templateBatches (world : TemplateWorld) (stored : Dict Int StoredTemplate) :
    Deletable (templateBatches world stored) ⟨stored.keys.toFinset, ∅⟩ := by
  unfold templateBatches
  split
  · trivial
  · refine ⟨fun vmid hvmid => List.mem_toFinset.2 ((Dict.get?_isSome_iff _ _).1 ?_), trivial⟩
    obtain ⟨item, hitem, rfl⟩ := List.mem_map.1 (List.mem_toFinset.1 hvmid)
    have hstale := (List.mem_filter.1 hitem).2
    simp only [Bool.and_eq_true, Option.any_eq_true] at hstale
    obtain ⟨⟨⟨template, htemplate, -⟩, -⟩, -⟩ := hstale
    exact ⟨template, htemplate⟩

/-! ### The counters -/

/-- The counters of the three syncs equal what is committed exactly if no work is lost. -/
theorem reported_counts_iff (run : ClusterRun) (clusterDependents : ClusterKey → Nat) (writes : List (SummaryEntry × Nat))
    (rows : Finset (Nat × FirewallKey)) (firewallDependents : Nat × FirewallKey → Nat) (world : TemplateWorld)
    (stored : Dict Int StoredTemplate) (templateDependents : Int → Nat) :
    (ExactByKind ClusterKey.model clusterDependents [run.batch] run.stored ↔
      CleanByKind ClusterKey.model clusterDependents [run.batch]) ∧
      (ExactByKind (·.2.model) firewallDependents (firewallBatches writes ⟨rows, ∅⟩) rows ↔
        CleanByKind (·.2.model) firewallDependents (firewallBatches writes ⟨rows, ∅⟩)) ∧
      (ExactByKind (fun _ => ()) templateDependents (templateBatches world stored) stored.keys.toFinset ↔
        CleanByKind (fun _ => ()) templateDependents (templateBatches world stored)) :=
  ⟨exactByKind_iff _ _ run.deletable_batch, exactByKind_iff _ _ (deletable_firewallBatches writes _),
    exactByKind_iff _ _ (deletable_templateBatches world stored)⟩

/-- A new node is counted and rolled back, an alias that is listed twice is counted as created and as updated,
and a template with one tag counts as two deleted rows. -/
theorem uncommitted_work_is_counted :
    let run : ClusterRun := ⟨"east", none, true, .always, .always, [], Dict.empty, none, [⟨"pve1", "", ""⟩], some 1⟩
    let lan : Json := .obj [("name", .str "lan"), ("cidr", .str "10.0.0.0/8")]
    let entry : SummaryEntry := ⟨.obj [("aliases", .arr [lan, lan])], false, none, ""⟩
    let world : TemplateWorld := ⟨true, .always, .ok (.arr []), fun _ _ _ => none, false⟩
    let stored : Dict Int StoredTemplate := Dict.ofWrites [(100, ⟨"qemu", false⟩)]
    ¬ ExactByKind ClusterKey.model (fun _ => 0) [run.batch] run.stored ∧
      ¬ ExactByKind (·.2.model) (fun _ => 0) (firewallBatches [(entry, 1)] ⟨∅, ∅⟩) ∅ ∧
      ¬ ExactByKind (fun _ => ()) (fun _ => 1) (templateBatches world stored) stored.keys.toFinset := by
  refine ⟨fun h => absurd (h .node) ?_, fun h => absurd (h .alias) ?_, fun h => absurd (h ()) ?_⟩
  · decide +kernel
  · decide +kernel
  · decide +kernel

end Proxbox
