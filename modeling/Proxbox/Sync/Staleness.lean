import Proxbox.Sync.FirewallSync
/-!
# Active and stale rows

A firewall entry marks every other row of its endpoint stale, and so does a reply of the datacenter for the
endpoints that it has a CPU model for. What is active in the end is what the last entry has. An endpoint without
an entry is not swept.
-/

namespace Proxbox

open Python Tally

/-! ### Firewall -/

def endpointEntries (endpoint : Nat) (writes : List (SummaryEntry × Nat)) : List SummaryEntry :=
  (writes.filter (·.2 = endpoint)).map Prod.fst

def syncEntries (writes : List (SummaryEntry × Nat)) (rows : FirewallRows) : FirewallRows := writes.foldl syncOneEndpoint rows

/-- Every row of an endpoint is active exactly if an entry of the endpoint has it. -/
def FirewallExact (endpoint : Nat) (writes : List (SummaryEntry × Nat)) (rows : FirewallRows) : Prop :=
  ∀ key, key.hasStatus = true → (endpoint, key) ∈ rows.stored →
    ((endpoint, key) ∈ rows.active ↔ ∃ item ∈ endpointEntries endpoint writes, key ∈ item.keys)

/-- What is active is accounted for: without an entry no row is, and the last entry has what the others have. -/
def LastEntryCovers (endpoint : Nat) (writes : List (SummaryEntry × Nat)) (rows : FirewallRows) : Prop :=
  match (endpointEntries endpoint writes).getLast? with
  | none => ∀ key, key.hasStatus = true → (endpoint, key) ∈ rows.stored → (endpoint, key) ∉ rows.active
  | some last => ∀ item ∈ endpointEntries endpoint writes, ∀ key ∈ item.keys, key.hasStatus = true → key ∈ last.keys

section Firewall

variable {endpoint : Nat} {writes : List (SummaryEntry × Nat)} {rows : FirewallRows} {write : SummaryEntry × Nat}
  {key : FirewallKey}

theorem saves_of_completes {item : SummaryEntry} (h : item.completes = true) : item.saves = item.keys := by
  have hfault : item.fault = none := Option.isNone_iff_eq_none.1 (Bool.and_eq_true_iff.1 h).2
  rw [SummaryEntry.saves, hfault]

theorem dropsEntry_of_hasStatus {item : SummaryEntry} (h : key.hasStatus = true) : item.dropsEntry key = false := by
  cases key with
  | ipsetEntry => cases h
  | _ => rfl

theorem mem_savedRows (h : write.1.completes = true) :
    (endpoint, key) ∈ (write.1.batch write.2 rows.stored).saves.toFinset ↔ write.2 = endpoint ∧ key ∈ write.1.keys := by
  simp only [SummaryEntry.batch, saves_of_completes h, List.mem_toFinset, List.mem_map, Prod.mk.injEq]
  constructor
  · rintro ⟨key, hkey, rfl, rfl⟩
    exact ⟨rfl, hkey⟩
  · rintro ⟨rfl, hkey⟩
    exact ⟨key, hkey, rfl, rfl⟩

theorem mem_stored_syncOneEndpoint (h : write.1.completes = true) (hkey : key.hasStatus = true) :
    (endpoint, key) ∈ (syncOneEndpoint rows write).stored ↔ (endpoint, key) ∈ rows.stored ∨ write.2 = endpoint ∧
      key ∈ write.1.keys := by
  have hkept : (endpoint, key) ∉ (write.1.batch write.2 rows.stored).deletes := by
    dsimp only [SummaryEntry.batch]
    split_ifs
    · simp [dropsEntry_of_hasStatus hkey]
    · exact Finset.notMem_empty _
  have hcompletes : (write.1.batch write.2 rows.stored).completes = true := h
  rw [syncOneEndpoint, if_pos h, ← mem_savedRows h, Batch.commit, if_pos hcompletes, Finset.mem_sdiff, Finset.mem_union]
  exact and_iff_left hkept

theorem mem_active_syncOneEndpoint (h : write.1.completes = true) (hkey : key.hasStatus = true) :
    (endpoint, key) ∈ (syncOneEndpoint rows write).active ↔ if write.2 = endpoint then key ∈ write.1.keys else (endpoint,
      key) ∈ rows.active := by
  rw [syncOneEndpoint, if_pos h, Finset.mem_union, mem_savedRows h, Finset.mem_filter]
  split_ifs with hown
  · simp [hown, hkey]
  · simp [hown, Ne.symm hown]

theorem endpointEntries_concat : endpointEntries endpoint (writes ++ [write]) = endpointEntries endpoint writes ++
    if write.2 = endpoint then [write.1] else [] := by
  rw [endpointEntries, List.filter_append, List.map_append, List.filter_singleton]
  split_ifs with h
  · simp [h, endpointEntries]
  · simp [h, endpointEntries]

/-- What a run leaves: the rows of all entries are stored, and those of the last one are active. -/
theorem syncEntries_spec (h : ∀ write ∈ writes, write.1.completes = true) (hkey : key.hasStatus = true) :
    ((endpoint, key) ∈ (syncEntries writes rows).stored ↔
        (endpoint, key) ∈ rows.stored ∨ ∃ item ∈ endpointEntries endpoint writes, key ∈ item.keys) ∧
      ((endpoint, key) ∈ (syncEntries writes rows).active ↔
        match (endpointEntries endpoint writes).getLast? with
        | none => (endpoint, key) ∈ rows.active
        | some last => key ∈ last.keys) := by
  induction writes using List.reverseRecOn with
  | nil => simp [syncEntries, endpointEntries]
  | append_singleton writes write ih =>
    obtain ⟨hstored, hactive⟩ := ih fun other hother => h other (List.mem_append_left _ hother)
    have hwrite := h write (List.mem_append_right _ (List.mem_singleton.2 rfl))
    rw [syncEntries, List.foldl_append, List.foldl_cons, List.foldl_nil, ← syncEntries, mem_stored_syncOneEndpoint hwrite hkey,
      mem_active_syncOneEndpoint hwrite hkey, hstored, hactive, endpointEntries_concat]
    split_ifs with hown
    · simp [hown, or_assoc, or_and_right, exists_or]
    · simp [hown]

theorem firewallExact_iff (h : ∀ write ∈ writes, write.1.completes = true) :
    FirewallExact endpoint writes (syncEntries writes rows) ↔ LastEntryCovers endpoint writes rows := by
  have hspec (key : FirewallKey) (hkey : key.hasStatus = true) := @syncEntries_spec endpoint writes rows key h hkey
  unfold FirewallExact LastEntryCovers
  cases hlast : (endpointEntries endpoint writes).getLast? with
  | none =>
    rw [List.getLast?_eq_none_iff] at hlast
    refine forall₂_congr fun key hkey => ?_
    simp [hspec key hkey, hlast]
  | some last =>
    simp only [hlast] at hspec ⊢
    constructor
    · intro hexact item hitem key hmem hkey
      exact (hspec key hkey).2.1 ((hexact key hkey ((hspec key hkey).1.2 (.inr ⟨item, hitem, hmem⟩))).2 ⟨item, hitem, hmem⟩)
    · intro hcovers key hkey _
      rw [(hspec key hkey).2]
      constructor
      · exact fun hmem => ⟨last, List.mem_of_getLast? hlast, hmem⟩
      · rintro ⟨item, hitem, hmem⟩
        exact hcovers item hitem key hmem hkey

end Firewall

/-! ### CPU models -/

/-- What identifies a CPU model of an endpoint: the name of the cluster and the type. -/
abbrev CpuKey := String × String

structure CpuRows where
  stored : Finset (Nat × CpuKey)
  active : Finset (Nat × CpuKey)

def ReplyEntry.cpuKey (item : ReplyEntry) : CpuKey := ((item.entry.asDict.getD "cluster_name" (.str "")).text,
    item.cputype.text)

def cpuWrites (estate : Estate) (allowed : List Nat) (reply : List ReplyEntry) : List (Nat × CpuKey) :=
  (attributed estate allowed (datacenterEntries reply)).map fun write => (write.2, write.1.cpuKey)

/-- The rows of the endpoints that have one saved are swept. -/
def sweepCpuModels (writes : List (Nat × CpuKey)) (rows : CpuRows) : CpuRows where
  stored := rows.stored ∪ writes.toFinset
  active := writes.toFinset ∪ rows.active.filter fun row => row.1 ∉ writes.map Prod.fst

/-- `sync_datacenter` from the reply on. An exception leaves it without a result. -/
def runDatacenterSync (estate : Estate) (allowed : List Nat) (reply : List ReplyEntry) (rows : CpuRows) : Option CpuRows :=
  if reply.all fun item => item.entry.isDict && item.completes then
    some (sweepCpuModels (cpuWrites estate allowed reply) rows) else none

def CpuExact (endpoint : Nat) (writes : List (Nat × CpuKey)) (rows : CpuRows) : Prop :=
  ∀ key, (endpoint, key) ∈ rows.stored → ((endpoint, key) ∈ rows.active ↔ (endpoint, key) ∈ writes)

def SweptOrIdle (endpoint : Nat) (writes : List (Nat × CpuKey)) (rows : CpuRows) : Prop :=
  endpoint ∈ writes.map Prod.fst ∨ ∀ key, (endpoint, key) ∈ rows.stored → (endpoint, key) ∉ rows.active

theorem cpuExact_iff {endpoint : Nat} {writes : List (Nat × CpuKey)} {rows : CpuRows} :
    CpuExact endpoint writes (sweepCpuModels writes rows) ↔ SweptOrIdle endpoint writes rows := by
  simp only [CpuExact, SweptOrIdle, sweepCpuModels, Finset.mem_union, Finset.mem_filter, List.mem_toFinset]
  by_cases hswept : endpoint ∈ writes.map Prod.fst
  · simp [hswept]
  · have hnone (key : CpuKey) : (endpoint, key) ∉ writes := fun hkey => hswept (List.mem_map.2 ⟨_, hkey, rfl⟩)
    simp [hswept, hnone]

/-! ### Both services -/

def BackendScope.allowed (scope : BackendScope) : List Nat := scope.mapping.keys.map Int.toNat

/-- After a successful run the rows in scope are active exactly as the reply has them, exactly if what is active
before or after is accounted for. -/
theorem staleness_exact_iff (world : FirewallWorld) (ids : Option (List Int)) (scope : BackendScope)
    (hscope : enabledBackendEndpointScope world.view world.table ids = .ok scope) :
    (∀ items result rows, world.reply = .entries items → runFirewallSync world ids = .returned result → result.success = true →
        ((∀ endpoint ∈ world.endpointsInScope ids, FirewallExact endpoint.pk.toNat (world.handled scope.mapping items)
            (syncEntries (world.handled scope.mapping items) rows)) ↔
          ∀ endpoint ∈ world.endpointsInScope ids,
            LastEntryCovers endpoint.pk.toNat (world.handled scope.mapping items) rows)) ∧
      ∀ reply rows after, runDatacenterSync world.estate scope.allowed reply rows = some after →
        ((∀ endpoint ∈ world.endpointsInScope ids,
          CpuExact endpoint.pk.toNat (cpuWrites world.estate scope.allowed reply) after) ↔
          ∀ endpoint ∈ world.endpointsInScope ids,
            SweptOrIdle endpoint.pk.toNat (cpuWrites world.estate scope.allowed reply) rows) := by
  constructor
  · intro items result rows hreply hrun hsuccess
    rcases undisturbed_of_success hrun hsuccess with hnone | ⟨scope', items', hundisturbed⟩
    · simp [hnone]
    · obtain rfl : scope = scope' := Except.ok.inj (hscope.symm.trans hundisturbed.scope_eq)
      obtain rfl : items = items' := SummaryReply.entries.inj (hreply.symm.trans hundisturbed.reply)
      exact forall₂_congr fun _ _ => firewallExact_iff hundisturbed.completes
  · intro reply rows after hrun
    unfold runDatacenterSync at hrun
    split_ifs at hrun
    cases hrun
    exact forall₂_congr fun _ _ => cpuExact_iff

def labWorld (items : List SummaryEntry) : FirewallWorld :=
  ⟨true, listedConfig.view, listedConfig.endpoints, ⟨[⟨1, "east", true⟩], [⟨"lab", 1⟩]⟩, .entries items, fun _ =>
    [], fun _ => ""⟩

def labScope : BackendScope := ⟨some (Dict.ofWrites [("source", "database"), ("proxmox_endpoint_ids", "7")]),
    Dict.ofWrites [(1, 7)], none⟩

def aliasEntry (name : String) : SummaryEntry where
  entry := .obj [("cluster_name", .str "lab"), ("aliases", .arr [.obj [("name", .str name), ("cidr", .str "10.0.0.0/8")]])]
  raises := false
  fault := none
  errorText := ""

theorem staleness_exact_iff_lab :
    enabledBackendEndpointScope listedConfig.view listedConfig.endpoints none = .ok labScope ∧
      FirewallExact 1 [(aliasEntry "lan", 1)] (syncEntries [(aliasEntry "lan", 1)] ⟨{(1, .alias "old")},
        {(1, .alias "old")}⟩) := by
  have hscope : enabledBackendEndpointScope listedConfig.view listedConfig.endpoints none = .ok labScope := rfl
  have hhandled : (labWorld [aliasEntry "lan"]).handled labScope.mapping [aliasEntry "lan"] = [(aliasEntry "lan", 1)] := rfl
  have hexact := (staleness_exact_iff (labWorld [aliasEntry "lan"]) none labScope hscope).1 [aliasEntry "lan"]
    ⟨[⟨true, none⟩], true, none⟩
    ⟨{(1, .alias "old")}, {(1, .alias "old")}⟩ rfl rfl rfl
  rw [hhandled] at hexact
  refine ⟨hscope, hexact.2 (fun endpoint hendpoint => ?_) listedEndpoint (List.mem_singleton.2 rfl)⟩
  obtain rfl : endpoint = listedEndpoint := List.mem_singleton.1 hendpoint
  rintro item hitem key hkey -
  obtain rfl : item = aliasEntry "lan" := List.mem_singleton.1 hitem
  exact hkey

/-- An empty reply leaves rows of both services active, and of two entries for one endpoint the second marks
stale what the first has. -/
theorem unlisted_rows_stay_active :
    (runFirewallSync (labWorld []) none = .returned ⟨[], true, none⟩ ∧
        ¬ FirewallExact 1 [] (syncEntries [] ⟨{(1, .alias "old")}, {(1, .alias "old")}⟩)) ∧
      (runFirewallSync (labWorld [aliasEntry "lan", aliasEntry "wan"]) none = .returned ⟨[⟨true, none⟩, ⟨true, none⟩], true,
        none⟩ ∧
        ¬ FirewallExact 1 [(aliasEntry "lan", 1), (aliasEntry "wan", 1)]
          (syncEntries [(aliasEntry "lan", 1), (aliasEntry "wan", 1)] ⟨∅, ∅⟩)) ∧
      ∃ after, runDatacenterSync (labWorld []).estate [1] [] ⟨{(1, "lab", "custom")}, {(1, "lab", "custom")}⟩ = some after ∧
        ¬ CpuExact 1 [] after := by
  refine ⟨⟨rfl, fun h => ?_⟩, ⟨rfl, fun h => ?_⟩, _, rfl, fun h => ?_⟩
  · exact absurd ((h (.alias "old") rfl (by decide)).1 (by decide)) (by simp [endpointEntries])
  · have hactive := (h (.alias "lan") rfl (by decide +kernel)).2 ⟨aliasEntry "lan", List.mem_cons_self, by decide +kernel⟩
    revert hactive
    decide +kernel
  · exact absurd ((h ("lab", "custom") (by decide)).1 (by decide)) (by simp)

end Proxbox
