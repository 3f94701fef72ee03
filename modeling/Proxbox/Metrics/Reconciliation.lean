import Mathlib.Algebra.Order.Ring.Unbundled.Rat
import Mathlib.Data.Prod.Lex
import Mathlib.Data.String.Basic
import Proxbox.Library.Grouping
import Proxbox.Metrics.Times
/-!
# Reconciled metrics

The rows of InfluxDB and of the Proxmox API are brought to one form and merged by object, metric and time. What the
merge keeps of an identity is decided by the rows of that identity alone, one after the other.
-/

namespace Proxbox

open Python

inductive MetricSource
  | influx
  | pull
  deriving DecidableEq

/-! ### Canonical rows -/

def influxMetricAliases : List (String × String) :=
  [("cpu", "cpu_current"), ("cpus", "cpu_max"), ("mem", "mem_used"), ("maxmem", "mem_total"), ("memused", "mem_used"),
   ("memtotal", "mem_total"), ("diskread", "disk_read"), ("diskwrite", "disk_write"), ("disk", "disk_used"),
   ("maxdisk", "disk_total"), ("netin", "net_in"), ("netout", "net_out"), ("swaptotal", "swap_total"),
   ("swapused", "swap_used")]

def canonicalMetric (name : String) : String := (influxMetricAliases.lookup name).getD name

section Canonical

variable (library : MetricsLibrary)

def taggedObjectId (row : Fields) (objectType : String) : Option String :=
  let vmid := row.get "vmid"
  let host := row.get "host"
  let nodename := row.get "nodename"
  if ["qemu", "lxc"].contains objectType && !vmid.blank then some (objectType ++ "/" ++ vmid.text)
  else if ["node", "nodes"].contains objectType && host.truthy then some ("node/" ++ host.text)
  else if ["storage", "storages"].contains objectType && nodename.truthy && host.truthy then
    some ("storage/" ++ nodename.text ++ "/" ++ host.text)
  else none

def canonicalObjectId (row : Fields) : Except MetricsFailure String :=
  match taggedObjectId row (lower ((row.get "object").or (.str "")).text) with
  | some tagged => .ok tagged
  | none => match (row.get "object_id").or (row.get "id") with
    | .str candidate => if candidate ≠ "" then .ok candidate else .error invalidResponse
    | _ => .error invalidResponse

structure MetricRow where
  objectId : String
  metric : String
  timestamp : Json
  value : Json
  metricType : Json
  source : MetricSource
  alsoSeenIn : List MetricSource
  conflict : Bool

structure CanonicalRow extends MetricRow where
  timestampNs : Int

/-- The metric, the time and the value of a row, under the names of its source. -/
def sourceColumns (source : MetricSource) (row : Fields) : Json × Json × Json :=
  match source with
  | .pull => (row.get "metric", row.get "timestamp", row.get "value")
  | .influx => (row.get "_field", row.get "_time", row.get "_value")

def metricName : Json → Json → Except MetricsFailure String
  | .str name, value => if name = "" || value.isNull then .error invalidResponse else .ok name
  | _, _ => .error invalidResponse

def canonicalRow (source : MetricSource) (row : Fields) : Except MetricsFailure CanonicalRow := do
  let columns := sourceColumns source row
  let name ← metricName columns.1 columns.2.2
  let timestamp ← canonicalTimestamp library columns.2.1
  let objectId ← canonicalObjectId row
  return { objectId, metric := canonicalMetric name, timestamp := timestamp.1, timestampNs := timestamp.2, value := columns.2.2
           metricType := if source = .pull then row.get "metric_type" else .null
           source, alsoSeenIn := [], conflict := false }

end Canonical

/-! ### The merge -/

abbrev RowIdentity := String × String × Int

def CanonicalRow.identity (row : CanonicalRow) : RowIdentity := (row.objectId, row.metric, row.timestampNs)

/-- `sorted(observed - {winner})`. -/
def otherSources (observed : List MetricSource) (winner : MetricSource) : List MetricSource :=
  [.influx, .pull].filter fun source => source ∈ observed ∧ source ≠ winner

def mergeRow (previous row : CanonicalRow) : CanonicalRow :=
  let observed := previous.source :: row.source :: (previous.alsoSeenIn ++ row.alsoSeenIn)
  let winner := if row.source = .influx then row else previous
  { winner with
    conflict := if previous.value.eq row.value then previous.conflict || row.conflict else true
    alsoSeenIn := otherSources observed winner.source }

structure Merge where
  merged : Dict RowIdentity CanonicalRow
  duplicates : Nat
  conflicts : Nat

def Merge.add (merge : Merge) (row : CanonicalRow) : Merge :=
  match merge.merged.get? row.identity with
  | none => { merge with merged := merge.merged.set row.identity row }
  | some previous =>
    { merged := merge.merged.set row.identity (mergeRow previous row)
      duplicates := if previous.value.eq row.value then merge.duplicates + 1 else merge.duplicates
      conflicts := if previous.value.eq row.value then merge.conflicts else merge.conflicts + 1 }

def timestampValue (timestamp : Json) : Rat :=
  match timestamp.number with
  | some (numerator, denominator) => numerator / denominator
  | none => 0

def rowOrder (row : MetricRow) : Rat ×ₗ String ×ₗ String :=
  toLex (timestampValue row.timestamp, toLex (row.objectId, row.metric))

variable (influxRows pullRows : List CanonicalRow)

def mergeRows : Merge :=
  (pullRows ++ influxRows).foldl Merge.add ⟨Dict.empty, 0, 0⟩

/-- The reconciled rows, and how many rows were duplicates and how many conflicts. -/
def reconcileRows : List MetricRow × Nat × Nat :=
  let merge := mergeRows influxRows pullRows
  (sortedBy rowOrder (merge.merged.values.map (·.toMetricRow)), merge.duplicates, merge.conflicts)

/-! ### What is kept of an identity -/

/-- Equality is an equivalence on the values of the rows. -/
structure EquivalentValues (rows : List CanonicalRow) : Prop where
  refl : ∀ a ∈ rows, a.value.eq a.value = true
  symm : ∀ a ∈ rows, ∀ b ∈ rows, a.value.eq b.value = true → b.value.eq a.value = true
  trans : ∀ a ∈ rows, ∀ b ∈ rows, ∀ c ∈ rows, a.value.eq b.value = true → b.value.eq c.value = true → a.value.eq c.value = true

/-- A row that stands for all the rows of its identity. -/
structure Reconciles (rows : List CanonicalRow) (winner : CanonicalRow) : Prop where
  of_input : ∃ row ∈ rows, winner = { row with conflict := winner.conflict, alsoSeenIn := winner.alsoSeenIn }
  influx_wins : (∃ row ∈ rows, row.source = .influx) → winner.source = .influx
  conflict : winner.conflict = true ↔ ¬ ∀ a ∈ rows, ∀ b ∈ rows, a.value.eq b.value = true
  seen_in : ∀ source, source ∈ winner.alsoSeenIn ↔ source ≠ winner.source ∧ ∃ row ∈ rows, row.source = source

/-- A row as the canonicaliser makes it. -/
def Canonical (library : MetricsLibrary) (source : MetricSource) (row : CanonicalRow) : Prop :=
  ∃ raw, canonicalRow library source raw = .ok row

section Identities

variable {library : MetricsLibrary} {source : MetricSource} {row winner : CanonicalRow} {seen : List CanonicalRow}

theorem Canonical.fresh (h : Canonical library source row) : row.source = source ∧ row.conflict = false ∧
    row.alsoSeenIn = [] := by
  obtain ⟨raw, h⟩ := h
  obtain ⟨name, -, h⟩ := bind_eq_ok.1 h
  obtain ⟨timestamp, -, h⟩ := bind_eq_ok.1 h
  obtain ⟨objectId, -, h⟩ := bind_eq_ok.1 h
  obtain rfl := Except.ok.inj h
  exact ⟨rfl, rfl, rfl⟩

theorem reconciles_singleton (hfresh : row.conflict = false ∧ row.alsoSeenIn = []) (hrefl : row.value.eq row.value = true) :
    Reconciles [row] row where
  of_input := ⟨row, List.mem_singleton_self _, rfl⟩
  influx_wins := by simp
  conflict := by simp [hfresh.1, hrefl]
  seen_in source := by simp [hfresh.2, ne_comm]

theorem Reconciles.merge (h : Reconciles seen winner) (hfresh : row.conflict = false ∧ row.alsoSeenIn = [])
    (hequiv : EquivalentValues (seen ++ [row])) : Reconciles (seen ++ [row]) (mergeRow winner row) := by
  obtain ⟨origin, horigin, hwinner⟩ := h.of_input
  have hvalue : winner.value = origin.value := by rw [hwinner]
  have hsource : winner.source = origin.source := by rw [hwinner]
  have hmem : origin ∈ seen ++ [row] := List.mem_append_left _ horigin
  have hrow : row ∈ seen ++ [row] := List.mem_append_right _ (List.mem_singleton_self _)
  refine ⟨?_, fun hinflux => ?_, ?_, fun source => ?_⟩
  · by_cases hnew : row.source = .influx
    · exact ⟨row, hrow, by simp [mergeRow, hnew]⟩
    · refine ⟨origin, hmem, ?_⟩
      rw [mergeRow, if_neg hnew]
      dsimp only
      rw [hwinner]
  · by_cases hnew : row.source = .influx
    · simp [mergeRow, hnew]
    · rw [mergeRow, if_neg hnew]
      refine h.influx_wins ?_
      simpa [or_and_right, exists_or, hnew] using hinflux
  · have hall : (∀ a ∈ seen ++ [row], ∀ b ∈ seen ++ [row], a.value.eq b.value = true) ↔
        (∀ a ∈ seen, ∀ b ∈ seen, a.value.eq b.value = true) ∧ origin.value.eq row.value = true := by
      refine ⟨fun hall => ⟨fun a ha b hb => hall a (by simp [ha]) b (by simp [hb]), hall _ hmem _ hrow⟩, ?_⟩
      rintro ⟨hseen, hsame⟩
      -- Every row has the value of the one that the winner comes from.
      have hone : ∀ a ∈ seen ++ [row], origin.value.eq a.value = true := by
        intro a ha
        rcases List.mem_append.1 ha with ha | ha
        · exact hseen _ horigin a ha
        · rwa [List.mem_singleton.1 ha]
      exact fun a ha b hb => hequiv.trans a ha _ hmem b hb (hequiv.symm _ hmem a ha (hone a ha)) (hone b hb)
    rw [hall, not_and_or, ← h.conflict, mergeRow, hfresh.1, hvalue]
    cases origin.value.eq row.value <;> simp
  · have hobserved : (∃ other ∈ seen, other.source = source) ↔ source = winner.source ∨ source ∈ winner.alsoSeenIn := by
      rw [h.seen_in]
      by_cases hself : source = winner.source
      · exact iff_of_true ⟨origin, horigin, hsource.symm.trans hself.symm⟩ (.inl hself)
      · simp [hself]
    have hboth : (∃ other ∈ seen ++ [row], other.source = source) ↔
        source = winner.source ∨ source = row.source ∨ source ∈ winner.alsoSeenIn := by
      rw [show (∃ other ∈ seen ++ [row], other.source = source) ↔ (∃ other ∈ seen, other.source = source) ∨
        source = row.source by
        simp [or_and_right, exists_or, eq_comm], hobserved]
      tauto
    rw [hboth]
    simp only [mergeRow, otherSources, hfresh.2, List.append_nil, List.mem_filter, List.mem_cons, decide_eq_true_eq]
    cases source <;> simp <;> tauto

theorem reconciles_foldl {rows : List CanonicalRow} (hfresh : ∀ row ∈ rows, row.conflict = false ∧ row.alsoSeenIn = [])
    (hequiv : EquivalentValues rows) (hne : rows ≠ []) :
    ∃ winner, rows.foldl (fun found row =>
      some (match found with | none => row | some previous => mergeRow previous row)) none =
      some winner ∧ Reconciles rows winner := by
  induction rows using List.reverseRecOn with
  | nil => exact absurd rfl hne
  | append_singleton seen row ih =>
    have hrow := hfresh row (by simp)
    rw [List.foldl_append]
    rcases eq_or_ne seen [] with rfl | hseen
    · exact ⟨row, rfl, reconciles_singleton hrow (hequiv.refl row (by simp))⟩
    · obtain ⟨winner, hwinner, hkept⟩ := ih (fun row h => hfresh row (by simp [h]))
        ⟨fun a ha => hequiv.refl a (by simp [ha]), fun a ha b hb => hequiv.symm a (by simp [ha]) b (by simp [hb]),
          fun a ha b hb c hc => hequiv.trans a (by simp [ha]) b (by simp [hb]) c (by simp [hc])⟩ hseen
      rw [hwinner]
      exact ⟨_, rfl, hkept.merge hrow hequiv⟩

end Identities

section Merging

variable (rows : List CanonicalRow) (merge : Merge)

theorem merged_foldl : (rows.foldl Merge.add merge).merged = Dict.accumulate CanonicalRow.identity
    (fun found row => match found with | none => row | some previous => mergeRow previous row) merge.merged rows := by
  induction rows generalizing merge with
  | nil => rfl
  | cons row rows ih =>
    rw [List.foldl_cons, ih]
    unfold Dict.accumulate
    rw [List.foldl_cons]
    congr 1
    unfold Merge.add
    cases merge.merged.get? row.identity <;> rfl

theorem count_foldl : (rows.foldl Merge.add merge).merged.items.length + (rows.foldl Merge.add merge).duplicates +
    (rows.foldl Merge.add merge).conflicts = merge.merged.items.length + merge.duplicates + merge.conflicts + rows.length := by
  induction rows generalizing merge with
  | nil => rfl
  | cons row rows ih =>
    rw [List.foldl_cons, ih, List.length_cons]
    have hlength (value : CanonicalRow) : (merge.merged.set row.identity value).items.length =
        merge.merged.items.length + if row.identity ∈ merge.merged.keys then 0 else 1 := by
      have hkeys := congrArg List.length (Dict.keys_set merge.merged row.identity value)
      unfold Dict.keys at hkeys ⊢
      rw [List.length_map] at hkeys
      rw [hkeys]
      split_ifs <;> simp
    unfold Merge.add
    cases hfound : merge.merged.get? row.identity with
    | none =>
      have hnew : row.identity ∉ merge.merged.keys := fun hmem => by
        obtain ⟨value, hvalue⟩ := (Dict.get?_isSome_iff _ _).2 hmem
        rw [hvalue] at hfound
        cases hfound
      dsimp only
      rw [hlength, if_neg hnew]
      omega
    | some previous =>
      have hold := (Dict.get?_isSome_iff merge.merged row.identity).1 ⟨previous, hfound⟩
      dsimp only
      rw [hlength, if_pos hold]
      split_ifs <;> omega

end Merging

/-- The reconciled rows are one row for each identity, which stands for all the rows of that identity. -/
theorem reconcile_conserves (library : MetricsLibrary) (influxRows pullRows : List CanonicalRow)
    (hinflux : ∀ row ∈ influxRows, Canonical library .influx row) (hpull : ∀ row ∈ pullRows, Canonical library .pull row)
    (hequiv : EquivalentValues (pullRows ++ influxRows)) :
    ∃ merged : Dict RowIdentity CanonicalRow,
      (reconcileRows influxRows pullRows).1.Perm (merged.values.map (·.toMetricRow)) ∧
      (∀ identity, identity ∈ merged.keys ↔ ∃ row ∈ pullRows ++ influxRows, row.identity = identity) ∧
      (∀ identity winner, merged.get? identity = some winner → winner.identity = identity ∧
        Reconciles ((pullRows ++ influxRows).filter (·.identity = identity)) winner) ∧
      (reconcileRows influxRows pullRows).1.length + (reconcileRows influxRows pullRows).2.1 +
        (reconcileRows influxRows pullRows).2.2 = influxRows.length + pullRows.length := by
  have hfresh : ∀ row ∈ pullRows ++ influxRows, row.conflict = false ∧ row.alsoSeenIn = [] := by
    intro row hrow
    rcases List.mem_append.1 hrow with hrow | hrow
    · exact (hpull row hrow).fresh.2
    · exact (hinflux row hrow).fresh.2
  have hget (identity : RowIdentity) (hsome : ∃ row ∈ pullRows ++ influxRows, row.identity = identity) :
      ∃ winner, (mergeRows influxRows pullRows).merged.get? identity = some winner ∧
        Reconciles ((pullRows ++ influxRows).filter (·.identity = identity)) winner := by
    obtain ⟨row, hrow, hidentity⟩ := hsome
    rw [mergeRows, merged_foldl, Dict.get?_accumulate]
    refine reconciles_foldl (fun row h => hfresh row (List.mem_filter.1 h).1) ?_ ?_
    · exact ⟨fun a ha => hequiv.refl a (List.mem_filter.1 ha).1,
        fun a ha b hb => hequiv.symm a (List.mem_filter.1 ha).1 b (List.mem_filter.1 hb).1,
        fun a ha b hb c hc => hequiv.trans a (List.mem_filter.1 ha).1 b (List.mem_filter.1 hb).1 c (List.mem_filter.1 hc).1⟩
    · exact List.ne_nil_of_mem (List.mem_filter.2 ⟨hrow, by simpa using hidentity⟩)
  have hnone (identity : RowIdentity) (hno : ¬ ∃ row ∈ pullRows ++ influxRows, row.identity = identity) :
      (mergeRows influxRows pullRows).merged.get? identity = none := by
    have hempty : (pullRows ++ influxRows).filter (·.identity = identity) = [] :=
      List.filter_eq_nil_iff.2 fun row hrow h => hno ⟨row, hrow, by simpa using h⟩
    rw [mergeRows, merged_foldl, Dict.get?_accumulate, hempty]
    rfl
  have hperm : (reconcileRows influxRows pullRows).1.Perm ((mergeRows influxRows pullRows).merged.values.map (·.toMetricRow)) :=
    (stablySorted_sortedBy rowOrder _).perm
  refine ⟨(mergeRows influxRows pullRows).merged, hperm, fun identity => ?_, fun identity winner hwinner => ?_, ?_⟩
  · rw [← Dict.get?_isSome_iff]
    by_cases hsome : ∃ row ∈ pullRows ++ influxRows, row.identity = identity
    · obtain ⟨winner, hwinner, -⟩ := hget identity hsome
      exact iff_of_true ⟨winner, hwinner⟩ hsome
    · exact iff_of_false (by simp [hnone identity hsome]) hsome
  · by_cases hsome : ∃ row ∈ pullRows ++ influxRows, row.identity = identity
    · obtain ⟨winner', hwinner', hkept⟩ := hget identity hsome
      obtain rfl := Option.some.inj (hwinner.symm.trans hwinner')
      obtain ⟨row, hrow, heq⟩ := hkept.of_input
      have hidentity : row.identity = identity := by simpa using (List.mem_filter.1 hrow).2
      refine ⟨?_, hkept⟩
      rw [heq]
      exact hidentity
    · rw [hnone identity hsome] at hwinner
      cases hwinner
  · have hcount := count_foldl (pullRows ++ influxRows) ⟨Dict.empty, 0, 0⟩
    rw [hperm.length_eq, List.length_map, Dict.values, List.length_map]
    change (mergeRows influxRows pullRows).merged.items.length + (mergeRows influxRows pullRows).duplicates +
      (mergeRows influxRows pullRows).conflicts = _
    rw [mergeRows, hcount, List.length_append]
    simp [Dict.empty]
    omega

def plainLibrary : MetricsLibrary where
  decimal _ := .invalidOperation
  fromisoformat _ := none
  secondsText _ := ""
  timedelta _ := .ok 0
  epoch _ := .ok 0
  now := epochStart * 1000000
  tooDeep _ := false

def loadRow (source : MetricSource) (load : Int) : CanonicalRow where
  objectId := "node/a"
  metric := "load"
  timestamp := .int 5
  timestampNs := 5000000000
  value := .int load
  metricType := .null
  source := source
  alsoSeenIn := []
  conflict := false

theorem canonical_loadRow (source : MetricSource) (load : Int) : Canonical plainLibrary source (loadRow source load) := by
  cases source with
  | influx => exact ⟨[("_field", .str "load"), ("_time", .int 5), ("_value", .int load), ("id", .str "node/a")], rfl⟩
  | pull => exact ⟨[("metric", .str "load"), ("timestamp", .int 5), ("value", .int load), ("id", .str "node/a")], rfl⟩

theorem reconcile_conserves_load : ∃ merged : Dict RowIdentity CanonicalRow,
    (∀ identity, identity ∈ merged.keys ↔ ∃ row ∈ [loadRow .pull 1, loadRow .influx 2], row.identity = identity) ∧
      (reconcileRows [loadRow .influx 2] [loadRow .pull 1]).1.length + (reconcileRows [loadRow .influx 2] [loadRow
        .pull 1]).2.1 +
        (reconcileRows [loadRow .influx 2] [loadRow .pull 1]).2.2 = 2 := by
  obtain ⟨merged, -, hkeys, -, hcount⟩ := reconcile_conserves plainLibrary [loadRow .influx 2] [loadRow .pull 1]
    (by simp [canonical_loadRow]) (by simp [canonical_loadRow])
    ⟨by simp [loadRow, Json.eq, numberEq, Json.number], by simp [loadRow, Json.eq, numberEq, Json.number],
      by simp [loadRow, Json.eq, numberEq, Json.number]⟩
  exact ⟨merged, hkeys, hcount⟩

end Proxbox
