import Proxbox.Metrics.Reconciliation
/-!
# Metrics queries

A query asks one source or both. The error of a source is kept beside the rows of the other one if it is the
module's own; every other exception ends the query. So a query is contained exactly if no reply and no time of
the query makes the code raise such an exception, and which ones do is stated here by their fields.
-/

namespace Proxbox

open Python

inductive SourceMode
  | influx
  | pull
  | reconciled
  deriving DecidableEq

structure MetricsQuery where
  enabled : Bool
  endpointEnabled : Bool
  /-- An enabled backend with an address is configured. -/
  backendConfigured : Bool
  sourceMode : SourceMode
  /-- What loading the query token raises. -/
  tokenError : Option ProxyError
  measurement : String
  field : String
  node : Option String
  vmid : Option Int
  tagKey : String
  aggregationEvery : String
  aggregationFunction : String
  timeStart : String
  timeStop : Option String
  limit : Nat

/-- What comes of a request: the module's own error, or a status and a JSON body. -/
inductive Exchange
  | failed (error : ProxyError)
  | replied (status : Nat) (body : Json)

/-! ### Reading a reply -/

/-- `value in names` for a set of names: a list or an object has no hash. -/
def inNames (names : List String) : Json → Except MetricsFailure Bool
  | .str name => .ok (names.contains name)
  | .arr _ => .error (.escape .unhashable)
  | .obj _ => .error (.escape .unhashable)
  | _ => .ok false

def safeErrorCodes : List String :=
  ["invalid_query", "invalid_configuration", "backend_unavailable", "influx_upstream_error", "influx_invalid_response",
   "influx_timeout", "influx_tls_error", "influx_connection_error", "influx_empty_response", "influx_response_too_large",
   "pull_invalid_response", "pull_response_too_large", "pull_unavailable"]

def safeErrorCode : Json → Json
  | .obj fields => match Fields.get fields "detail" with
    | .obj detail => Fields.get detail "reason"
    | _ => Fields.get fields "error_code"
  | _ => .null

/-- `_raise_backend_error`: what is raised for a reply that is not a success. -/
def backendError (status : Nat) (body : Json) : MetricsFailure :=
  if status = 422 then .proxy ⟨"The metrics query was rejected by proxbox-api.", 400⟩
  else match inNames safeErrorCodes (safeErrorCode body) with
    | .error failure => failure
    | .ok true => .proxy ⟨"The metrics backend rejected the request (" ++ (safeErrorCode body).text ++ ").", 502⟩
    | .ok false => .proxy ⟨"The metrics backend rejected the request.", 502⟩

def isText : Json → Bool
  | .str _ => true
  | _ => false

def responseRows (body : Fields) : Except MetricsFailure (List Fields) :=
  match body.get "columns", body.get "rows" with
  | .arr columns, .arr rows =>
    if columns.all isText && rows.all Json.isDict then .ok (rows.map Json.asDict) else .error invalidResponse
  | _, _ => .error invalidResponse

def responseFormats : List String := ["annotated_csv", "json", "proxmox_export"]

section Reading

variable (library : MetricsLibrary)

def responseWindow (body : Fields) : Except MetricsFailure (String × Option String) :=
  match body.get "query_window" with
  | .obj window =>
    if !(window.map Prod.fst).contains "start" || !(window.map Prod.fst).contains "stop" then .error invalidResponse
    else match Fields.get window "start", Fields.get window "stop" with
      | .str start, stop =>
        if 64 < start.length || !validMetricsTime library start then .error invalidResponse
        else match stop with
          | .null => .ok (start, none)
          | .str stop =>
            if 64 < stop.length || !validMetricsTime library stop then .error invalidResponse
            else .ok (start, some stop)
          | _ => .error invalidResponse
      | _, _ => .error invalidResponse
  | _ => .error invalidResponse

def responseTimestamp (body : Fields) : Except MetricsFailure String :=
  match body.get "captured_at" with
  | .str capturedAt =>
    if capturedAt ≠ "" && (library.fromisoformat (zuluOffset capturedAt)).any (·.offset.isSome) then .ok capturedAt
    else .error invalidResponse
  | _ => .error invalidResponse

def hasCounts (body : Fields) : Option Bool :=
  match body.get "truncated", body.get "row_count" with
  | .bool truncated, .int rowCount => if 0 ≤ rowCount then some truncated else none
  | _, _ => none

structure SourceReply where
  rows : List Fields
  truncated : Bool
  capturedAt : String
  queryWindow : String × Option String

def normalizeResponse : Json → Except MetricsFailure SourceReply
  | .obj body => do
    let rows ← responseRows body
    match hasCounts body with
    | none => .error invalidResponse
    | some truncated =>
      if ← inNames responseFormats (Fields.get body "response_format") then
        let capturedAt ← responseTimestamp library body
        let queryWindow ← responseWindow library body
        return { rows, truncated, capturedAt, queryWindow }
      else .error invalidResponse
  | _ => .error invalidResponse

def isFailure (status : Nat) : Prop := 400 ≤ status ∧ status < 600

instance (status : Nat) : Decidable (isFailure status) := inferInstanceAs (Decidable (_ ∧ _))

/-- `_query_backend`. -/
def readExchange : Exchange → Except MetricsFailure SourceReply
  | .failed error => .error (.proxy error)
  | .replied status body =>
    if library.tooDeep body then .error (.escape .recursionError)
    else if isFailure status then .error (backendError status body) else normalizeResponse library body

/-! ### The query -/

variable (query : MetricsQuery)

def requestedSources : SourceMode → List MetricSource
  | .reconciled => [.influx, .pull]
  | .influx => [.influx]
  | .pull => [.pull]

/-- `_validate_mapping_enabled`, `_backend_context` and `_validate_source_query`. -/
def validateQuery : Except MetricsFailure Unit := do
  if !query.enabled then raiseProxy "This metrics mapping is disabled." 502
  if !query.endpointEnabled then raiseProxy "The Proxmox endpoint for this mapping is disabled." 502
  if !query.backendConfigured then raiseProxy "No enabled proxbox-api backend endpoint is configured." 502
  if query.sourceMode ≠ .pull && strip query.measurement = "" then
    raiseProxy "A measurement is required when the source includes InfluxDB." 400
  if query.sourceMode ≠ .influx then
    if query.aggregationEvery ≠ "" || query.aggregationFunction ≠ "" then
      raiseProxy "Aggregation is unavailable when the source includes Proxmox API pull." 400
    if query.tagKey ≠ "" then raiseProxy "Tag filters are unavailable when the source includes Proxmox API pull." 400
    if query.node.isSome && query.vmid.isSome then
      raiseProxy "A node and VM ID cannot be combined when the source includes Proxmox API pull." 400

def MetricsQuery.start (query : MetricsQuery) : String := if query.timeStart = "" then "-1h" else query.timeStart

def prepareSource : MetricSource → Except MetricsFailure Unit
  | .influx => match query.tokenError with
    | some error => .error (.proxy error)
    | none =>
      if (query.aggregationEvery ≠ "") ≠ (query.aggregationFunction ≠ "") then
        raiseProxy "Aggregation interval and function must be supplied together." 502
      else .ok ()
  | .pull => (timeToEpoch library query.start).map fun _ => ()

def rowMatches (source : MetricSource) (row : CanonicalRow) : Bool :=
  let metric := canonicalMetric query.field
  let nodeId := if source = .influx && query.vmid.isSome then none else query.node.map ("node/" ++ ·)
  (metric == "" || row.metric == metric) && nodeId.all (row.objectId == ·) &&
    query.vmid.all fun vmid => row.objectId == "qemu/" ++ toString vmid || row.objectId == "lxc/" ++ toString vmid

def valueOrder (row : CanonicalRow) : Rat ×ₗ String ×ₗ String ×ₗ String :=
  toLex (timestampValue row.timestamp, toLex (row.objectId, toLex (row.metric, row.value.text)))

structure SourceResult where
  rows : List CanonicalRow
  truncated : Bool
  capturedAt : String
  queryWindow : String × Option String

/-- One source of the query: its request, and its rows in the canonical form. -/
def querySource (exchange : MetricSource → Exchange) (source : MetricSource) : Except MetricsFailure SourceResult := do
  prepareSource library query source
  let reply ← readExchange library (exchange source)
  let rows ← reply.rows.mapM (canonicalRow library source)
  return { reply with rows := sortedBy valueOrder (rows.filter (rowMatches query source)) }

structure MetricsResponse where
  rows : List MetricRow
  truncated : Bool
  queryWindow : String × Option String
  capturedAt : String
  failures : List (MetricSource × ProxyError)
  deduplicatedCount : Nat
  conflictCount : Nat

abbrev Outcomes := List (MetricSource × SourceResult) × List (MetricSource × ProxyError)

/-- The loop over the sources: the module's own errors are kept, any other exception ends it. -/
def queryAll (exchange : MetricSource → Exchange) : List MetricSource → Except MetricsFailure Outcomes
  | [] => .ok ([], [])
  | source :: rest =>
    match querySource library query exchange source with
    | .error (.escape exception) => .error (.escape exception)
    | .error (.proxy error) => (queryAll exchange rest).map fun outcomes => (outcomes.1, (source, error) :: outcomes.2)
    | .ok result => (queryAll exchange rest).map fun outcomes => ((source, result) :: outcomes.1, outcomes.2)

def stopEpoch : Except MetricsFailure (Option Int) :=
  match query.timeStop with
  | none => .ok none
  | some stop =>
    if stop = "" || stop = "now()" then .ok none
    else (timeToEpoch library stop).map some

def rowsOf (results : List (MetricSource × SourceResult)) (source : MetricSource) : List CanonicalRow :=
  (results.lookup source).elim [] (·.rows)

/-- `_combined_response` of at least one result. -/
def combinedResponse (first : MetricSource × SourceResult) (others : List (MetricSource × SourceResult))
    (failures : List (MetricSource × ProxyError)) (stop : Option Int) : MetricsResponse :=
  let results := first :: others
  let pullRows := (rowsOf results .pull).filter fun row => stop.all fun (stop : Int) => timestampValue row.timestamp ≤ stop
  let reconciled := reconcileRows (rowsOf results .influx) pullRows
  { rows := reconciled.1.take query.limit
    truncated := decide (query.limit < reconciled.1.length) || results.any (·.2.truncated)
    queryWindow := first.2.queryWindow
    capturedAt := others.foldl (fun latest result => max latest result.2.capturedAt) first.2.capturedAt
    failures := failures
    deduplicatedCount := reconciled.2.1
    conflictCount := reconciled.2.2 }

def queryMetrics (exchange : MetricSource → Exchange) : Except MetricsFailure MetricsResponse := do
  validateQuery query
  match ← queryAll library query exchange (requestedSources query.sourceMode) with
  | ([], failures) => .error ((failures.head?.map fun failure => MetricsFailure.proxy failure.2).getD invalidResponse)
  | (first :: others, failures) => return combinedResponse query first others failures (← stopEpoch library query)

end Reading

/-! ### Replies that escape -/

def hasNoHash : Json → Bool
  | .arr _ => true
  | .obj _ => true
  | _ => false

/-- A reply that is nested too deeply, names a structure for its error or its format, or has a wild timestamp in
front of every row that is refused. -/
inductive Escaping (library : MetricsLibrary) (source : MetricSource) : Exchange → Prop
  | deep {status : Nat} {body : Json} : library.tooDeep body = true → Escaping library source (.replied status body)
  | reason {status : Nat} {body : Json} : library.tooDeep body = false → isFailure status → status ≠ 422 →
      hasNoHash (safeErrorCode body) = true → Escaping library source (.replied status body)
  | format {status : Nat} {body : Fields} {rows : List Fields} : library.tooDeep (.obj body) = false →
      ¬isFailure status → responseRows body = .ok rows → (hasCounts body).isSome = true →
      hasNoHash (Fields.get body "response_format") = true → Escaping library source (.replied status (.obj body))
  | timestamp {status : Nat} {body : Json} {reply : SourceReply} {before after : List Fields} {row : Fields}
      {name : String} :
      library.tooDeep body = false → ¬isFailure status → normalizeResponse library body = .ok reply →
      reply.rows = before ++ row :: after →
      (∀ other ∈ before, ∃ canonical, canonicalRow library source other = .ok canonical) →
      metricName (sourceColumns source row).1 (sourceColumns source row).2.2 = .ok name →
      WildTimestamp library (sourceColumns source row).2.1 → Escaping library source (.replied status body)

/-- The stop time of the query is read and raises. -/
def WildStop (library : MetricsLibrary) (query : MetricsQuery) : Prop :=
  ∃ stop, query.timeStop = some stop ∧ stop ≠ "" ∧ stop ≠ "now()" ∧ WildTime library stop

section Containment

variable {α β : Type} {library : MetricsLibrary} {source : MetricSource}

variable {x : Except MetricsFailure α} {f : α → Except MetricsFailure β}

theorem escapes_mapM {items : List α} :
    Escapes (items.mapM f) ↔
      ∃ before item after, items = before ++ item :: after ∧ (∀ other ∈ before, ∃ b, f other = .ok b) ∧ Escapes (f item) := by
  induction items with
  | nil => simp [Escapes, pure, Except.pure]
  | cons item items ih =>
    rw [List.mapM_cons, escapes_bind]
    constructor
    · rintro (h | ⟨b, hb, h⟩)
      · exact ⟨[], item, items, rfl, by simp, h⟩
      · rcases escapes_bind.1 h with h | ⟨_, -, h⟩
        · obtain ⟨before, other, after, rfl, hbefore, hother⟩ := ih.1 h
          exact ⟨item :: before, other, after, rfl, List.forall_mem_cons.2 ⟨⟨b, hb⟩, hbefore⟩, hother⟩
        · exact absurd h (not_escapes_ok _)
    · rintro ⟨before, other, after, hsplit, hbefore, hother⟩
      cases before with
      | nil =>
        obtain ⟨rfl, -⟩ := List.cons.inj hsplit
        exact .inl hother
      | cons first before =>
        obtain ⟨rfl, rfl⟩ := List.cons.inj hsplit
        obtain ⟨⟨b, hb⟩, hbefore⟩ := List.forall_mem_cons.1 hbefore
        exact .inr ⟨b, hb, escapes_bind.2 (.inl (ih.2 ⟨before, other, after, rfl, hbefore, hother⟩))⟩

theorem escapes_inNames {names : List String} {value : Json} : Escapes (inNames names value) ↔ hasNoHash value = true := by
  cases value <;> simp [inNames, hasNoHash, Escapes]

theorem not_escapes_canonicalObjectId (row : Fields) : ¬ Escapes (canonicalObjectId row) := by
  unfold canonicalObjectId
  split
  · exact not_escapes_ok _
  · split
    · split_ifs
      · exact not_escapes_ok _
      · exact not_escapes_invalid
    · exact not_escapes_invalid

theorem not_escapes_metricName (metric value : Json) : ¬ Escapes (metricName metric value) := by
  unfold metricName
  split
  · split_ifs
    · exact not_escapes_invalid
    · exact not_escapes_ok _
  · exact not_escapes_invalid

theorem escapes_canonicalRow {row : Fields} : Escapes (canonicalRow library source row) ↔
    (∃ name, metricName (sourceColumns source row).1 (sourceColumns source row).2.2 = .ok name) ∧
      WildTimestamp library (sourceColumns source row).2.1 := by
  unfold canonicalRow
  simp only [escapes_bind, not_escapes_metricName, not_escapes_canonicalObjectId, escapes_canonicalTimestamp, false_or]
  constructor
  · rintro ⟨name, hname, hwild | ⟨_, -, _, -, h⟩⟩
    · exact ⟨⟨name, hname⟩, hwild⟩
    · exact absurd h (not_escapes_ok _)
  · rintro ⟨⟨name, hname⟩, hwild⟩
    exact ⟨name, hname, .inl hwild⟩

theorem not_escapes_window (body : Fields) : ¬ Escapes (responseWindow library body) := by
  unfold responseWindow
  repeat' split
  all_goals first | exact not_escapes_invalid | exact not_escapes_ok _

theorem not_escapes_responseTimestamp (body : Fields) : ¬ Escapes (responseTimestamp library body) := by
  unfold responseTimestamp
  repeat' split
  all_goals first | exact not_escapes_invalid | exact not_escapes_ok _

theorem not_escapes_responseRows (body : Fields) : ¬ Escapes (responseRows body) := by
  unfold responseRows
  repeat' split
  all_goals first | exact not_escapes_invalid | exact not_escapes_ok _

theorem escapes_normalizeResponse {body : Json} : Escapes (normalizeResponse library body) ↔
    ∃ fields rows, body = .obj fields ∧ responseRows fields = .ok rows ∧ (hasCounts fields).isSome = true ∧
      hasNoHash (Fields.get fields "response_format") = true := by
  cases body with
  | obj fields =>
    unfold normalizeResponse
    rw [escapes_bind, or_iff_right (not_escapes_responseRows fields)]
    have hformat (rows : List Fields) : Escapes (match hasCounts fields with
        | none => .error invalidResponse
        | some truncated => do
          if ← inNames responseFormats (Fields.get fields "response_format") then
            let capturedAt ← responseTimestamp library fields
            let queryWindow ← responseWindow library fields
            return ({ rows, truncated, capturedAt, queryWindow } : SourceReply)
          else .error invalidResponse) ↔
        (hasCounts fields).isSome = true ∧ hasNoHash (Fields.get fields "response_format") = true := by
      cases hasCounts fields with
      | none => simp [not_escapes_invalid]
      | some truncated =>
        dsimp only
        rw [escapes_bind, escapes_inNames, Option.isSome_some, and_iff_right rfl, or_iff_left]
        rintro ⟨found, -, h⟩
        split_ifs at h
        · simp only [escapes_bind, not_escapes_responseTimestamp, not_escapes_window, false_or] at h
          obtain ⟨_, -, _, -, h⟩ := h
          exact not_escapes_ok _ h
        · exact not_escapes_invalid h
    constructor
    · rintro ⟨rows, hrows, h⟩
      obtain ⟨hcounts, hhash⟩ := (hformat rows).1 h
      exact ⟨fields, rows, rfl, hrows, hcounts, hhash⟩
    · rintro ⟨_, rows, heq, hrows, hcounts, hhash⟩
      cases heq
      exact ⟨rows, hrows, (hformat rows).2 ⟨hcounts, hhash⟩⟩
  | _ => exact iff_of_false not_escapes_invalid (by simp)

theorem escapes_backendError {status : Nat} {body : Json} :
    Escapes (.error (backendError status body) : Except MetricsFailure α) ↔
    status ≠ 422 ∧ hasNoHash (safeErrorCode body) = true := by
  unfold backendError
  split_ifs with hstatus
  · exact iff_of_false (not_escapes_proxy _) fun h => h.1 hstatus
  · rw [← @escapes_inNames safeErrorCodes, and_iff_right hstatus]
    rcases inNames safeErrorCodes (safeErrorCode body) with failure | (_ | _) <;> simp [Escapes]

variable (query : MetricsQuery) (exchange : MetricSource → Exchange)

theorem escapes_map {f : α → β} : Escapes (x.map f) ↔ Escapes x := by
  cases x <;> simp [Escapes, Except.map]

theorem escapes_prepareSource : Escapes (prepareSource library query source) ↔
    source = .pull ∧ WildTime library query.start := by
  cases source with
  | influx =>
    refine iff_of_false ?_ (by simp)
    simp only [prepareSource, raiseProxy]
    repeat' split
    all_goals first | exact not_escapes_proxy _ | exact not_escapes_ok _
  | pull => rw [prepareSource, escapes_map, escapes_timeToEpoch, and_iff_right rfl]

theorem escapes_failure {status : Nat} {body : Json} (hdeep : library.tooDeep body = false) (hstatus : isFailure status) :
    Escapes (.error (backendError status body) : Except MetricsFailure α) ↔
      Escaping library source (.replied status body) := by
  rw [escapes_backendError]
  constructor
  · rintro ⟨hother, hhash⟩
    exact .reason hdeep hstatus hother hhash
  · intro h
    cases h with
    | deep h => rw [h] at hdeep; cases hdeep
    | reason _ _ hother hhash => exact ⟨hother, hhash⟩
    | format _ h => exact absurd hstatus h
    | timestamp _ h => exact absurd hstatus h

theorem escapes_success {status : Nat} {body : Json} (hdeep : library.tooDeep body = false)
    (hstatus : ¬ isFailure status) :
    (Escapes (normalizeResponse library body) ∨ ∃ reply, normalizeResponse library body = .ok reply ∧
      Escapes (reply.rows.mapM (canonicalRow library source))) ↔ Escaping library source (.replied status body) := by
  simp only [escapes_normalizeResponse, escapes_mapM, escapes_canonicalRow]
  constructor
  · rintro (⟨fields, rows, rfl, hrows, hcounts, hhash⟩ |
      ⟨reply, hreply, before, row, after, hsplit, hbefore, ⟨name, hname⟩, hwild⟩)
    · exact .format hdeep hstatus hrows hcounts hhash
    · exact .timestamp hdeep hstatus hreply hsplit hbefore hname hwild
  · intro h
    cases h with
    | deep h => rw [h] at hdeep; cases hdeep
    | reason _ h => exact absurd h hstatus
    | format _ _ hrows hcounts hhash => exact .inl ⟨_, _, rfl, hrows, hcounts, hhash⟩
    | timestamp _ _ hreply hsplit hbefore hname hwild =>
      exact .inr ⟨_, hreply, _, _, _, hsplit, hbefore, ⟨_, hname⟩, hwild⟩

theorem escapes_exchange (received : Exchange) :
    (Escapes (readExchange library received) ∨ ∃ reply, readExchange library received = .ok reply ∧
      Escapes (reply.rows.mapM (canonicalRow library source))) ↔ Escaping library source received := by
  cases received with
  | failed error =>
    refine iff_of_false ?_ (by rintro ⟨⟩)
    rintro (h | ⟨_, h, -⟩)
    · exact not_escapes_proxy _ h
    · cases h
  | replied status body =>
    unfold readExchange
    cases hdeep : library.tooDeep body with
    | true =>
      simp only [hdeep, if_true]
      exact iff_of_true (.inl ⟨_, rfl⟩) (.deep hdeep)
    | false =>
      simp only [hdeep, Bool.false_eq_true, if_false]
      by_cases hstatus : isFailure status
      · simp only [hstatus, if_true]
        refine (or_iff_left ?_).trans (escapes_failure hdeep hstatus)
        rintro ⟨_, h, -⟩
        cases h
      · simp only [hstatus, if_false]
        exact escapes_success hdeep hstatus

/-- A source that is asked escapes exactly if the start time of its request or its reply does. -/
theorem escapes_querySource : Escapes (querySource library query exchange source) ↔
    (source = .pull ∧ WildTime library query.start) ∨
      prepareSource library query source = .ok () ∧ Escaping library source (exchange source) := by
  rw [← escapes_exchange]
  unfold querySource
  simp only [escapes_bind, escapes_prepareSource]
  refine or_congr_right ⟨?_, ?_⟩
  · rintro ⟨⟨⟩, hok, h | ⟨reply, hread, h | ⟨_, -, h⟩⟩⟩
    · exact ⟨hok, .inl h⟩
    · exact ⟨hok, .inr ⟨reply, hread, h⟩⟩
    · exact absurd h (not_escapes_ok _)
  · rintro ⟨hok, h | ⟨reply, hread, h⟩⟩
    · exact ⟨(), hok, .inl h⟩
    · exact ⟨(), hok, .inr ⟨reply, hread, .inl h⟩⟩

theorem escapes_queryAll {sources : List MetricSource} : Escapes (queryAll library query exchange sources) ↔
    ∃ source ∈ sources, Escapes (querySource library query exchange source) := by
  induction sources with
  | nil => simp [queryAll, not_escapes_ok]
  | cons source rest ih =>
    rw [queryAll]
    simp only [List.mem_cons, exists_eq_or_imp]
    rcases hfirst : querySource library query exchange source with (error | exception) | result
    · rw [escapes_map, ih, or_iff_right (not_escapes_proxy error)]
    · exact iff_of_true ⟨_, rfl⟩ (.inl ⟨_, rfl⟩)
    · rw [escapes_map, ih, or_iff_right (not_escapes_ok result)]

theorem not_escapes_validateQuery : ¬ Escapes (validateQuery query) := by
  unfold validateQuery raiseProxy
  rintro ⟨exception, h⟩
  revert h
  repeat' split
  all_goals simp [bind, Except.bind, pure, Except.pure]

theorem escapes_stopEpoch : Escapes (stopEpoch library query) ↔ WildStop library query := by
  unfold stopEpoch WildStop
  cases query.timeStop with
  | none => simp [not_escapes_ok]
  | some stop =>
    by_cases hstop : stop = "" ∨ stop = "now()"
    · rcases hstop with rfl | rfl <;> simp [not_escapes_ok]
    · obtain ⟨hempty, hnow⟩ := not_or.1 hstop
      simp [hempty, hnow, escapes_map, escapes_timeToEpoch]

theorem queryAll_of_not_escapes {sources : List MetricSource} (h : ¬Escapes (queryAll library query exchange sources)) :
    ∃ outcomes, queryAll library query exchange sources = .ok outcomes ∧
      (outcomes.1 = [] ↔ ∀ source ∈ sources, ∀ result, querySource library query exchange source ≠ .ok result) := by
  induction sources with
  | nil => exact ⟨([], []), rfl, by simp⟩
  | cons source rest ih =>
    rw [escapes_queryAll] at h
    obtain ⟨outcomes, hrest, hempty⟩ := ih fun hrest => h (by
      obtain ⟨other, hmem, hother⟩ := (escapes_queryAll query exchange).1 hrest
      exact ⟨other, List.mem_cons_of_mem source hmem, hother⟩)
    rw [queryAll]
    rcases hfirst : querySource library query exchange source with (error | exception) | result
    · refine ⟨(outcomes.1, (source, error) :: outcomes.2), by simp only [hrest, Except.map], ?_⟩
      simp [hempty, hfirst]
    · exact absurd ⟨source, List.mem_cons_self, exception, hfirst⟩ h
    · exact ⟨((source, result) :: outcomes.1, outcomes.2), by simp only [hrest, Except.map], by simp [hfirst]⟩

theorem escapes_queryMetrics : Escapes (queryMetrics library query exchange) ↔ validateQuery query = .ok () ∧
    ((∃ source ∈ requestedSources query.sourceMode, Escapes (querySource library query exchange source)) ∨
      (∃ source ∈ requestedSources query.sourceMode, ∃ result, querySource library query exchange source = .ok result) ∧
        WildStop library query) := by
  unfold queryMetrics
  rw [escapes_bind, or_iff_right (not_escapes_validateQuery query)]
  have hvalue {P : Unit → Prop} : (∃ a, validateQuery query = .ok a ∧ P a) ↔ validateQuery query = .ok () ∧ P () :=
    ⟨fun ⟨⟨⟩, hvalid, h⟩ => ⟨hvalid, h⟩, fun ⟨hvalid, h⟩ => ⟨(), hvalid, h⟩⟩
  rw [hvalue, ← escapes_queryAll, escapes_bind]
  refine and_congr_right fun _ => ?_
  by_cases hall : Escapes (queryAll library query exchange (requestedSources query.sourceMode))
  · exact iff_of_true (.inl hall) (.inl hall)
  obtain ⟨⟨results, failures⟩, houtcomes, hempty⟩ := queryAll_of_not_escapes query exchange hall
  rw [or_iff_right hall, or_iff_right hall, houtcomes]
  simp only [Except.ok.injEq, exists_eq_left']
  cases results with
  | nil =>
    refine iff_of_false ?_ ?_
    · cases failures with
      | nil => exact not_escapes_invalid
      | cons failure _ => exact not_escapes_proxy _
    · rintro ⟨⟨source, hmem, result, hresult⟩, -⟩
      exact hempty.1 rfl source hmem result hresult
  | cons first others =>
    have hsome : ∃ source ∈ requestedSources query.sourceMode, ∃ result,
        querySource library query exchange source = .ok result := by
      by_contra hnone
      refine List.cons_ne_nil first others (hempty.2 fun source hmem result hresult => hnone ?_)
      exact ⟨source, hmem, result, hresult⟩
    rw [and_iff_right hsome, escapes_bind, ← escapes_stopEpoch, or_iff_left]
    rintro ⟨_, -, h⟩
    exact not_escapes_pure _ h

end Containment

def MetricSource.mode : MetricSource → SourceMode
  | .influx => .influx
  | .pull => .pull

def MetricSource.other : MetricSource → MetricSource
  | .influx => .pull
  | .pull => .influx

/-- The query returns or raises the module's own error, and a source without rows leaves those of the other as
they are. -/
structure Contained (library : MetricsLibrary) (query : MetricsQuery) (exchange : MetricSource → Exchange) : Prop where
  no_escape : ¬ Escapes (queryMetrics library query exchange)
  keeps_rows : query.sourceMode = .reconciled → validateQuery query = .ok () → ∀ (source : MetricSource) alone,
    queryMetrics library { query with sourceMode := source.mode } exchange = .ok alone →
    (∀ result, querySource library query exchange source.other ≠ .ok result) →
    ∃ response, queryMetrics library query exchange = .ok response ∧ response.rows = alone.rows

section Contained

variable {library : MetricsLibrary} {query : MetricsQuery} {exchange : MetricSource → Exchange} {source : MetricSource}

theorem exists_of_alone {alone : MetricsResponse} (h :
    queryMetrics library { query with sourceMode := source.mode } exchange = .ok alone) :
    ∃ result stop, querySource library query exchange source = .ok result ∧ stopEpoch library query = .ok stop ∧
      alone = combinedResponse query (source, result) [] [] stop := by
  obtain ⟨⟨⟩, -, h⟩ := bind_eq_ok.1 h
  obtain ⟨outcomes, hall, h⟩ := bind_eq_ok.1 h
  have hrequested : requestedSources source.mode = [source] := by cases source <;> rfl
  dsimp only at hall
  rw [hrequested, queryAll] at hall
  rcases hresult : querySource library query exchange source with (error | exception) | result
  · rw [show querySource library { query with sourceMode := source.mode } exchange source = _ from hresult] at hall
    cases hall
    cases h
  · rw [show querySource library { query with sourceMode := source.mode } exchange source = _ from hresult] at hall
    cases hall
  · rw [show querySource library { query with sourceMode := source.mode } exchange source = _ from hresult] at hall
    cases hall
    obtain ⟨stop, hstop, h⟩ := bind_eq_ok.1 h
    cases h
    exact ⟨result, stop, rfl, hstop, rfl⟩

theorem queryMetrics_of_one {result : SourceResult} {error : ProxyError} {stop : Option Int}
    (hmode : query.sourceMode = .reconciled)
    (hvalid : validateQuery query = .ok ()) (hresult : querySource library query exchange source = .ok result)
    (herror : querySource library query exchange source.other = .error (.proxy error))
      (hstop : stopEpoch library query = .ok stop) :
    queryMetrics library query exchange = .ok (combinedResponse query (source, result) [] [(source.other, error)] stop) := by
  have hall : queryAll library query exchange [.influx, .pull] = .ok ([(source, result)], [(source.other, error)]) := by
    cases source <;> simp only [MetricSource.other] at herror <;> simp [queryAll, hresult, herror, Except.map,
      MetricSource.other]
  unfold queryMetrics
  rw [hvalid, hmode]
  simp only [requestedSources, hall, hstop, bind, Except.bind]
  rfl

end Contained

/-- A query is contained exactly if neither its times nor a reply that it asks for escape. -/
theorem query_contained_iff (library : MetricsLibrary) (query : MetricsQuery) (exchange : MetricSource → Exchange) :
    Contained library query exchange ↔ (validateQuery query = .ok () →
      (∀ source ∈ requestedSources query.sourceMode, (source = .pull → ¬WildTime library query.start) ∧
        (prepareSource library query source = .ok () → ¬Escaping library source (exchange source))) ∧
      ((∃ source ∈ requestedSources query.sourceMode, ∃ result,
        querySource library query exchange source = .ok result) → ¬WildStop library query)) := by
  have hsource (source : MetricSource) : ¬Escapes (querySource library query exchange source) ↔
      (source = .pull → ¬WildTime library query.start) ∧
        (prepareSource library query source = .ok () → ¬Escaping library source (exchange source)) := by
    rw [escapes_querySource, not_or, not_and, not_and]
  have hescapes : ¬Escapes (queryMetrics library query exchange) ↔ (validateQuery query = .ok () →
      (∀ source ∈ requestedSources query.sourceMode, ¬Escapes (querySource library query exchange source)) ∧
      ((∃ source ∈ requestedSources query.sourceMode, ∃ result,
        querySource library query exchange source = .ok result) → ¬WildStop library query)) := by
    rw [escapes_queryMetrics, not_and, not_or, not_and, not_exists]
    simp only [not_and]
  simp only [hsource] at hescapes
  rw [← hescapes]
  refine ⟨fun h => h.no_escape, fun hno => ⟨hno, fun hmode hvalid source alone halone hother => ?_⟩⟩
  obtain ⟨result, stop, hresult, hstop, rfl⟩ := exists_of_alone halone
  rcases herror : querySource library query exchange source.other with (error | exception) | found
  · exact ⟨_, queryMetrics_of_one hmode hvalid hresult herror hstop, rfl⟩
  · refine absurd (escapes_queryMetrics query exchange |>.2 ⟨hvalid, .inl ⟨source.other, ?_, exception, herror⟩⟩) hno
    rw [hmode]
    cases source <;> simp [requestedSources, MetricSource.other]
  · exact absurd herror (hother found)

def bothSources : MetricsQuery where
  enabled := true
  endpointEnabled := true
  backendConfigured := true
  sourceMode := .reconciled
  tokenError := none
  measurement := "system"
  field := ""
  node := none
  vmid := none
  tagKey := ""
  aggregationEvery := ""
  aggregationFunction := ""
  timeStart := "-1h"
  timeStop := none
  limit := 500

def epochLibrary : MetricsLibrary :=
  { plainLibrary with
    fromisoformat := fun _ => some ⟨epochStart * 1000000, some 0⟩
    timedelta := fun terms => .ok (terms.map fun (count, seconds) => (count * seconds * 1000000 : Rat).floor).sum }

def listAsFormat : MetricSource → Exchange
  | .influx => .replied 200 (.obj [("columns", .arr []), ("rows", .arr []), ("truncated", .bool false), ("row_count", .int 0),
      ("response_format", .arr [])])
  | .pull => .replied 200 (.obj [("columns", .arr []), ("rows", .arr [.obj [("metric", .str "load"), ("timestamp", .int 5),
      ("value", .int 1), ("id", .str "node/a")]]), ("truncated", .bool false), ("row_count", .int 1),
      ("response_format", .str "json"), ("captured_at", .str "2026-01-01T00:00:00Z"),
      ("query_window", .obj [("start", .str "-1h"), ("stop", .null)])])

/-- A list where a name is expected ends the query, and the row of the other source is lost. -/
theorem list_as_format_escapes :
    queryMetrics epochLibrary bothSources listAsFormat = .error (.escape .unhashable) ∧
      (queryMetrics epochLibrary { bothSources with sourceMode := .pull } listAsFormat).toOption.map (·.rows.length) =
        some 1 :=
  ⟨rfl, by decide +kernel⟩

/-- A start before the year one ends the query as well. -/
example : timeToEpoch epochLibrary "-3000y" = .error (.escape .overflowError) := by decide +kernel

end Proxbox
