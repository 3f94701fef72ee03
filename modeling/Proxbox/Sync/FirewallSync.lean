import Proxbox.Library.Tally
import Proxbox.Library.Transaction
import Proxbox.Sync.Attribution
import Proxbox.Sync.EndpointScope
import Proxbox.Sync.IndividualSync
import Proxbox.Sync.StageOrder
/-!
# The firewall of a datacenter

The backend answers with one entry for each cluster. An entry that is attributed to an endpoint in scope is
written in a transaction of its own: its objects are saved, all other rows of the endpoint are marked stale, and
entries that are gone from a listed IP set are deleted. Then the rules of the nodes are written, node by node.
The fields of a row that neither identify it nor decide whether it is written are left out.
-/

namespace Proxbox

open Python Tally

/-! ### The phases of a staged run

Before the stages, the job reconciles local rows of each endpoint through services. The result of each service becomes
phases of the run.
-/

inductive PhaseKind where
  | preflight
  | cluster
  | firewall
  | datacenter
  | vmTemplate
  | sseStage
  deriving DecidableEq

structure RuntimePhase where
  kind : PhaseKind
  label : String
  endpointId : Option String
  /-- Status `success`; the other one is `warning`. -/
  succeeded : Bool
  summary : String

def textOr (text : Option String) (default : String) : String := (text.filter (· ≠ "")).getD default

structure ServiceItem where
  success : Bool
  error : Option String

/-- The result of a service called for one endpoint; its items are all of this endpoint. -/
structure ServiceSyncResult where
  perEndpoint : List ServiceItem
  success : Bool
  error : Option String

/-- How the call of a service ended: at the deadline, by another exception, or with a result. -/
inductive ServiceCall (ρ : Type) where
  | deadline
  | raised (text : String)
  | returned (result : ρ)

/-- The items, and a phase for the whole where there is no item or none accounts for a failure. -/
def phasesForServiceEndpoint (kind : PhaseKind) (label : String) (id : Int) (result : ServiceSyncResult) :
    List RuntimePhase :=
  let phases := result.perEndpoint.map fun item =>
    (⟨kind, label, some (toString id), item.success, textOr item.error (label ++ " completed")⟩ : RuntimePhase)
  if phases.isEmpty || (!result.success && phases.all RuntimePhase.succeeded) then
    phases ++ [⟨kind, label, some (toString id), result.success, textOr result.error (label ++ " completed")⟩]
  else phases

/-! ### The objects of an entry -/

inductive RuleZone where
  | datacenter
  | securityGroup
  deriving DecidableEq

/-- What identifies a row among those of an endpoint that stand for objects of its datacenter. -/
inductive FirewallKey where
  | securityGroup (name : String)
  | rule (zone : RuleZone) (group : Option String) (pos : Int)
  | ipset (name : String)
  | ipsetEntry (ipset cidr : String)
  | alias (name : String)
  | options
  deriving DecidableEq

/-- The entries of an IP set have no status. -/
def FirewallKey.hasStatus : FirewallKey → Bool
  | .ipsetEntry _ _ => false
  | _ => true

/-- Upserts that may stop with an exception, no matter which; those before it have been made. -/
abbrev UpsertM := OptionT (StateM (List FirewallKey))

def upsert (key : FirewallKey) : UpsertM Unit := modify (· ++ [key])

def attempt {ε α : Type} (result : Except ε α) : UpsertM α := OptionT.mk (pure result.toOption)

def upsertSecurityGroup (raw : Fields) : UpsertM (Option String) := do
  let name := (raw.get "name").or (raw.get "group")
  if !name.truthy then return none
  upsert (.securityGroup name.text)
  return some name.text

/-- `raw_zone in _SKIP_ZONES`, which raises for a list or an object. -/
def inSkipZones : Json → Except Raised Bool
  | .arr _ => .error .unhashable
  | .obj _ => .error .unhashable
  | value => .ok (value.eq (.str "vnet"))

def upsertRule (zone : RuleZone) (group : Option String) (raw : Json) : UpsertM Unit := do
  let raw ← attempt (mapping raw)
  if ← attempt (inSkipZones (raw.get "zone")) then return
  if (raw.get "pos").isNull then return
  let pos ← attempt (raw.get "pos").toInt
  let enable := raw.getD "enable" (.int 1)
  if !enable.isNull then let _ ← attempt enable.toInt
  upsert (.rule zone group pos)

def itemsOf (value : Json) : UpsertM (List Json) := attempt (iterated (value.or (.arr [])))

def upsertIpset (raw : Json) : UpsertM Unit := do
  let raw ← attempt (mapping raw)
  let name := raw.get "name"
  if !name.truthy then return
  upsert (.ipset name.text)
  for entry in ← itemsOf (raw.get "entries") do
    let entry ← attempt (mapping entry)
    if (entry.get "cidr").truthy then upsert (.ipsetEntry name.text (entry.get "cidr").text)

def upsertAlias (raw : Json) : UpsertM Unit := do
  let raw ← attempt (mapping raw)
  if (raw.get "name").truthy && ((raw.get "cidr").or (raw.get "ip")).truthy then upsert (.alias (raw.get "name").text)

def upsertOptions (raw : Json) : UpsertM Unit := do
  if !raw.truthy then return
  let raw ← attempt (mapping raw)
  if !(raw.get "enable").isNull then let _ ← attempt (raw.get "enable").toInt
  upsert .options

def upsertEntry (entry : Fields) : UpsertM Unit := do
  for raw in ← itemsOf (entry.get "security_groups") do
    let raw ← attempt (mapping raw)
    if let some group ← upsertSecurityGroup raw then
      for rule in ← itemsOf (raw.get "rules") do upsertRule .securityGroup (some group) rule
  for rule in ← itemsOf (entry.get "rules") do upsertRule .datacenter none rule
  for raw in ← itemsOf (entry.get "ip_sets") do upsertIpset raw
  for raw in ← itemsOf (entry.get "aliases") do upsertAlias raw
  upsertOptions (entry.get "options")

/-- An entry of the reply, and what the database does meanwhile. -/
structure SummaryEntry where
  entry : Json
  /-- The query of the tracked clusters raises. -/
  raises : Bool
  /-- The statement at which the database fails: an upsert or, after these, one of the stale pass. -/
  fault : Option Nat
  /-- The text of the exception, if there is one. -/
  errorText : String

namespace SummaryEntry

variable (item : SummaryEntry)

def upserts : Option Unit × List FirewallKey := (upsertEntry item.entry.asDict).run.run []

def keys : List FirewallKey := item.upserts.2

def completes : Bool := item.upserts.1.isSome && item.fault.isNone

def saves : List FirewallKey :=
  match item.fault with
  | none => item.keys
  | some statement => item.keys.take statement

/-- The fourth statement of the stale pass has been made. -/
def reachesDeletion : Bool :=
  item.upserts.1.isSome && match item.fault with
    | none => true
    | some statement => item.keys.length + 3 < statement

def toReply : ReplyEntry := ⟨item.entry, item.raises, item.completes⟩

def dropsEntry : FirewallKey → Bool
  | .ipsetEntry name cidr => .ipset name ∈ item.keys && .ipsetEntry name cidr ∉ item.keys
  | _ => false

def batch (endpoint : Nat) (stored : Finset (Nat × FirewallKey)) : Batch (Nat × FirewallKey) where
  saves := item.saves.map (endpoint, ·)
  deletes := if item.reachesDeletion then stored.filter fun row => row.1 = endpoint ∧ item.dropsEntry row.2 else ∅
  completes := item.completes

end SummaryEntry

/-! ### The rows -/

structure FirewallRows where
  stored : Finset (Nat × FirewallKey)
  active : Finset (Nat × FirewallKey)

def syncOneEndpoint (rows : FirewallRows) (write : SummaryEntry × Nat) : FirewallRows :=
  let batch := write.1.batch write.2 rows.stored
  if write.1.completes then
    { stored := (batch.commit ⟨rows.stored, ∅⟩).present
      active := batch.saves.toFinset ∪ rows.active.filter fun row => ¬ (row.1 = write.2 ∧ row.2.hasStatus) }
  else rows

/-! ### Nodes -/

/-- What the pass over a node meets: the deadline, a reason to skip the node, or its rules. -/
inductive NodeRules where
  | late
  | skipped
  | listed (rules : List Json) (fault : Bool)

/-- `sync_node_firewall`, as far as it may raise. A position or a flag that is not a number is put up with. -/
def syncNodeFirewall (rules : List Json) : Except Raised Unit :=
  rules.forM fun raw => do
    let raw ← mapping raw
    if (raw.get "pos").isNull then return
    if let some _ ← (raw.get "pos").intOrNone then
      let enable := raw.getD "enable" (.int 1)
      if !enable.isNull then let _ ← enable.intOrNone

def NodeRules.isLate : NodeRules → Bool
  | .late => true
  | _ => false

def NodeRules.rolledBack : NodeRules → Bool
  | .listed rules fault => fault || !(syncNodeFirewall rules).toBool
  | _ => false

/-! ### The service -/

inductive SummaryReply where
  | late
  | failed (text : String)
  | other (value : Json)
  | entries (items : List SummaryEntry)

structure FirewallWorld where
  configured : Bool
  view : BackendView
  table : EndpointTable
  estate : Estate
  reply : SummaryReply
  nodes : Nat → List NodeRules
  exceptionText : Raised → String

namespace FirewallWorld

variable (world : FirewallWorld)

def endpointsInScope (ids : Option (List Int)) : List ProxmoxEndpoint :=
  match ids with
  | none => enabledRows world.table
  | some ids => enabledRowsIn world.table ids

/-- The entries that are written, and for which endpoints. -/
def handled (mapping : Dict Int Int) (items : List SummaryEntry) : List (SummaryEntry × Nat) :=
  items.filterMap fun item => (targetOf world.estate (mapping.keys.map Int.toNat) item.toReply).map (item, ·)

end FirewallWorld

def serviceItem (write : SummaryEntry × Nat) : ServiceItem :=
  ⟨write.1.completes, if write.1.completes then none else some write.1.errorText⟩

def syncSummary (world : FirewallWorld) (mapping : Dict Int Int) (items : List SummaryEntry) : ServiceCall ServiceSyncResult :=
  match items.mapM (Proxbox.mapping ·.entry) with
  | .error raised => .raised (world.exceptionText raised)
  | .ok _ =>
    let writes := world.handled mapping items
    if writes.any fun write => write.1.completes && (world.nodes write.2).any NodeRules.isLate then .deadline
    else .returned ⟨writes.map serviceItem, (writes.map serviceItem).all ServiceItem.success, none⟩

def runFirewallSync (world : FirewallWorld) (ids : Option (List Int)) : ServiceCall ServiceSyncResult :=
  if !world.configured then .returned ⟨[], false, some "FastAPI endpoint not configured or has no URL"⟩
  else match enabledBackendEndpointScope world.view world.table ids with
    | .error raised => .raised (world.exceptionText raised)
    | .ok scope => match scope.error.filter (· ≠ ""), scope.params with
      | some text, _ => .returned ⟨[], false, some text⟩
      | none, none => .returned ⟨[], true, none⟩
      | none, some _ => match world.reply with
        | .late => .deadline
        | .failed text => .returned ⟨[], false, some ("HTTP error fetching firewall summary: " ++ text)⟩
        | .other value =>
          .returned ⟨[], false, some ("Unexpected response type from /proxmox/firewall/summary: " ++ typeName value)⟩
        | .entries items => syncSummary world scope.mapping items

/-! ### Coverage -/

/-- An endpoint was resolved, is in the reply, and was processed without an error that is rolled back. -/
structure Processed (world : FirewallWorld) (mapping : Dict Int Int) (items : List SummaryEntry)
    (endpoint : ProxmoxEndpoint) : Prop where
  resolved : endpoint.pk ∈ mapping.keys
  reported : ∃ write ∈ world.handled mapping items, write.2 = endpoint.pk.toNat
  written : ∀ write ∈ world.handled mapping items, write.2 = endpoint.pk.toNat → write.1.completes = true
  nodes : ∀ node ∈ world.nodes endpoint.pk.toNat, node.rolledBack = false

def Covers (world : FirewallWorld) (ids : Option (List Int)) : Prop :=
  ∀ endpoint ∈ world.endpointsInScope ids, ∃ scope items, enabledBackendEndpointScope world.view world.table ids = .ok scope ∧
    world.reply = .entries items ∧ Processed world scope.mapping items endpoint

/-- The service reports success or, where the job has called it for one endpoint, the phases do that are made of
its result. -/
def ReportsSuccess (world : FirewallWorld) (ids : Option (List Int)) (label : String) (id : Int) : Prop :=
  ∃ result, runFirewallSync world ids = .returned result ∧
    (result.success = true ∨ ids = some [id] ∧ ∀ phase ∈ phasesForServiceEndpoint .firewall label id result,
      phase.succeeded = true)

/-- Nothing that is recorded goes wrong: there is a scope, the reply is a list of objects, and every entry that
is handled completes in time. -/
structure Undisturbed (world : FirewallWorld) (ids : Option (List Int)) (scope : BackendScope) (items : List SummaryEntry) :
    Prop where
  configured : world.configured = true
  scope_eq : enabledBackendEndpointScope world.view world.table ids = .ok scope
  scope_error : scope.error.filter (· ≠ "") = none
  queried : scope.params.isSome
  reply : world.reply = .entries items
  objects : ∃ fields, items.mapM (mapping ·.entry) = .ok fields
  inTime : ∀ write ∈ world.handled scope.mapping items, write.1.completes = true → ∀ node ∈ world.nodes write.2,
    node.isLate = false
  completes : ∀ write ∈ world.handled scope.mapping items, write.1.completes = true

section Coverage

variable {world : FirewallWorld} {ids : Option (List Int)}

theorem success_of_phases {kind : PhaseKind} {label : String} {id : Int} {result : ServiceSyncResult}
    (h : ∀ phase ∈ phasesForServiceEndpoint kind label id result, phase.succeeded = true) : result.success = true := by
  unfold phasesForServiceEndpoint at h
  dsimp only at h
  split_ifs at h with hwhole
  · exact h _ (List.mem_append_right _ (List.mem_singleton.2 rfl))
  · by_contra hfails
    refine hwhole (Bool.or_eq_true_iff.2 (.inr (Bool.and_eq_true_iff.2 ⟨by simpa using hfails, List.all_eq_true.2 h⟩)))

theorem reportsSuccess_iff {label : String} {id : Int} :
    ReportsSuccess world ids label id ↔ ∃ result, runFirewallSync world ids = .returned result ∧ result.success = true :=
  exists_congr fun _ => and_congr_right fun _ => ⟨fun h => h.elim (fun h => h) fun h => success_of_phases h.2, .inl⟩

theorem endpointsInScope_of_no_params {scope : BackendScope}
    (hscope : enabledBackendEndpointScope world.view world.table ids = .ok scope)
    (herror : scope.error.filter (· ≠ "") = none) (hparams : scope.params = none) : world.endpointsInScope ids = [] := by
  have hof (endpoints : List ProxmoxEndpoint) (mapping : Dict Int Int)
      (h : backendScopeOf endpoints mapping = scope) : False := by
    subst h
    unfold backendScopeOf at herror hparams
    dsimp only at herror hparams
    split_ifs at herror hparams
    cases herror
  unfold enabledBackendEndpointScope at hscope
  split_ifs at hscope with hnone
  · rw [hnone]
    simp [FirewallWorld.endpointsInScope, enabledRowsIn]
  dsimp only at hscope
  split_ifs at hscope with hempty
  · exact List.isEmpty_iff.1 hempty
  · obtain ⟨answer, -, hanswer⟩ := bind_eq_ok.1 hscope
    cases answer with
    | error text =>
      dsimp only at hanswer
      split_ifs at hanswer with htext
      · exact (hof _ _ (Except.ok.inj hanswer)).elim
      · obtain rfl := Except.ok.inj hanswer
        simp [htext] at herror
    | ok mapping => exact (hof _ _ (Except.ok.inj hanswer)).elim

theorem success_of_undisturbed {scope : BackendScope} {items : List SummaryEntry} (h : Undisturbed world ids scope items) :
    ∃ result, runFirewallSync world ids = .returned result ∧ result.success = true := by
  obtain ⟨params, hparams⟩ := Option.isSome_iff_exists.1 h.queried
  obtain ⟨fields, hfields⟩ := h.objects
  have hlate : (world.handled scope.mapping items).any (fun write =>
      write.1.completes && (world.nodes write.2).any NodeRules.isLate) = false := by
    refine List.any_eq_false.2 fun write hwrite hbad => ?_
    obtain ⟨hcompletes, hnode⟩ := Bool.and_eq_true_iff.1 hbad
    obtain ⟨node, hmem, hnode⟩ := List.any_eq_true.1 hnode
    rw [h.inTime write hwrite hcompletes node hmem] at hnode
    cases hnode
  let items' := (world.handled scope.mapping items).map serviceItem
  refine ⟨⟨items', items'.all ServiceItem.success, none⟩, ?_, ?_⟩
  · unfold runFirewallSync
    simp only [h.configured, Bool.not_true, Bool.false_eq_true, if_false, h.scope_eq, h.scope_error, hparams, h.reply,
      syncSummary, hfields, hlate]
    rfl
  · exact List.all_eq_true.2 fun item hitem => by
      obtain ⟨write, hwrite, rfl⟩ := List.mem_map.1 hitem
      exact h.completes write hwrite

theorem undisturbed_of_success {result : ServiceSyncResult} (hrun : runFirewallSync world ids = .returned result)
    (hsuccess : result.success = true) :
    world.endpointsInScope ids = [] ∨ ∃ scope items, Undisturbed world ids scope items := by
  unfold runFirewallSync at hrun
  split_ifs at hrun with hconfigured
  · cases hrun
    cases hsuccess
  · split at hrun
    · cases hrun
    · rename_i scope hscope
      split at hrun
      · cases hrun
        cases hsuccess
      · rename_i herror hparams
        exact .inl (endpointsInScope_of_no_params hscope herror hparams)
      · rename_i params herror hparams
        split at hrun
        · cases hrun
        · cases hrun
          cases hsuccess
        · cases hrun
          cases hsuccess
        · rename_i items hreply
          unfold syncSummary at hrun
          split at hrun
          · cases hrun
          · rename_i fields hfields
            dsimp only at hrun
            split_ifs at hrun with hlate
            cases hrun
            refine .inr ⟨scope, items, by simpa using hconfigured, hscope, herror, by rw [hparams]; rfl, hreply,
              ⟨fields, hfields⟩,
              fun write hwrite hcompletes node hnode => ?_, fun write hwrite => ?_⟩
            · by_contra hbad
              refine hlate (List.any_eq_true.2 ⟨write, hwrite, Bool.and_eq_true_iff.2 ⟨hcompletes, ?_⟩⟩)
              exact List.any_eq_true.2 ⟨node, hnode, by simpa using hbad⟩
            · exact List.all_eq_true.1 hsuccess _ (List.mem_map.2 ⟨write, hwrite, rfl⟩)

end Coverage

/-- Success means that the scope was covered exactly if an undisturbed run cannot miss an endpoint. -/
theorem firewall_success_iff (world : FirewallWorld) (ids : Option (List Int)) (label : String) (id : Int) :
    (ReportsSuccess world ids label id → Covers world ids) ↔ ∀ scope items, Undisturbed world ids scope items →
      ∀ endpoint ∈ world.endpointsInScope ids, endpoint.pk ∈ scope.mapping.keys ∧
        (∃ write ∈ world.handled scope.mapping items, write.2 = endpoint.pk.toNat) ∧
        ∀ node ∈ world.nodes endpoint.pk.toNat, node.rolledBack = false := by
  rw [reportsSuccess_iff]
  constructor
  · intro h scope items hrun endpoint hendpoint
    obtain ⟨scope', items', hscope, hreply, hprocessed⟩ := h (success_of_undisturbed hrun) endpoint hendpoint
    obtain rfl : scope = scope' := Except.ok.inj (hrun.scope_eq.symm.trans hscope)
    obtain rfl : items = items' := SummaryReply.entries.inj (hrun.reply.symm.trans hreply)
    exact ⟨hprocessed.resolved, hprocessed.reported, hprocessed.nodes⟩
  · rintro h ⟨result, hrun, hsuccess⟩ endpoint hendpoint
    rcases undisturbed_of_success hrun hsuccess with hnone | ⟨scope, items, hundisturbed⟩
    · rw [hnone] at hendpoint
      cases hendpoint
    · obtain ⟨hresolved, hreported, hnodes⟩ := h scope items hundisturbed endpoint hendpoint
      exact ⟨scope, items, hundisturbed.scope_eq, hundisturbed.reply, hresolved, hreported, fun write hwrite _ =>
        hundisturbed.completes write hwrite, hnodes⟩

/-- One endpoint in scope, and an empty reply. -/
theorem empty_summary_reports_success :
    let world : FirewallWorld := ⟨true, listedConfig.view, listedConfig.endpoints, ⟨[], []⟩, .entries [], fun _ =>
      [], fun _ => ""⟩
    ReportsSuccess world (some [1]) "Firewall sync" 1 ∧ ¬ Covers world (some [1]) := by
  refine ⟨⟨⟨[], true, none⟩, rfl, .inl rfl⟩, fun h => ?_⟩
  obtain ⟨scope, items, -, hreply, hprocessed⟩ := h listedEndpoint (by decide +kernel)
  obtain rfl := SummaryReply.entries.inj hreply
  obtain ⟨write, hwrite, -⟩ := hprocessed.reported
  cases hwrite

end Proxbox
