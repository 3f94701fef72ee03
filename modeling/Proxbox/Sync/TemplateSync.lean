import Proxbox.Sync.Stages
/-!
# Templates that are gone

The templates of an endpoint are read out of a listing of its resources, whatever its shape. Listed templates
are saved, unless their configuration could not be read, and what is stored and was not listed is deleted. Of a
stored template only VMID, type and tag are modelled, of the values that are saved only those whose computation
may raise.
-/

namespace Proxbox

open Python

/-! ### The listing -/

/-- `_coerce_int`: `int(float(str(value)))`. -/
def coerceInt (value : Json) : Except Raised (Option Int) :=
  if value.isNull || value.eq (.str "") then .ok none
  else match floatLiteral value.text with
    | some (.finite num den) => .ok (some (num.tdiv den))
    | some .infinite => .error .overflow
    | _ => .ok none

def coerceBool : Json → Bool
  | .bool b => b
  | value => lower (strip value.text) ∈ ["1", "true", "yes", "on", "enabled"]

def dicts (values : List Json) : List Fields := values.filterMap fun
  | .obj fields => some fields
  | _ => none

def clusterResources : Json → Option (List Json)
  | .obj [(_, .arr resources)] => some resources
  | _ => none

def iterClusterResourceRows : Json → List Fields
  | .arr items => items.flatMap fun item => dicts ((clusterResources item).getD [item])
  | .obj fields => fields.flatMap fun field => match field.2 with
      | .arr resources => dicts resources
      | _ => []
  | _ => []

def templateType (resource : Fields) : String :=
  let type := lower (strip ((resource.get "type").or (.str "qemu")).text)
  if type ∈ ["qemu", "lxc"] then type else "qemu"

structure TemplateRow where
  vmid : Int
  type : String
  resource : Fields
  config : Option Fields

/-- The configuration of a template by node, type and VMID; nothing if the names are no identifiers or the
request fails. -/
abbrev FetchConfig := String → String → Int → Option Fields

def fetchTemplateConfig (fetch : FetchConfig) (node type : String) (vmid : Int) : Option Fields :=
  if node = "" then none else fetch node type vmid

def templateRow (fetch : FetchConfig) (resource : Fields) : Except Raised (Option TemplateRow) := do
  let some vmid ← coerceInt (resource.get "vmid") | return none
  let type := templateType resource
  return some ⟨vmid, type, resource, fetchTemplateConfig fetch ((resource.get "node").or (.str "")).text type vmid⟩

def listedTemplates (payload : Json) : List Fields := (iterClusterResourceRows payload).filter fun resource =>
    coerceBool (resource.get "template")

def collectTemplateRows (fetch : FetchConfig) (payload : Json) : Except Raised (List TemplateRow) := do
  let rows ← (listedTemplates payload).mapM (templateRow fetch)
  return rows.reduceOption

/-! ### The rows -/

structure StoredTemplate where
  type : String
  tagged : Bool
  deriving DecidableEq

structure TemplateLoop where
  stored : Dict Int StoredTemplate
  synced : List (Int × String)
  saved : List Int

/-- `_upsert_template`, where the configuration could be read. -/
def upsertTemplate (mode : SyncMode) (state : TemplateLoop) (row : TemplateRow) : TemplateLoop :=
  match state.stored.get? row.vmid with
  | some template =>
    if mode = .bootstrapOnly ∧ template.tagged then state
    else { state with stored := state.stored.set row.vmid ⟨row.type, template.tagged⟩, saved := state.saved ++ [row.vmid] }
  | none =>
    { state with
      stored := state.stored.set row.vmid ⟨row.type, mode = .bootstrapOnly⟩
      saved := state.saved ++ [row.vmid] }

def persistRow (mode : SyncMode) (state : TemplateLoop) (row : TemplateRow) : TemplateLoop :=
  let state := if row.config.isSome then upsertTemplate mode state row else state
  { state with synced := (row.vmid, row.type) :: state.synced }

/-- `_template_defaults`, as far as it may raise. -/
def templateDefaults (resource config : Fields) : Except Raised Unit := do
  let _ ← coerceInt ((resource.get "maxcpu").or ((config.get "cores").or (config.get "cpulimit")))
  let memory ← coerceInt (resource.get "maxmem")
  if memory.all (· ≤ 0) then let _ ← coerceInt (config.get "memory")
  let _ ← coerceInt (resource.get "maxdisk")

def persistLoop (mode : SyncMode) (rows : List TemplateRow) (stored : Dict Int StoredTemplate) : TemplateLoop :=
  rows.foldl (persistRow mode) ⟨stored, [], []⟩

def staleTemplates (before : Dict Int StoredTemplate) (state : TemplateLoop) : List Int :=
  (state.stored.items.filter fun item => (before.get? item.1).any (·.type = item.2.type) && (item.1,
    item.2.type) ∉ state.synced && !item.2.tagged).map
    Prod.fst

structure TemplateWorld where
  /-- The endpoint is there and enabled, and the backend is configured and knows it. -/
  reachable : Bool
  mode : SyncMode
  reply : Except String Json
  fetch : FetchConfig
  fault : Bool

/-- The run gets as far as its rows, and to the end of them. -/
def TemplateWorld.rows (world : TemplateWorld) : Option (List TemplateRow) :=
  if world.reachable && world.mode ≠ .disabled then do
    let payload ← world.reply.toOption
    let rows ← (collectTemplateRows world.fetch payload).toOption
    if world.fault || rows.any (fun row => row.config.any fun config =>
      !(templateDefaults row.resource config).toBool) then none else some rows
  else none

theorem reply_of_rows {world : TemplateWorld} {rows : List TemplateRow} (h : world.rows = some rows) :
    ∃ payload, world.reply = .ok payload := by
  unfold TemplateWorld.rows at h
  split_ifs at h
  obtain ⟨payload, hpayload, -⟩ := Option.bind_eq_some_iff.1 h
  exact ⟨payload, toOption_eq_some.1 hpayload⟩

/-- The templates that `sync_vm_templates` deletes. An exception rolls the transaction back. -/
def deletedTemplates (world : TemplateWorld) (stored : Dict Int StoredTemplate) : List Int :=
  match world.rows with
  | some rows => staleTemplates stored (persistLoop world.mode rows stored)
  | none => []

/-! ### What is deleted -/

section Deletion

variable {mode : SyncMode} {rows : List TemplateRow} {stored : Dict Int StoredTemplate} {vmid : Int}
  {template : StoredTemplate}

/-- A listed row keeps the stored one: its configuration could be read, or it has the stored type. -/
def TemplateRow.keeps (row : TemplateRow) (vmid : Int) (template : StoredTemplate) : Prop :=
  row.vmid = vmid ∧ (row.config.isSome = true ∨ row.type = template.type)

theorem persistLoop_concat (row : TemplateRow) :
    persistLoop mode (rows ++ [row]) stored = persistRow mode (persistLoop mode rows stored) row := by
  rw [persistLoop, List.foldl_append, List.foldl_cons, List.foldl_nil, ← persistLoop]

theorem synced_upsertTemplate (state : TemplateLoop) (row : TemplateRow) :
    (upsertTemplate mode state row).synced = state.synced := by
  unfold upsertTemplate
  split
  · split_ifs
    · rfl
    · rfl
  · rfl

theorem mem_synced_persistRow {state : TemplateLoop} {row : TemplateRow} {key : Int × String} :
    key ∈ (persistRow mode state row).synced ↔ key = (row.vmid, row.type) ∨ key ∈ state.synced := by
  dsimp only [persistRow]
  rw [List.mem_cons]
  split_ifs
  · rw [synced_upsertTemplate]
  · rfl

theorem mem_synced {key : Int × String} : key ∈ (persistLoop mode rows stored).synced ↔ ∃ row ∈ rows,
    key = (row.vmid, row.type) := by
  induction rows using List.reverseRecOn with
  | nil => simp [persistLoop]
  | append_singleton rows row ih =>
    rw [persistLoop_concat, mem_synced_persistRow, ih]
    simp [or_comm]

theorem get?_persistRow {state : TemplateLoop} {row : TemplateRow} (h : state.stored.get? vmid = some template) :
    (persistRow mode state row).stored.get? vmid =
      some (if row.vmid = vmid ∧ row.config.isSome = true ∧ ¬ (mode = .bootstrapOnly ∧ template.tagged = true)
        then ⟨row.type, template.tagged⟩
        else template) := by
  dsimp only [persistRow]
  by_cases hconfig : row.config.isSome = true
  · rw [if_pos hconfig]
    by_cases hvmid : row.vmid = vmid
    · subst hvmid
      rw [upsertTemplate, h]
      dsimp only
      split_ifs with hskip hwrite hwrite
      · exact absurd hskip hwrite.2.2
      · exact h
      · simp
      · exact absurd ⟨rfl, hconfig, hskip⟩ hwrite
    · rw [if_neg fun hown => hvmid hown.1]
      have hother (v : StoredTemplate) : (state.stored.set row.vmid v).get? vmid = some template := by
        rw [Dict.get?_set, if_neg (Ne.symm hvmid), h]
      unfold upsertTemplate
      split
      · split_ifs
        · exact h
        · exact hother _
      · exact hother _
  · rw [if_neg hconfig, if_neg fun hown => hconfig hown.2.1, h]

theorem get?_persistLoop (h : stored.get? vmid = some template) :
    ∃ after, (persistLoop mode rows stored).stored.get? vmid = some after ∧ after.tagged = template.tagged ∧
      (template.tagged = false → (after.type = template.type ∧ ∀ row ∈ rows, row.vmid = vmid →
        row.config.isSome = false) ∨
        ∃ row ∈ rows, row.vmid = vmid ∧ row.config.isSome = true ∧ row.type = after.type) := by
  induction rows using List.reverseRecOn with
  | nil => exact ⟨template, h, rfl, fun _ => .inl ⟨rfl, fun row hrow => absurd hrow List.not_mem_nil⟩⟩
  | append_singleton rows row ih =>
    obtain ⟨after, hafter, htag, hcase⟩ := ih
    rw [persistLoop_concat, get?_persistRow hafter, htag]
    refine ⟨_, rfl, ?_⟩
    split_ifs with hown
    · exact ⟨rfl, fun _ => .inr ⟨row, List.mem_append_right _ (List.mem_singleton.2 rfl), hown.1, hown.2.1, rfl⟩⟩
    · refine ⟨htag, fun hfree => (hcase hfree).imp (And.imp_right fun hnone other hother hvmid => ?_) ?_⟩
      · rcases List.mem_append.1 hother with hother | hother
        · exact hnone other hother hvmid
        · rw [List.mem_singleton.1 hother] at hvmid ⊢
          simpa [hvmid, hfree] using hown
      · rintro ⟨other, hother, hrest⟩
        exact ⟨other, List.mem_append_left _ hother, hrest⟩

theorem mem_staleTemplates (h : stored.get? vmid = some template) :
    vmid ∈ staleTemplates stored (persistLoop mode rows stored) ↔ template.tagged = false ∧ ∀ row ∈ rows,
      ¬ row.keeps vmid template := by
  obtain ⟨after, hafter, htag, hcase⟩ := @get?_persistLoop mode rows stored vmid template h
  have hmem : vmid ∈ staleTemplates stored (persistLoop mode rows stored) ↔
      template.type = after.type ∧ (∀ row ∈ rows, (vmid, after.type) ≠ (row.vmid, row.type)) ∧
        template.tagged = false := by
    constructor
    · intro hstale
      obtain ⟨⟨_, other⟩, hitem, rfl⟩ := List.mem_map.1 hstale
      obtain ⟨hstored, hitem⟩ := List.mem_filter.1 hitem
      obtain rfl : other = after := Option.some.inj (((Dict.mem_items_iff_get? _ _ _).1 hstored).symm.trans hafter)
      simpa [h, mem_synced, htag, and_assoc] using hitem
    · intro hitem
      refine List.mem_map.2 ⟨(vmid, after), List.mem_filter.2 ⟨(Dict.mem_items_iff_get? _ _ _).2 hafter, ?_⟩, rfl⟩
      simpa [h, mem_synced, htag, and_assoc] using hitem
  rw [hmem]
  constructor
  · rintro ⟨htype, hunlisted, hfree⟩
    refine ⟨hfree, fun row hrow hkeeps => ?_⟩
    rcases hcase hfree with ⟨-, hnone⟩ | ⟨other, hother, hvmid, -, hother'⟩
    · rcases hkeeps with ⟨hvmid, hconfig | hrowType⟩
      · rw [hnone row hrow hvmid] at hconfig
        cases hconfig
      · exact hunlisted row hrow (by rw [hvmid, hrowType, htype])
    · exact hunlisted other hother (by rw [hvmid, hother'])
  · rintro ⟨hfree, hkept⟩
    rcases hcase hfree with ⟨htype, -⟩ | ⟨other, hother, hvmid, hconfig, -⟩
    · refine ⟨htype.symm, fun row hrow hkey => hkept row hrow ?_, hfree⟩
      obtain ⟨hvmid, hrowType⟩ := Prod.mk.inj hkey
      exact ⟨hvmid.symm, .inr (hrowType.symm.trans htype)⟩
    · exact absurd ⟨hvmid, .inl hconfig⟩ (hkept other hother)

end Deletion

/-! ### Listings -/

def readableResource : Json → Bool
  | .obj fields => match coerceInt (Fields.get fields "vmid") with
      | .ok (some _) => true
      | _ => false
  | _ => false

def wellFormedListing : Json → Bool
  | .arr items => items.all fun item => ((clusterResources item).getD [item]).all readableResource
  | .obj fields => fields.all fun field => match field.2 with
      | .arr resources => resources.all readableResource
      | _ => false
  | _ => false

/-- The reply lists the VMID as a template. -/
def ListsTemplate (payload : Json) (vmid : Int) : Prop := ∃ resource ∈ listedTemplates payload,
    coerceInt (resource.get "vmid") = .ok (some vmid)

/-- Whether a stored template may go: the reply is a well-formed listing that does not have it, and it is not
protected. -/
def MayGo (world : TemplateWorld) (vmid : Int) (template : StoredTemplate) : Prop :=
  ∃ payload, world.reply = .ok payload ∧ wellFormedListing payload = true ∧ ¬ ListsTemplate payload vmid ∧
    template.tagged = false

/-- Only templates that may go are deleted exactly if each other one without the tag has a row that keeps it. -/
theorem template_deletion_safe_iff (world : TemplateWorld) (stored : Dict Int StoredTemplate) :
    (∀ vmid template, stored.get? vmid = some template → vmid ∈ deletedTemplates world stored →
      MayGo world vmid template) ↔
      ∀ rows payload, world.rows = some rows → world.reply = .ok payload → ∀ vmid template, stored.get? vmid =
        some template →
        template.tagged = false → (wellFormedListing payload = false ∨ ListsTemplate payload vmid) →
          ∃ row ∈ rows, row.keeps vmid template := by
  constructor
  · intro h rows payload hrows hreply vmid template hstored hfree hbad
    by_contra hnone
    have hdeleted : vmid ∈ deletedTemplates world stored := by
      rw [deletedTemplates, hrows]
      exact (mem_staleTemplates hstored).2 ⟨hfree, fun row hrow hkeeps => hnone ⟨row, hrow, hkeeps⟩⟩
    obtain ⟨payload', hreply', hwell, hunlisted, -⟩ := h vmid template hstored hdeleted
    obtain rfl : payload = payload' := Except.ok.inj (hreply.symm.trans hreply')
    exact hbad.elim (fun hmalformed => by simp [hwell] at hmalformed) hunlisted
  · intro h vmid template hstored hdeleted
    unfold deletedTemplates at hdeleted
    split at hdeleted
    · rename_i rows hrows
      obtain ⟨payload, hreply⟩ := reply_of_rows hrows
      obtain ⟨hfree, hnone⟩ := (mem_staleTemplates hstored).1 hdeleted
      have hfine : ¬ (wellFormedListing payload = false ∨ ListsTemplate payload vmid) := fun hbad => by
        obtain ⟨row, hrow, hkeeps⟩ := h rows payload hrows hreply vmid template hstored hfree hbad
        exact hnone row hrow hkeeps
      exact ⟨payload, hreply, by simpa using fun hmalformed => hfine (.inl hmalformed), fun hlisted =>
        hfine (.inr hlisted), hfree⟩
    · cases hdeleted

def listedElsewhere : Fields := [("vmid", .int 100), ("template", .int 1), ("type", .str "lxc"),
    ("node", .str "pve1")]

/-- An error text in place of a listing deletes the stored template, and so does a listing that gives it another
type. -/
theorem unread_reply_deletes_template :
    let stored : Dict Int StoredTemplate := Dict.ofWrites [(100, ⟨"qemu", false⟩)]
    (100 ∈ deletedTemplates ⟨true, .always, .ok (.obj [("detail", .str "restarting")]), fun _ _ _ => none,
      false⟩ stored ∧
        wellFormedListing (.obj [("detail", .str "restarting")]) = false) ∧
      100 ∈ deletedTemplates ⟨true, .always, .ok (.arr [.obj listedElsewhere]), fun _ _ _ => none, false⟩ stored ∧
        ListsTemplate (.arr [.obj listedElsewhere]) 100 := by
  refine ⟨⟨by decide +kernel, rfl⟩, by decide +kernel, listedElsewhere, ?_, ?_⟩
  · rw [show listedTemplates (.arr [.obj listedElsewhere]) = [listedElsewhere] from by rfl]
    exact List.mem_singleton.2 rfl
  · decide +kernel

end Proxbox
