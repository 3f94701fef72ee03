import Proxbox.Library.Dict
import Proxbox.Library.Json
import Proxbox.Library.Transaction
/-!
# Credential assignments of an endpoint

An endpoint refers to up to four credentials of the secret store, which keeps an assignment for each credential,
purpose and object. After a save the assignments of the endpoint are reconciled with its references: those of
references that are gone are deleted, those that are wanted are made, and one of the two for the console is the
primary one.
-/

namespace Proxbox

open Python Transaction

/-! ### References -/

inductive CredentialSlot where
  | password
  | token
  | sshPassword
  | sshKeypair
  deriving DecidableEq

def CredentialSlot.all : List CredentialSlot := [.password, .token, .sshPassword, .sshKeypair]

def CredentialSlot.credentialType : CredentialSlot → String
  | .password => "password"
  | .token => "api-token"
  | .sshPassword => "ssh-password"
  | .sshKeypair => "ssh-keypair"

def CredentialSlot.purpose : CredentialSlot → String
  | .password => "login"
  | .token => "api"
  | .sshPassword => "console"
  | .sshKeypair => "console"

structure StoredCredential where
  pk : Nat
  credentialType : String

structure CredentialOwner where
  pk : Nat
  reference : CredentialSlot → Option String
  sshCredentialSource : String
  sshAuthMethod : String

structure EndpointMaterialContext where
  endpoints : Dict Nat CredentialOwner
  credentials : Dict String StoredCredential
  contentType : Nat

abbrev AssignmentSlot := Nat × String

section References

variable (context : EndpointMaterialContext) (endpoint : CredentialOwner)

def credentialForSlot (slot : CredentialSlot) : Except Raised (Option StoredCredential) :=
  match endpoint.reference slot with
  | none => .ok none
  | some reference =>
    match context.credentials.get? reference with
    | none => .error (.withText "The endpoint credential was not declared before persistence.")
    | some credential =>
      if credential.credentialType ≠ slot.credentialType then
        .error (.withText "The endpoint credential type does not match its assigned purpose.")
      else .ok (some credential)

def isPrimary (slot : CredentialSlot) : Except Raised Bool :=
  if slot.purpose ≠ "console" then .ok true
  else if endpoint.sshCredentialSource ≠ "dedicated" then .ok false
  else if endpoint.sshAuthMethod = "password" then .ok (slot = .sshPassword)
  else if endpoint.sshAuthMethod = "key" then .ok (slot = .sshKeypair)
  else .error (.withText "Unsupported endpoint SSH authentication method.")

def desireSlot (desired : Dict AssignmentSlot Bool) (slot : CredentialSlot) : Except Raised (Dict AssignmentSlot Bool) := do
  match ← credentialForSlot context endpoint slot with
  | none => return desired
  | some credential =>
    let primary ← isPrimary endpoint slot
    return desired.set (credential.pk, slot.purpose) primary

def desiredAssignments : Except Raised (Dict AssignmentSlot Bool) :=
  CredentialSlot.all.foldlM (desireSlot context endpoint) Dict.empty

def referencedSlot (slot : CredentialSlot) : Except Raised (Option AssignmentSlot) := do
  let credential ← credentialForSlot context endpoint slot
  return credential.map fun credential => (credential.pk, slot.purpose)

def referencedSlots : Except Raised (List AssignmentSlot) := do
  let found ← CredentialSlot.all.mapM (referencedSlot context endpoint)
  return found.filterMap id

def previousAssignments : Except Raised (List AssignmentSlot) :=
  match context.endpoints.get? endpoint.pk with
  | none => .ok []
  | some previous => referencedSlots context previous

end References

/-! ### The store -/

structure AssignmentKey where
  objectType : Nat
  objectId : Nat
  slot : AssignmentSlot
  deriving DecidableEq

structure AssignmentRow where
  isPrimary : Bool
  enabled : Bool

inductive AssignmentWrite where
  | saved (key : AssignmentKey) (row : AssignmentRow)
  | deleted (key : AssignmentKey)

structure AssignmentStore where
  table : Dict AssignmentKey AssignmentRow
  writes : List AssignmentWrite

structure AssignmentProvider where
  mayAdd : Bool
  inScope : Dict AssignmentKey AssignmentRow → String → AssignmentKey → Bool
  fullClean : Dict AssignmentKey AssignmentRow → AssignmentKey → AssignmentRow → Except Raised Unit
  enabledByDefault : Bool

abbrev AssignmentM := Action Raised AssignmentStore

def EndpointMaterialContext.key (context : EndpointMaterialContext) (endpoint : CredentialOwner) (slot : AssignmentSlot) :
    AssignmentKey :=
  ⟨context.contentType, endpoint.pk, slot⟩

section Reconciliation

variable (provider : AssignmentProvider)

def requireScope (action : String) (key : AssignmentKey) : AssignmentM Unit := do
  let store ← read
  if provider.inScope store.table action key then return ()
  else throw (.withText "OpenBao object permission does not permit this credential operation.")

def requireAdd (creating : Bool) : AssignmentM Unit :=
  if creating && !provider.mayAdd then throw (.withText "Creating an endpoint credential assignment requires add permission.")
  else return ()

def requireChange (key : AssignmentKey) (creating : Bool) : AssignmentM Unit :=
  if creating then return () else requireScope provider "change" key

def saveAssignment (key : AssignmentKey) (row : AssignmentRow) (creating : Bool) : AssignmentM Unit := do
  requireAdd provider creating
  requireChange provider key creating
  let store ← read
  raising (provider.fullClean store.table key row)
  write fun store => ⟨store.table.set key row, store.writes ++ [.saved key row]⟩
  requireChange provider key creating

def deleteAssignment (key : AssignmentKey) : AssignmentM Unit := do
  requireScope provider "delete" key
  write fun store => ⟨store.table.erase key, store.writes ++ [.deleted key]⟩

variable (context : EndpointMaterialContext) (endpoint : CredentialOwner)

def ownRows (table : Dict AssignmentKey AssignmentRow) : List (AssignmentSlot × AssignmentRow) :=
  (table.items.filter fun item => item.1.objectType = context.contentType ∧ item.1.objectId = endpoint.pk).map
    fun item => (item.1.slot, item.2)

variable (previous : List AssignmentSlot) (desired : Dict AssignmentSlot Bool)

/-- One row of the loop. The row in memory is what is returned, also for a deleted one. -/
def removeOrDemote (item : AssignmentSlot × AssignmentRow) : AssignmentM (AssignmentSlot × AssignmentRow) :=
  if item.1 ∉ previous then return item
  else match desired.get? item.1 with
    | none => do
      deleteAssignment provider (context.key endpoint item.1)
      return item
    | some primary =>
      if item.2.isPrimary && !primary then do
        saveAssignment provider (context.key endpoint item.1) { item.2 with isPrimary := false } false
        return (item.1, { item.2 with isPrimary := false })
      else return item

def removeOrDemoteOwned (rows : List (AssignmentSlot × AssignmentRow)) : AssignmentM (List (AssignmentSlot × AssignmentRow)) :=
  rows.foldlM (fun seen item => do
    let item ← removeOrDemote provider context endpoint previous desired item
    return seen ++ [item]) []

def ensureAssignment (indexed : Dict AssignmentSlot AssignmentRow) (slot : AssignmentSlot) (primary : Bool) :
    AssignmentM Unit :=
  let found := indexed.get? slot
  let row := found.getD ⟨primary, provider.enabledByDefault⟩
  if row.enabled = false then throw (.withText "A disabled credential assignment cannot be enabled implicitly.")
  else if found.isNone || row.isPrimary != primary then
    saveAssignment provider (context.key endpoint slot) { row with isPrimary := primary } found.isNone
  else return ()

def reconcileAssignmentRows : AssignmentM Unit := do
  let store ← read
  let rows ← removeOrDemoteOwned provider context endpoint previous desired (ownRows context endpoint store.table)
  desired.items.forM fun item => ensureAssignment provider context endpoint (Dict.ofWrites rows) item.1 item.2

def reconcileEndpointAssignments : AssignmentM Unit := do
  let desired ← raising (desiredAssignments context endpoint)
  let previous ← raising (previousAssignments context endpoint)
  reconcileAssignmentRows provider context endpoint previous desired

end Reconciliation

/-! ### What the writes do -/

section Writes

variable {provider : AssignmentProvider} {context : EndpointMaterialContext} {endpoint : CredentialOwner}
  {store : AssignmentStore}
  {value : AssignmentStore → Unit → Prop} {key : AssignmentKey} {row : AssignmentRow}

theorem wp_requireScope {action : String} (h : value store ()) :
    wp (requireScope provider action key) store value fun _ _ => True := by
  rw [requireScope, wp_bind, wp_read, wp_ite]
  exact ⟨fun _ => wp_pure.2 h, fun _ => wp_throw.2 trivial⟩

theorem wp_requireAdd {creating : Bool} (h : value store ()) :
    wp (requireAdd provider creating) store value fun _ _ => True := by
  rw [requireAdd, wp_ite]
  exact ⟨fun _ => wp_throw.2 trivial, fun _ => wp_pure.2 h⟩

theorem wp_requireChange {creating : Bool} (h : value store ()) :
    wp (requireChange provider key creating) store value fun _ _ => True := by
  rw [requireChange, wp_ite]
  exact ⟨fun _ => wp_pure.2 h, fun _ => wp_requireScope h⟩

theorem wp_saveAssignment {creating : Bool} (h : value ⟨store.table.set key row, store.writes ++ [.saved key row]⟩ ()) :
    wp (saveAssignment provider key row creating) store value fun _ _ => True := by
  rw [saveAssignment, wp_bind]
  refine wp_requireAdd ?_
  rw [wp_bind]
  refine wp_requireChange ?_
  rw [wp_bind, wp_read, wp_bind, wp_raising]
  refine ⟨fun _ _ => ?_, fun _ _ => trivial⟩
  rw [wp_bind, wp_write]
  exact wp_requireChange h

theorem wp_deleteAssignment (h : value ⟨store.table.erase key, store.writes ++ [.deleted key]⟩ ()) :
    wp (deleteAssignment provider key) store value fun _ _ => True := by
  rw [deleteAssignment, wp_bind]
  exact wp_requireScope (wp_write.2 h)

/-! ### The first loop -/

variable {previous : List AssignmentSlot} {desired : Dict AssignmentSlot Bool} {table : Dict AssignmentKey AssignmentRow}

theorem mem_ownRows {slot : AssignmentSlot} : (slot, row) ∈ ownRows context endpoint table ↔
    table.get? (context.key endpoint slot) = some row := by
  rw [← Dict.mem_items_iff_get?, ownRows, List.mem_map]
  constructor
  · intro h
    obtain ⟨⟨⟨objectType, objectId, slot'⟩, row'⟩, hmem, hitem⟩ := h
    obtain ⟨hitems, hown⟩ := List.mem_filter.1 hmem
    obtain ⟨rfl, rfl⟩ := of_decide_eq_true hown
    obtain ⟨rfl, rfl⟩ := Prod.mk.inj hitem
    exact hitems
  · intro h
    exact ⟨(context.key endpoint slot, row), List.mem_filter.2 ⟨h, decide_eq_true ⟨rfl, rfl⟩⟩, rfl⟩

theorem nodup_ownRows : ((ownRows context endpoint table).map Prod.fst).Nodup := by
  refine List.Nodup.of_map (context.key endpoint) ?_
  have hkeys : ((ownRows context endpoint table).map Prod.fst).map (context.key endpoint) =
      (table.items.filter fun item =>
        item.1.objectType = context.contentType ∧ item.1.objectId = endpoint.pk).map Prod.fst := by
    rw [ownRows, List.map_map, List.map_map]
    refine List.map_congr_left ?_
    intro item hitem
    obtain ⟨htype, hid⟩ := of_decide_eq_true (List.mem_filter.1 hitem).2
    change AssignmentKey.mk context.contentType endpoint.pk item.1.slot = item.1
    rw [← htype, ← hid]
  rw [hkeys]
  exact table.nodup.sublist (List.filter_sublist.map Prod.fst)

def leftOf (previous : List AssignmentSlot) (desired : Dict AssignmentSlot Bool) (slot : AssignmentSlot) (row : AssignmentRow) :
    Option AssignmentRow :=
  if slot ∉ previous then some row
  else (desired.get? slot).map fun primary => if row.isPrimary && !primary then { row with isPrimary := false } else row

theorem wp_removeOrDemote {value : AssignmentStore → AssignmentSlot × AssignmentRow → Prop} {slot : AssignmentSlot}
    (hrow : store.table.get? (context.key endpoint slot) = some row)
    (h : ∀ after : AssignmentStore, after.table.get? (context.key endpoint slot) = leftOf previous desired slot row →
      (∀ key, key ≠ context.key endpoint slot → after.table.get? key = store.table.get? key) →
      value after (slot, (leftOf previous desired slot row).getD row)) :
    wp (removeOrDemote provider context endpoint previous desired (slot, row)) store value fun _ _ => True := by
  unfold removeOrDemote
  dsimp only
  by_cases hprevious : slot ∈ previous
  · rw [if_neg (not_not.2 hprevious)]
    rw [leftOf, if_neg (not_not.2 hprevious)] at h
    cases hdesired : desired.get? slot with
    | none =>
      rw [hdesired] at h
      dsimp only
      rw [wp_bind]
      refine wp_deleteAssignment (wp_pure.2 (h _ ?_ ?_))
      · rw [Dict.get?_erase, if_pos rfl]
        rfl
      · intro key hkey
        rw [Dict.get?_erase, if_neg hkey]
    | some primary =>
      rw [hdesired] at h
      dsimp only [Option.map_some, Option.getD_some] at h ⊢
      split_ifs at h ⊢ with hdemote
      · rw [wp_bind]
        refine wp_saveAssignment (wp_pure.2 (h _ ?_ ?_))
        · rw [Dict.get?_set, if_pos rfl]
        · intro key hkey
          rw [Dict.get?_set, if_neg hkey]
      · exact wp_pure.2 (h store hrow fun _ _ => rfl)
  · rw [if_pos hprevious]
    rw [leftOf, if_pos hprevious] at h
    exact wp_pure.2 (h store hrow fun _ _ => rfl)

theorem wp_removeOrDemoteOwned {value : AssignmentStore → List (AssignmentSlot × AssignmentRow) → Prop}
    (h : ∀ after : AssignmentStore,
      (∀ slot, after.table.get? (context.key endpoint slot) =
        (store.table.get? (context.key endpoint slot)).bind (leftOf previous desired slot)) →
      (∀ key, (∀ slot, key ≠ context.key endpoint slot) → after.table.get? key = store.table.get? key) →
      value after ((ownRows context endpoint store.table).map fun item =>
        (item.1, (leftOf previous desired item.1 item.2).getD item.2))) :
    wp (removeOrDemoteOwned provider context endpoint previous desired (ownRows context endpoint store.table)) store value
      fun _ _ => True := by
  have hnodup := @nodup_ownRows context endpoint store.table
  refine wp_foldlM (fun done after seen =>
    (seen = done.map fun item => (item.1, (leftOf previous desired item.1 item.2).getD item.2)) ∧
      (∀ item ∈ done, after.table.get? (context.key endpoint item.1) = leftOf previous desired item.1 item.2) ∧
      ∀ key, (∀ item ∈ done, key ≠ context.key endpoint item.1) → after.table.get? key = store.table.get? key) ?_ ?_ ?_
  · exact ⟨rfl, fun _ hitem => absurd hitem List.not_mem_nil, fun _ _ => rfl⟩
  · intro done item rest hrows after seen hinv
    obtain ⟨rfl, hdone, hrest⟩ := hinv
    obtain ⟨slot, row⟩ := item
    have hfresh : ∀ item ∈ done, item.1 ≠ slot := by
      rw [hrows, List.map_append, List.map_cons] at hnodup
      intro item hitem hsame
      exact (List.disjoint_of_nodup_append hnodup (List.mem_map_of_mem hitem)) (hsame ▸ List.mem_cons_self)
    have hkey {left right : AssignmentSlot} (hne : left ≠ right) : context.key endpoint left ≠ context.key endpoint right :=
      fun hsame => hne (AssignmentKey.mk.inj hsame).2.2
    have hrow : store.table.get? (context.key endpoint slot) = some row :=
      mem_ownRows.1 (hrows ▸ List.mem_append_right _ List.mem_cons_self)
    rw [wp_bind]
    refine wp_removeOrDemote (by rw [hrest _ fun item hitem => (hkey (hfresh item hitem)).symm, hrow]) ?_
    intro state hslot hothers
    refine wp_pure.2 ⟨by rw [List.map_append]; rfl, ?_, ?_⟩
    · intro item hitem
      rcases List.mem_append.1 hitem with hitem | hitem
      · rw [hothers _ (hkey (hfresh item hitem)), hdone item hitem]
      · obtain rfl := List.mem_singleton.1 hitem
        exact hslot
    · intro key hne
      have hlast : key ≠ context.key endpoint slot := hne (slot, row) (List.mem_append_right _ (List.mem_singleton_self _))
      rw [hothers key hlast]
      exact hrest key fun item hitem => hne item (List.mem_append_left _ hitem)
  · intro after seen hinv
    obtain ⟨rfl, hdone, hrest⟩ := hinv
    refine h after ?_ ?_
    · intro slot
      cases hrow : store.table.get? (context.key endpoint slot) with
      | some row => exact hdone (slot, row) (mem_ownRows.2 hrow)
      | none =>
        rw [hrest, hrow]
        · rfl
        · intro item hitem hsame
          have hown := mem_ownRows.1 hitem
          rw [← hsame, hrow] at hown
          cases hown
    · exact fun key hne => hrest key fun item _ => hne item.1

/-! ### The second loop -/

theorem wp_ensureAssignment {indexed : Dict AssignmentSlot AssignmentRow} {slot : AssignmentSlot} {primary : Bool}
    (hindexed : indexed.get? slot = store.table.get? (context.key endpoint slot))
    (h : ∀ after : AssignmentStore,
      (∃ row, after.table.get? (context.key endpoint slot) = some row ∧ row.isPrimary = primary ∧ row.enabled = true) →
      (∀ key, key ≠ context.key endpoint slot → after.table.get? key = store.table.get? key) → value after ()) :
    wp (ensureAssignment provider context endpoint indexed slot primary) store value fun _ _ => True := by
  unfold ensureAssignment
  dsimp only
  generalize hrow : (indexed.get? slot).getD ⟨primary, provider.enabledByDefault⟩ = row
  split_ifs with henabled hsave
  · exact wp_throw.2 trivial
  · refine wp_saveAssignment (h _ ⟨{ row with isPrimary := primary }, ?_, rfl, eq_true_of_ne_false henabled⟩ ?_)
    · rw [Dict.get?_set, if_pos rfl]
    · intro key hkey
      rw [Dict.get?_set, if_neg hkey]
  · rw [Bool.or_eq_true, not_or, Option.isNone_iff_eq_none, bne_iff_ne, not_not] at hsave
    obtain ⟨found, hfound⟩ := Option.ne_none_iff_exists'.1 hsave.1
    rw [hfound, Option.getD_some] at hrow
    refine wp_pure.2 (h store ⟨row, ?_, hsave.2, eq_true_of_ne_false henabled⟩ fun _ _ => rfl)
    rw [← hindexed, hfound, hrow]

structure Reconciled (context : EndpointMaterialContext) (endpoint : CredentialOwner) (previous : List AssignmentSlot)
    (desired : Dict AssignmentSlot Bool) (before after : Dict AssignmentKey AssignmentRow) : Prop where
  present : ∀ slot primary, desired.get? slot = some primary →
    ∃ row, after.get? (context.key endpoint slot) = some row ∧ row.isPrimary = primary ∧ row.enabled = true
  removed : ∀ slot ∈ previous, desired.get? slot = none → after.get? (context.key endpoint slot) = none
  kept : ∀ slot, slot ∉ previous → desired.get? slot = none →
    after.get? (context.key endpoint slot) = before.get? (context.key endpoint slot)
  others : ∀ key : AssignmentKey, key.objectType ≠ context.contentType ∨ key.objectId ≠ endpoint.pk → after.get? key =
    before.get? key

theorem get?_indexed {slot : AssignmentSlot} {primary : Bool} (hdesired : desired.get? slot = some primary) :
    (Dict.ofWrites ((ownRows context endpoint table).map fun item =>
        (item.1, (leftOf previous desired item.1 item.2).getD item.2))).get? slot =
      (table.get? (context.key endpoint slot)).bind (leftOf previous desired slot) := by
  have hkeys : ((ownRows context endpoint table).map fun item =>
      (item.1, (leftOf previous desired item.1 item.2).getD item.2)).map Prod.fst =
        (ownRows context endpoint table).map Prod.fst := by
    rw [List.map_map]
    rfl
  have hleft (row : AssignmentRow) : (leftOf previous desired slot row).isSome = true := by
    by_cases hprevious : slot ∈ previous
    · rw [leftOf, if_neg (not_not.2 hprevious), hdesired]
      rfl
    · rw [leftOf, if_pos hprevious]
      rfl
  ext row
  rw [← Dict.mem_items_iff_get?, Dict.items_ofWrites_of_nodup (hkeys ▸ nodup_ownRows), List.mem_map, Option.bind_eq_some_iff]
  constructor
  · intro h
    obtain ⟨⟨slot', found⟩, hfound, hitem⟩ := h
    obtain ⟨rfl, rfl⟩ := Prod.mk.inj hitem
    refine ⟨found, mem_ownRows.1 hfound, ?_⟩
    exact (Option.getD_of_ne_none (Option.isSome_iff_ne_none.1 (hleft found)) _).symm
  · intro h
    obtain ⟨found, hfound, hrow⟩ := h
    exact ⟨(slot, found), mem_ownRows.2 hfound, by rw [hrow]; rfl⟩

theorem wp_reconcileAssignmentRows : wp (reconcileAssignmentRows provider context endpoint previous desired) store
    (fun after _ => Reconciled context endpoint previous desired store.table after.table) fun _ _ => True := by
  rw [reconcileAssignmentRows, wp_bind, wp_read, wp_bind]
  refine wp_removeOrDemoteOwned ?_
  intro owned hslots hothers
  have hkey {left right : AssignmentSlot} (hne : left ≠ right) : context.key endpoint left ≠ context.key endpoint right :=
    fun hsame => hne (AssignmentKey.mk.inj hsame).2.2
  refine wp_forM (fun done after =>
    (∀ item ∈ done, ∃ row, after.table.get? (context.key endpoint item.1) = some row ∧ row.isPrimary = item.2 ∧
      row.enabled = true) ∧
      ∀ key, (∀ item ∈ done, key ≠ context.key endpoint item.1) → after.table.get? key = owned.table.get? key) ?_ ?_ ?_
  · exact ⟨fun _ hitem => absurd hitem List.not_mem_nil, fun _ _ => rfl⟩
  · intro done item rest hitems after hinv
    obtain ⟨hdone, hrest⟩ := hinv
    obtain ⟨slot, primary⟩ := item
    have hdesired : desired.get? slot = some primary :=
      (Dict.mem_items_iff_get? desired slot primary).1 (hitems ▸ List.mem_append_right _ List.mem_cons_self)
    have hfresh : ∀ item ∈ done, item.1 ≠ slot := by
      have hnodup := desired.nodup
      rw [hitems, List.map_append, List.map_cons] at hnodup
      intro item hitem hsame
      exact (List.disjoint_of_nodup_append hnodup (List.mem_map_of_mem hitem)) (hsame ▸ List.mem_cons_self)
    refine wp_ensureAssignment ?_ ?_
    · rw [get?_indexed hdesired, hrest _ fun item hitem => (hkey (hfresh item hitem)).symm, hslots]
    · intro state hslot hstate
      refine ⟨?_, ?_⟩
      · intro item hitem
        rcases List.mem_append.1 hitem with hitem | hitem
        · rw [hstate _ (hkey (hfresh item hitem))]
          exact hdone item hitem
        · obtain rfl := List.mem_singleton.1 hitem
          exact hslot
      · intro key hne
        rw [hstate key (hne (slot, primary) (List.mem_append_right _ (List.mem_singleton_self _)))]
        exact hrest key fun item hitem => hne item (List.mem_append_left _ hitem)
  · intro after hinv
    obtain ⟨hdone, hrest⟩ := hinv
    have hundesired {slot : AssignmentSlot} (hnone : desired.get? slot = none) :
        after.table.get? (context.key endpoint slot) =
          (store.table.get? (context.key endpoint slot)).bind (leftOf previous desired slot) := by
      rw [hrest, hslots]
      intro item hitem hsame
      have hslot := (AssignmentKey.mk.inj hsame).2.2
      rw [hslot, (Dict.mem_items_iff_get? desired item.1 item.2).1 hitem] at hnone
      cases hnone
    constructor
    · intro slot primary hdesired
      exact hdone (slot, primary) ((Dict.mem_items_iff_get? desired slot primary).2 hdesired)
    · intro slot hprevious hnone
      rw [hundesired hnone, Option.bind_eq_none_iff]
      intro row _
      rw [leftOf, if_neg (not_not.2 hprevious), hnone]
      rfl
    · intro slot hprevious hnone
      rw [hundesired hnone]
      have hleft : leftOf previous desired slot = some := by
        funext row
        rw [leftOf, if_pos hprevious]
      rw [hleft]
      cases store.table.get? (context.key endpoint slot) <;> rfl
    · intro key hother
      have hne (slot : AssignmentSlot) : key ≠ context.key endpoint slot := by
        rintro rfl
        rcases hother with htype | hid
        · exact htype rfl
        · exact hid rfl
      rw [hrest key fun item _ => hne item.1, hothers key hne]

/-! ### Repetition -/

theorem wp_reconcileAssignmentRows_idle
    (hpresent : ∀ slot primary, desired.get? slot = some primary →
      ∃ row, store.table.get? (context.key endpoint slot) = some row ∧ row.isPrimary = primary ∧ row.enabled = true)
    (habsent : ∀ slot ∈ previous, desired.get? slot = none → store.table.get? (context.key endpoint slot) = none) :
    wp (reconcileAssignmentRows provider context endpoint previous desired) store
      (fun after _ => after = store) fun _ _ => False := by
  have hidle : ∀ item ∈ ownRows context endpoint store.table,
      removeOrDemote provider context endpoint previous desired item = pure item := by
    intro item hitem
    have hrow := mem_ownRows.1 hitem
    unfold removeOrDemote
    by_cases hprevious : item.1 ∈ previous
    · rw [if_neg (not_not.2 hprevious)]
      cases hdesired : desired.get? item.1 with
      | none =>
        rw [habsent _ hprevious hdesired] at hrow
        cases hrow
      | some primary =>
        obtain ⟨row, hfound, hprimary, -⟩ := hpresent _ _ hdesired
        obtain rfl := Option.some.inj (hrow.symm.trans hfound)
        dsimp only
        rw [hprimary, Bool.and_not_self, if_neg Bool.false_ne_true]
    · rw [if_pos hprevious]
  rw [reconcileAssignmentRows, wp_bind, wp_read, wp_bind]
  refine wp_foldlM (fun done after seen => after = store ∧ seen = done) ⟨rfl, rfl⟩ ?_ ?_
  · intro done item rest hrows after seen hinv
    obtain ⟨rfl, rfl⟩ := hinv
    rw [hidle item (hrows ▸ List.mem_append_right _ List.mem_cons_self), wp_bind]
    exact wp_pure.2 (wp_pure.2 ⟨rfl, rfl⟩)
  · intro after seen hinv
    obtain ⟨rfl, rfl⟩ := hinv
    refine wp_forM (fun _ state => state = after) rfl ?_ fun _ h => h
    intro done item rest hitems state hstate
    obtain ⟨slot, primary⟩ := item
    obtain ⟨row, hrow, hprimary, henabled⟩ :=
      hpresent slot primary ((Dict.mem_items_iff_get? desired slot primary).1 (hitems ▸ List.mem_append_right _
        List.mem_cons_self))
    have hindexed : (Dict.ofWrites (ownRows context endpoint after.table)).get? slot = some row := by
      rw [← Dict.mem_items_iff_get?, Dict.items_ofWrites_of_nodup nodup_ownRows]
      exact mem_ownRows.2 hrow
    rw [ensureAssignment]
    dsimp only
    rw [hindexed, Option.getD_some, henabled, hprimary, if_neg (Bool.noConfusion : ¬true = false), Option.isNone_some,
      bne_self_eq_false, Bool.or_self,
      if_neg Bool.false_ne_true]
    exact wp_pure.2 hstate

theorem exists_referencedSlots {slots : List CredentialSlot} {init : Dict AssignmentSlot Bool}
    (h : slots.foldlM (desireSlot context endpoint) init = .ok desired) :
    (∃ found, slots.mapM (referencedSlot context endpoint) = .ok found ∧
        ∀ slot ∈ found.filterMap id, ∃ primary, desired.get? slot = some primary) ∧
      ∀ slot, (∃ primary, init.get? slot = some primary) → ∃ primary, desired.get? slot = some primary := by
  induction slots generalizing init with
  | nil =>
    obtain rfl := Except.ok.inj h
    exact ⟨⟨[], rfl, fun _ hslot => absurd hslot List.not_mem_nil⟩, fun _ => id⟩
  | cons slot slots ih =>
    rw [List.foldlM_cons] at h
    obtain ⟨next, hnext, hrest⟩ := bind_eq_ok.1 h
    obtain ⟨⟨found, hfound, hslots⟩, hkept⟩ := ih hrest
    obtain ⟨credential, hcredential, hnext⟩ := bind_eq_ok.1 hnext
    have hfirst : referencedSlot context endpoint slot = .ok (credential.map fun credential =>
        (credential.pk, slot.purpose)) := by
      rw [referencedSlot, hcredential]
      rfl
    have hmapM : (slot :: slots).mapM (referencedSlot context endpoint) =
        .ok ((credential.map fun credential => (credential.pk, slot.purpose)) :: found) := by
      rw [List.mapM_cons, hfirst, hfound]
      rfl
    cases credential with
    | none =>
      obtain rfl := Except.ok.inj hnext
      exact ⟨⟨_, hmapM, hslots⟩, hkept⟩
    | some credential =>
      obtain ⟨primary, -, hnext⟩ := bind_eq_ok.1 hnext
      obtain rfl := Except.ok.inj hnext
      refine ⟨⟨_, hmapM, ?_⟩, ?_⟩
      · intro other hother
        rcases List.mem_cons.1 hother with rfl | hother
        · exact hkept _ ⟨primary, by rw [Dict.get?_set, if_pos rfl]⟩
        · exact hslots other hother
      · intro other hother
        refine hkept other ?_
        rw [Dict.get?_set]
        split_ifs
        · exact ⟨primary, rfl⟩
        · exact hother

theorem referencedSlots_of_desired (h : desiredAssignments context endpoint = .ok desired) :
    ∃ slots, referencedSlots context endpoint = .ok slots ∧ ∀ slot ∈ slots, ∃ primary, desired.get? slot = some primary := by
  obtain ⟨⟨found, hfound, hslots⟩, -⟩ := exists_referencedSlots h
  refine ⟨found.filterMap id, ?_, hslots⟩
  rw [referencedSlots, hfound]
  rfl

/-- A reconciliation that returns leaves what is desired and what was never referred to. To repeat it writes
nothing. -/
theorem assignments_reconciled (provider : AssignmentProvider) (context : EndpointMaterialContext) (endpoint : CredentialOwner)
    (store : AssignmentStore) (h : raisedBy (reconcileEndpointAssignments provider context endpoint) store = none) :
    ∃ desired previous, desiredAssignments context endpoint = .ok desired ∧ previousAssignments context endpoint =
      .ok previous ∧
      Reconciled context endpoint previous desired store.table (reconcileEndpointAssignments provider context endpoint
        store).2.table ∧
      ∀ endpoints : Dict Nat CredentialOwner,
        endpoints.get? endpoint.pk = context.endpoints.get? endpoint.pk ∨ endpoints.get? endpoint.pk = some endpoint →
        let after := (reconcileEndpointAssignments provider context endpoint store).2
        raisedBy (reconcileEndpointAssignments provider { context with endpoints } endpoint) after = none ∧
          (reconcileEndpointAssignments provider { context with endpoints } endpoint after).2 = after := by
  have hrun : wp (reconcileEndpointAssignments provider context endpoint) store
      (fun after _ => ∃ desired previous, desiredAssignments context endpoint = .ok desired ∧
        previousAssignments context endpoint = .ok previous ∧
          Reconciled context endpoint previous desired store.table after.table)
      fun _ _ => True := by
    rw [reconcileEndpointAssignments, wp_bind, wp_raising]
    refine ⟨fun desired hdesired => ?_, fun _ _ => trivial⟩
    rw [wp_bind, wp_raising]
    refine ⟨fun previous hprevious => ?_, fun _ _ => trivial⟩
    exact wp_mono wp_reconcileAssignmentRows (fun _ _ hreconciled => ⟨desired, previous, hdesired, hprevious, hreconciled⟩)
      fun _ _ h => h
  obtain ⟨desired, previous, hdesired, hprevious, hreconciled⟩ :=
    @wp_run _ _ _ (reconcileEndpointAssignments provider context endpoint) store
    (fun after raised => raised = none → ∃ desired previous, desiredAssignments context endpoint = .ok desired ∧
      previousAssignments context endpoint = .ok previous ∧
        Reconciled context endpoint previous desired store.table after.table)
    (wp_mono hrun (fun _ _ h _ => h) fun _ _ _ h => absurd h (Option.some_ne_none _)) h
  refine ⟨desired, previous, hdesired, hprevious, hreconciled, ?_⟩
  intro endpoints hendpoints after
  -- The previous references of the repetition are among the old ones and the desired ones.
  obtain ⟨slots, hslots, hknown⟩ : ∃ slots, previousAssignments { context with endpoints } endpoint = .ok slots ∧
      ∀ slot ∈ slots, slot ∈ previous ∨ ∃ primary, desired.get? slot = some primary := by
    rcases hendpoints with hsame | hnow
    · refine ⟨previous, ?_, fun _ hslot => .inl hslot⟩
      rw [← hprevious, previousAssignments, previousAssignments]
      dsimp only
      rw [hsame]
      rfl
    · obtain ⟨slots, hslots, hmem⟩ := referencedSlots_of_desired hdesired
      refine ⟨slots, ?_, fun slot hslot => .inr (hmem slot hslot)⟩
      rw [previousAssignments]
      dsimp only
      rw [hnow]
      exact hslots
  have hidle : wp (reconcileEndpointAssignments provider { context with endpoints } endpoint) after
      (fun state _ => state = after)
      fun _ _ => False := by
    rw [reconcileEndpointAssignments, wp_bind, wp_raising]
    have hagain : desiredAssignments { context with endpoints } endpoint = .ok desired := hdesired
    refine ⟨fun found hfound => ?_, fun _ hfailed => by rw [hagain] at hfailed; cases hfailed⟩
    obtain rfl := Except.ok.inj (hagain.symm.trans hfound)
    rw [wp_bind, wp_raising]
    refine ⟨fun found hfound => ?_, fun _ hfailed => by rw [hslots] at hfailed; cases hfailed⟩
    obtain rfl := Except.ok.inj (hslots.symm.trans hfound)
    refine wp_reconcileAssignmentRows_idle hreconciled.present fun slot hslot hnone => ?_
    rcases hknown slot hslot with hold | ⟨primary, hprimary⟩
    · exact hreconciled.removed slot hold hnone
    · rw [hnone] at hprimary
      cases hprimary
  exact @wp_run _ _ _ _ after (fun state raised => raised = none ∧ state = after)
    (wp_mono hidle (fun _ _ h => ⟨rfl, h⟩) fun _ _ h => h.elim)

/-- The password of the endpoint is replaced by another credential. -/
theorem assignments_reconciled_replaced :
    let provider : AssignmentProvider := ⟨true, fun _ _ _ => true, fun _ _ _ => .ok (), true⟩
    let owner (reference : String) : CredentialOwner := ⟨1, fun slot => if slot = .password then some reference else none,
      "dedicated", "key"⟩
    let context : EndpointMaterialContext :=
      ⟨Dict.ofWrites [(1, owner "old")], Dict.ofWrites [("old", ⟨9, "password"⟩), ("new", ⟨10, "password"⟩)], 5⟩
    let store : AssignmentStore := ⟨Dict.ofWrites [(⟨5, 1, (9, "login")⟩, ⟨true, true⟩),
      (⟨5, 1, (7, "other")⟩, ⟨false, true⟩)], []⟩
    raisedBy (reconcileEndpointAssignments provider context (owner "new")) store = none ∧
      ∃ desired previous, Reconciled context (owner "new") previous desired store.table
        (reconcileEndpointAssignments provider context (owner "new") store).2.table := by
  intro provider owner context store
  have hreturns : raisedBy (reconcileEndpointAssignments provider context (owner "new")) store = none := by decide +kernel
  obtain ⟨desired, previous, -, -, hreconciled, -⟩ := assignments_reconciled provider context (owner "new") store hreturns
  exact ⟨hreturns, desired, previous, hreconciled⟩

end Writes

end Proxbox
