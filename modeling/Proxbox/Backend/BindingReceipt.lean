import Proxbox.Library.Interleaving
import Proxbox.Library.Text
/-!
# The receipt of a managed SSH binding

Pushes of one Proxmox endpoint side by side, as programs over the receipt in the database and the rows the
backend has for the endpoint. A push records the digest of a binding before it sends it, and erases the receipt
it has read after a request that clears the binding. A request takes effect or not, and its reply may be lost.
-/

namespace Proxbox

open Python Interleaving

/-! ### The pushes -/

abbrev Digest := { text : String // text ≠ "" }

inductive BindingKeys where
  | absent
  | cleared
  | complete (digest : Digest)

structure RequestFailure where
  detail : String
  httpStatus : Option Nat

inductive ListingError where
  | failed (failure : RequestFailure)
  | unreadable (text : String)
  | notAList

abbrev Listing := Except ListingError (List Nat)

inductive BindingCommand where
  | load (existingEndpoints : Option (List Nat))
  | confirm (id : Nat)
  | list
  | put (id : Nat) (keys : BindingKeys)
  | post (keys : BindingKeys)
  | record (digest : Digest)
  | erase (expected : String)

abbrev BindingCommand.Reply : BindingCommand → Type
  | .load _ => String
  | .confirm _ => Except String Bool
  | .list => Listing
  | .put .. | .post _ => Except RequestFailure Unit
  | .record _ => Except String Unit
  | .erase _ => Unit

abbrev BindingProgram := Program BindingCommand BindingCommand.Reply

def access (command : BindingCommand) : BindingProgram command.Reply := .issue command .done

structure PushResult where
  ok : Bool
  detail : Option String
  httpStatus : Option Nat

/-- An endpoint and how its push is called. `approvedLater` is the approval as it is read again. -/
structure ProxmoxPush where
  pk : Nat
  disabledDetail : Option String
  allowDisabledPolicyUpdate : Bool
  existingEndpoints : Option (List Nat)
  approved : Bool
  approvedLater : Bool
  cachedId : Option Nat
  binding : Option Digest

def refused (detail : String) (httpStatus : Option Nat) : PushResult := ⟨false, some detail, httpStatus⟩

def succeeded : PushResult := ⟨true, none, none⟩

def disableRows : List Nat → BindingProgram (List String)
  | [] => return []
  | id :: rest => do
      let reply ← access (.put id .absent)
      let failures ← disableRows rest
      return match reply with
        | .ok () => failures
        | .error failure => ("backend row " ++ toString id ++ ": " ++ failure.detail) :: failures

def revokeDuplicateProxmoxRows (pk : Nat) (matchingRows : List Nat) : BindingProgram PushResult := do
  let revocationFailures ← disableRows matchingRows
  let failureDetail := if revocationFailures = [] then " All identifiable rows were disabled."
    else " Revocation failed for " ++ "; ".intercalate revocationFailures ++ "."
  return refused ("Multiple ProxBox backend rows claim immutable identity nb:" ++ toString pk ++
    "; every identifiable row was attempted and operator cleanup is required." ++ failureDetail) none

def listed (existingEndpoints : Option (List Nat)) : BindingProgram Listing :=
  match existingEndpoints with
  | some ids => return .ok ids
  | none => access .list

def eraseAfter (receipt : String) (result : PushResult) : BindingProgram PushResult := do
  access (.erase receipt)
  return result

def revokeManagedCloudImageBinding (push : ProxmoxPush) (receipt : String) : BindingProgram PushResult := do
  if receipt = "" then return refused "Connection target approval is missing or stale." none
  else do
    match ← listed push.existingEndpoints with
    | .error (.failed failure) => return refused ("Failed to revoke managed SSH binding: " ++ failure.detail) failure.httpStatus
    | .error (.unreadable text) => return refused ("Failed to revoke managed SSH binding: " ++ text) none
    | .error .notAList => return refused "ProxBox backend returned invalid endpoint list payload." none
    | .ok [] => return refused "Connection target approval is missing or stale." none
    | .ok [id] => do
        match ← access (.put id .cleared) with
        | .error failure => return refused ("Failed to revoke managed SSH binding: " ++ failure.detail) failure.httpStatus
        | .ok () =>
          eraseAfter receipt (refused "The managed SSH binding was revoked; the full update requires connection approval." none)
    | .ok ids => revokeDuplicateProxmoxRows push.pk ids

def syncFailed (failure : RequestFailure) : PushResult :=
  refused ("Failed to sync Proxmox endpoint to ProxBox backend: " ++ failure.detail) failure.httpStatus

def updateDisabledProxmoxPolicy (existing : Option Nat) (bindingReceipt : String) : BindingProgram PushResult :=
  match existing with
  | none => return succeeded
  | some id => do
      match ← access (.put id (if bindingReceipt = "" then .absent else .cleared)) with
      | .error failure => return syncFailed failure
      | .ok () => if bindingReceipt = "" then return succeeded else eraseAfter bindingReceipt succeeded

def send (existing : Option Nat) (keys : BindingKeys) : BindingProgram (Except RequestFailure Unit) :=
  match existing with
  | some id => access (.put id keys)
  | none => access (.post keys)

/-- `_send_approved_proxmox_payload`, with the binding keys of the payload. -/
def sendApprovedProxmoxPayload (existing : Option Nat) (bindingReceipt : String) :
    BindingKeys → BindingProgram PushResult
  | .complete digest => do
      match ← access (.record digest) with
      | .error text => return refused text none
      | .ok () => do
        match ← send existing (.complete digest) with
        | .error failure => return syncFailed failure
        | .ok () => return succeeded
  | .absent => do
      match ← send existing .absent with
      | .error failure => return syncFailed failure
      | .ok () => return succeeded
  | .cleared => do
      match ← send existing .cleared with
      | .error failure => return syncFailed failure
      | .ok () => if bindingReceipt = "" then return succeeded else eraseAfter bindingReceipt succeeded

/-- `_cloud_image_ssh_binding`: keys are cleared only where a binding is managed. -/
def ProxmoxPush.bindingKeys (push : ProxmoxPush) (bindingReceipt : String) : BindingKeys :=
  match push.binding with
  | some digest => .complete digest
  | none => if bindingReceipt = "" then .absent else .cleared

def cachedRow (push : ProxmoxPush) : BindingProgram (Except String Bool) :=
  match push.disabledDetail, push.existingEndpoints, push.cachedId with
  | none, none, some id => access (.confirm id)
  | _, _, _ => return .ok false

def pushToRows (push : ProxmoxPush) (bindingReceipt : String) (existing : Option Nat) :
    BindingProgram PushResult :=
  if push.disabledDetail.isSome then updateDisabledProxmoxPolicy existing bindingReceipt
  else if push.approvedLater then sendApprovedProxmoxPayload existing bindingReceipt
    (push.bindingKeys bindingReceipt)
  else revokeManagedCloudImageBinding push bindingReceipt

def pushListed (push : ProxmoxPush) (bindingReceipt : String) : BindingProgram PushResult := do
  match ← listed push.existingEndpoints with
  | .error (.failed failure) => return syncFailed failure
  | .error (.unreadable text) => return refused ("Failed to sync Proxmox endpoint to ProxBox backend: " ++ text) none
  | .error .notAList => return refused "ProxBox backend returned invalid endpoint list payload." none
  | .ok [] => pushToRows push bindingReceipt none
  | .ok [id] => pushToRows push bindingReceipt (some id)
  | .ok ids => revokeDuplicateProxmoxRows push.pk ids

def pushUnlessCached (push : ProxmoxPush) (bindingReceipt : String) : Except String Bool →
    BindingProgram PushResult
  | .error text => return refused text none
  | .ok true => return succeeded
  | .ok false => pushListed push bindingReceipt

def syncProxmoxEndpointToBackend (push : ProxmoxPush) : BindingProgram PushResult := do
  let bindingReceipt := strip (← access (.load push.existingEndpoints))
  if push.disabledDetail.isSome && !push.allowDisabledPolicyUpdate then return ⟨false, push.disabledDetail, none⟩
  else if push.disabledDetail.isNone && !push.approved then revokeManagedCloudImageBinding push bindingReceipt
  else do
    let cached ← cachedRow push
    pushUnlessCached push bindingReceipt cached

/-! ### The receipt and the rows -/

structure BackendRow where
  id : Nat
  binding : Option Digest

structure BindingStore where
  receipt : String
  rows : List BackendRow

structure BindingChoice where
  applied : Bool
  failure : Option RequestFailure
  nextId : Nat
  confirmed : Bool
  listing : Option ListingError

def BindingKeys.apply (binding : Option Digest) : BindingKeys → Option Digest
  | .absent => binding
  | .cleared => none
  | .complete digest => some digest

def answered (choice : BindingChoice) (applied : Bool) : Except RequestFailure Unit :=
  match applied, choice.failure with
  | true, none => .ok ()
  | _, some failure => .error failure
  | false, none => .error ⟨"", none⟩

namespace BindingStore

variable (store : BindingStore)

def ids : List Nat := store.rows.map BackendRow.id

def put (id : Nat) (keys : BindingKeys) : BindingStore :=
  { store with rows := store.rows.map fun row => if row.id = id then { row with binding := keys.apply row.binding } else row }

def post (id : Nat) (keys : BindingKeys) : BindingStore :=
  { store with rows := store.rows ++ [⟨id, keys.apply none⟩] }

def exec (choice : BindingChoice) : (command : BindingCommand) → command.Reply × BindingStore
  | .load _ => (store.receipt, store)
  | .confirm _ =>
    (match choice.failure with | some failure => .error failure.detail | none => .ok choice.confirmed, store)
  | .list => (match choice.listing with | some error => .error error | none => .ok store.ids, store)
  | .put id keys =>
    let applied := choice.applied && store.ids.contains id
    (answered choice applied, if applied then store.put id keys else store)
  | .post keys =>
    let applied := choice.applied && !store.ids.contains choice.nextId
    (answered choice applied, if applied then store.post choice.nextId keys else store)
  | .record digest =>
    match choice.failure with
    | some failure => (.error failure.detail, store)
    | none => (.ok (), { store with receipt := digest.1 })
  | .erase expected => ((), if choice.failure.isNone && store.receipt = expected then
      { store with receipt := "" } else store)

/-- A row may hold a binding only while there is a receipt. -/
def Receipted : Prop := ∀ row ∈ store.rows, row.binding ≠ none → store.receipt ≠ ""

end BindingStore

/-- What a push has read, was told, has done, and has yet to do. -/
structure BindingView where
  receipt : String
  listed : Option (List Nat)
  cleared : Bool
  recorded : Bool
  sending : Bool

namespace BindingView

variable (view : BindingView)

def requested : BindingKeys → Except RequestFailure Unit → BindingView
  | .cleared, .ok () => { view with cleared := true }
  | .complete _, _ => { view with sending := false }
  | _, _ => view

def next : (command : BindingCommand) → command.Reply → BindingView
  | .load existingEndpoints, receipt => { view with receipt := strip receipt, listed := existingEndpoints }
  | .list, .ok ids => { view with listed := some ids }
  | .put _ keys, reply => view.requested keys reply
  | .post keys, reply => view.requested keys reply
  | .record _, .ok () => { view with recorded := true, sending := true }
  | _, _ => view

def MayErase : Prop := view.receipt ≠ "" ∧ view.recorded = false

instance : Decidable view.MayErase := inferInstanceAs (Decidable (_ ∧ _))

end BindingView

def pushes : System ProxmoxPush BindingChoice BindingStore BindingView BindingCommand BindingCommand.Reply where
  program push := (syncProxmoxEndpointToBackend push).bind fun _ => .done ()
  exec := BindingStore.exec
  unseen := ⟨"", none, false, false, false⟩
  next := BindingView.next

abbrev PushThread := Thread BindingView BindingCommand BindingCommand.Reply

abbrev PushesUnderWay := Config BindingStore BindingView BindingCommand BindingCommand.Reply

def underWay (thread : PushThread) : Bool :=
  match thread.program with
  | .issue .. => true
  | .done _ => false

/-- A push starts while no other is about to send what it has recorded; it records while no other that has read
a receipt is under way. -/
def InTurn (config : PushesUnderWay) : Move ProxmoxPush BindingChoice → Prop
  | .start _ => True
  | .step index _ =>
    match config.threads[index]? with
    | some ⟨_, .issue (.load existingEndpoints) _⟩ =>
        (∀ ids ∈ existingEndpoints, ∀ row ∈ config.store.rows, row.id ∈ ids) ∧
        ∀ other ∈ config.threads.eraseIdx index, other.view.sending = false
    | some ⟨_, .issue (.record _) _⟩ => ∀ other ∈ config.threads.eraseIdx index,
        ¬(underWay other = true ∧ other.view.MayErase)
    | _ => True

/-! ### What a push does -/

namespace BindingView

def allows (view : BindingView) : BindingCommand → Prop
  | .load _ => view = pushes.unseen
  | .put id .cleared => view.listed = some [id]
  | .post .cleared => view.listed = some []
  | .put _ (.complete _) | .post (.complete _) => view.sending = true ∧ view.recorded = true
  | .erase _ => view.cleared = true ∧ view.MayErase ∧ view.sending = false
  | _ => True

end BindingView

section Programs

variable {α β : Type} {view : BindingView} {receipt : String}

def Guarded (program : BindingProgram α) (view : BindingView) :
    Prop := program.wp BindingView.next BindingView.allows view fun _ _ => True

theorem guarded_bind {program : BindingProgram α} {f : α → BindingProgram β}
    (h : program.wp BindingView.next BindingView.allows view fun view value => Guarded (f value) view) :
      Guarded (program >>= f) view :=
  (Program.wp_bind _ _ _ _).2 h

theorem wp_disableRows (ids : List Nat) :
    (disableRows ids).wp BindingView.next BindingView.allows view fun after _ => after = view := by
  induction ids with
  | nil => rfl
  | cons id rest ih =>
    refine ⟨trivial, fun reply => ?_⟩
    refine (Program.wp_bind (disableRows rest) _ _ _).2 (Program.wp_mono ?_ ih)
    intro after failures hafter
    exact hafter

theorem guarded_revokeDuplicateProxmoxRows (pk : Nat) (ids : List Nat) :
    Guarded (revokeDuplicateProxmoxRows pk ids) view :=
  guarded_bind (Program.wp_mono (fun _ _ _ => trivial) (wp_disableRows ids))

structure BindingView.Reads (view : BindingView) (push : ProxmoxPush) (receipt : String) : Prop where
  receipt : view.receipt = receipt
  recorded : view.recorded = false
  sending : view.sending = false
  listed : ∀ ids, push.existingEndpoints = some ids → view.listed = some ids

variable {push : ProxmoxPush}

theorem guarded_listed {f : Listing → BindingProgram β} (hreads : view.Reads push receipt)
    (h : ∀ (after : BindingView) reply, after.Reads push receipt →
      (∀ ids, reply = .ok ids → after.listed = some ids) →
      Guarded (f reply) after) :
    Guarded (listed push.existingEndpoints >>= f) view := by
  apply guarded_bind
  cases hgiven : push.existingEndpoints with
  | some ids =>
    refine h view (.ok ids) hreads ?_
    rintro _ ⟨⟩
    exact hreads.listed ids hgiven
  | none =>
    have hlisted (ids : List Nat) (listing : Option (List Nat)) : push.existingEndpoints = some ids →
        listing = some ids := by
      rw [hgiven]
      exact fun h => absurd h (Option.some_ne_none _).symm
    refine ⟨trivial, fun reply => ?_⟩
    cases reply with
    | ok ids =>
      refine h { view with listed := some ids } (.ok ids) ⟨hreads.receipt, hreads.recorded, hreads.sending,
        fun _ => hlisted _ _⟩ ?_
      rintro _ ⟨⟩
      rfl
    | error error =>
      refine h view (.error error) hreads ?_
      rintro _ ⟨⟩

theorem guarded_eraseAfter {result : PushResult} (hreads : view.Reads push receipt)
    (hcleared : view.cleared = true) (hreceipt : receipt ≠ "") :
    Guarded (eraseAfter receipt result) view :=
  ⟨⟨hcleared, ⟨hreads.receipt ▸ hreceipt, hreads.recorded⟩, hreads.sending⟩, fun _ => trivial⟩

theorem guarded_access {command : BindingCommand} {f : command.Reply → BindingProgram β}
    (hallows : view.allows command)
    (h : ∀ reply, Guarded (f reply) (view.next command reply)) : Guarded (access command >>= f) view :=
  guarded_bind ⟨hallows, h⟩

theorem guarded_revokeManagedCloudImageBinding (hreads : view.Reads push receipt) :
    Guarded (revokeManagedCloudImageBinding push receipt) view := by
  unfold revokeManagedCloudImageBinding
  split_ifs with hreceipt
  · trivial
  · refine guarded_listed hreads fun after reply hafter hlisted => ?_
    rcases reply with (failure | text | _) | _ | ⟨id, _ | ⟨second, rest⟩⟩
    · trivial
    · trivial
    · trivial
    · trivial
    · refine guarded_access (hlisted _ rfl) fun reply => ?_
      cases reply with
      | error failure => trivial
      | ok done =>
        exact guarded_eraseAfter ⟨hafter.receipt, hafter.recorded, hafter.sending, hafter.listed⟩ rfl hreceipt
    · exact guarded_revokeDuplicateProxmoxRows _ _

theorem guarded_updateDisabledProxmoxPolicy {existing : Option Nat} (hreads : view.Reads push receipt)
    (hlisted : view.listed = some existing.toList) :
      Guarded (updateDisabledProxmoxPolicy existing receipt) view := by
  cases existing with
  | none => trivial
  | some id =>
    by_cases hreceipt : receipt = ""
    · subst hreceipt
      refine guarded_access trivial fun reply => ?_
      cases reply with
      | error failure => trivial
      | ok done => trivial
    · unfold updateDisabledProxmoxPolicy
      rw [if_neg hreceipt]
      refine guarded_access hlisted fun reply => ?_
      cases reply with
      | error failure => trivial
      | ok done =>
        rw [if_neg hreceipt]
        exact guarded_eraseAfter ⟨hreads.receipt, hreads.recorded, hreads.sending, hreads.listed⟩ rfl hreceipt

theorem guarded_send {existing : Option Nat} {keys : BindingKeys} {f : Except RequestFailure Unit →
    BindingProgram β}
    (hput : ∀ id, existing = some id → view.allows (.put id keys))
      (hpost : existing = none → view.allows (.post keys))
    (h : ∀ reply, Guarded (f reply) (view.requested keys reply)) : Guarded (send existing keys >>= f) view := by
  cases existing with
  | none => exact guarded_access (hpost rfl) h
  | some id => exact guarded_access (hput id rfl) h

theorem guarded_sendApprovedProxmoxPayload {existing : Option Nat} (hreads : view.Reads push receipt)
    (hlisted : view.listed = some existing.toList) :
    Guarded (sendApprovedProxmoxPayload existing receipt (push.bindingKeys receipt)) view := by
  cases hkeys : push.bindingKeys receipt with
  | complete digest =>
    refine guarded_access trivial fun reply => ?_
    cases reply with
    | error text => trivial
    | ok done =>
      refine guarded_send (fun _ _ => ⟨rfl, rfl⟩) (fun _ => ⟨rfl, rfl⟩) fun reply => ?_
      cases reply with
      | error failure => trivial
      | ok done => trivial
  | absent =>
    refine guarded_send (fun _ _ => trivial) (fun _ => trivial) fun reply => ?_
    cases reply with
    | error failure => trivial
    | ok done => trivial
  | cleared =>
    have hput (id : Nat) (hexisting : existing = some id) : view.listed = some [id] := by
      rw [hlisted, hexisting]; rfl
    have hpost (hexisting : existing = none) : view.listed = some [] := by rw [hlisted, hexisting]; rfl
    refine guarded_send hput hpost fun reply => ?_
    cases reply with
    | error failure => trivial
    | ok done =>
      dsimp only
      split_ifs with hreceipt
      · trivial
      · exact guarded_eraseAfter ⟨hreads.receipt, hreads.recorded, hreads.sending, hreads.listed⟩ rfl hreceipt

theorem guarded_pushToRows {existing : Option Nat} (hreads : view.Reads push receipt)
    (hlisted : view.listed = some existing.toList) :
    Guarded (pushToRows push receipt existing) view := by
  unfold pushToRows
  split_ifs
  · exact guarded_updateDisabledProxmoxPolicy hreads hlisted
  · exact guarded_sendApprovedProxmoxPayload hreads hlisted
  · exact guarded_revokeManagedCloudImageBinding hreads

theorem guarded_pushListed (hreads : view.Reads push receipt) : Guarded (pushListed push receipt) view := by
  refine guarded_listed hreads fun after reply hafter hlisted => ?_
  rcases reply with (failure | text | _) | _ | ⟨id, _ | ⟨second, rest⟩⟩
  · trivial
  · trivial
  · trivial
  · exact guarded_pushToRows hafter (hlisted _ rfl)
  · exact guarded_pushToRows hafter (hlisted _ rfl)
  · exact guarded_revokeDuplicateProxmoxRows _ _

theorem guarded_syncProxmoxEndpointToBackend (push : ProxmoxPush) :
    Guarded (syncProxmoxEndpointToBackend push) pushes.unseen := by
  refine guarded_access rfl fun receipt => ?_
  have hreads : (pushes.unseen.next (.load push.existingEndpoints) receipt).Reads push (strip receipt) :=
    ⟨rfl, rfl, rfl, fun _ h => h⟩
  split_ifs
  · trivial
  · exact guarded_revokeManagedCloudImageBinding hreads
  · have hcached (reply : Except String Bool) (view : BindingView) (hview : view.Reads push (strip receipt)) :
        Guarded (pushUnlessCached push (strip receipt) reply) view := by
      rcases reply with text | _ | _
      · trivial
      · exact guarded_pushListed hview
      · trivial
    apply guarded_bind
    unfold cachedRow
    split
    · exact ⟨trivial, fun reply => hcached reply _ hreads⟩
    · exact hcached (.ok false) _ hreads

end Programs

/-! ### Pushes in turn -/

/-- What a push under way knows is so, and a binding that is to be sent has a receipt. -/
structure KnownBinding (store : BindingStore) (thread : PushThread) : Prop where
  listed : underWay thread = true → thread.view.MayErase → ∀ ids, thread.view.listed = some ids →
    ∀ row ∈ store.rows, row.binding ≠ none → row.id ∈ ids
  cleared : underWay thread = true → thread.view.MayErase → thread.view.cleared = true → ∀ row ∈ store.rows,
    row.binding = none
  sending : thread.view.sending = true → store.receipt ≠ ""

structure Fewer (store store' : BindingStore) : Prop where
  rows : ∀ row' ∈ store'.rows, row'.binding ≠ none → ∃ row ∈ store.rows, row.id = row'.id ∧ row.binding ≠ none
  receipt : store.receipt ≠ "" → store'.receipt ≠ ""

section Stores

variable {store store' : BindingStore} {thread : PushThread} {id : Nat}

theorem Fewer.refl (store : BindingStore) : Fewer store store :=
  ⟨fun row hrow hbinding => ⟨row, hrow, rfl, hbinding⟩, fun h => h⟩

theorem KnownBinding.mono (h : KnownBinding store thread) (hfewer : Fewer store store') :
    KnownBinding store' thread := by
  refine ⟨?_, ?_, fun hsending => hfewer.receipt (h.sending hsending)⟩
  · intro hway herase ids hids row' hrow' hbinding'
    obtain ⟨row, hrow, hid, hbinding⟩ := hfewer.rows row' hrow' hbinding'
    rw [← hid]
    exact h.listed hway herase ids hids row hrow hbinding
  · intro hway herase hcleared row' hrow'
    by_contra hbinding'
    obtain ⟨row, hrow, -, hbinding⟩ := hfewer.rows row' hrow' hbinding'
    exact hbinding (h.cleared hway herase hcleared row hrow)

theorem BindingStore.Receipted.mono (h : store.Receipted) (hfewer : Fewer store store') : store'.Receipted := by
  intro row' hrow' hbinding'
  obtain ⟨row, hrow, -, hbinding⟩ := hfewer.rows row' hrow' hbinding'
  exact hfewer.receipt (h row hrow hbinding)

theorem mem_put {keys : BindingKeys} {row' : BackendRow} (h : row' ∈ (store.put id keys).rows) :
    ∃ row ∈ store.rows, row.id = row'.id ∧ (row.id ≠ id ∧ row' = row ∨ row.id = id ∧
      row'.binding = keys.apply row.binding) := by
  obtain ⟨row, hrow, rfl⟩ := List.mem_map.1 h
  refine ⟨row, hrow, ?_⟩
  split_ifs with hid
  · exact ⟨rfl, .inr ⟨hid, rfl⟩⟩
  · exact ⟨rfl, .inl ⟨hid, rfl⟩⟩

theorem fewer_put {keys : BindingKeys} (hkeys : ∀ binding, keys.apply binding ≠ none → binding ≠ none) :
    Fewer store (store.put id keys) := by
  refine ⟨?_, fun h => h⟩
  intro row' hrow' hbinding'
  obtain ⟨row, hrow, hid, ⟨-, rfl⟩ | ⟨-, hkept⟩⟩ := mem_put hrow'
  · exact ⟨row', hrow, rfl, hbinding'⟩
  · exact ⟨row, hrow, hid, hkeys _ (hkept ▸ hbinding')⟩

theorem fewer_post {keys : BindingKeys} (hkeys : keys.apply none = none) : Fewer store (store.post id keys) := by
  refine ⟨?_, fun h => h⟩
  intro row' hrow' hbinding'
  rcases List.mem_append.1 hrow' with hrow | hnew
  · exact ⟨row', hrow, rfl, hbinding'⟩
  · obtain rfl := List.mem_singleton.1 hnew
    exact absurd hkeys hbinding'

def Leaves (view : BindingView) (store store' : BindingStore) : Prop :=
  Fewer store store' ∨ view.sending = true ∧ store'.receipt = store.receipt ∨ view.MayErase ∧
    store'.rows = store.rows

structure Advances (view : BindingView) (store store' : BindingStore) (thread : PushThread) : Prop where
  receipted : store'.Receipted
  known : KnownBinding store' thread
  leaves : Leaves view store store'

variable {view : BindingView} {choice : BindingChoice} {program : Program BindingCommand BindingCommand.Reply Unit}

theorem advances_of_fewer {after : PushThread} (hreceipted : store.Receipted) (hfewer : Fewer store store')
    (hknown : KnownBinding store' after) :
    Advances view store store' after :=
  ⟨hreceipted.mono hfewer, hknown, .inl hfewer⟩

theorem KnownBinding.goes (h : KnownBinding store thread) (hway : underWay thread = true) :
    KnownBinding store ⟨thread.view, program⟩ :=
  ⟨fun _ => h.listed hway, fun _ => h.cleared hway, h.sending⟩

theorem advances_request {keys : BindingKeys} {sent : BindingStore} {applied : Bool} (hreceipted : store.Receipted)
    (hknown : KnownBinding store thread) (hway : underWay thread = true) (hreceipt : sent.receipt = store.receipt)
    (hcomplete : ∀ digest, keys = .complete digest → thread.view.sending = true ∧ thread.view.recorded = true)
    (hfewer : (∀ digest, keys ≠ .complete digest) → Fewer store sent)
    (hcleared : keys = .cleared → thread.view.MayErase → ∀ row ∈ sent.rows, row.binding = none) :
    Advances thread.view store (if applied then sent else store)
      ⟨thread.view.requested keys (answered choice applied), program⟩ := by
  cases keys with
  | complete digest =>
    obtain ⟨hsending, hrecorded⟩ := hcomplete digest rfl
    have hsame : (if applied then sent else store).receipt = store.receipt := by
      split_ifs
      · exact hreceipt
      · rfl
    have hnot : ¬(thread.view.requested (.complete digest) (answered choice applied)).MayErase := by
      intro herase
      exact absurd (hrecorded.symm.trans herase.2) (Bool.noConfusion : ¬true = false)
    refine ⟨fun _ _ _ => hsame ▸ hknown.sending hsending, ?_, .inr (.inl ⟨hsending, hsame⟩)⟩
    exact ⟨fun _ herase => absurd herase hnot, fun _ herase => absurd herase hnot, Bool.noConfusion⟩
  | absent =>
    have hfewer := hfewer fun _ => BindingKeys.noConfusion
    cases applied with
    | false => exact advances_of_fewer hreceipted (Fewer.refl store) (hknown.goes hway)
    | true => exact advances_of_fewer hreceipted hfewer ((hknown.mono hfewer).goes hway)
  | cleared =>
    have hfewer := hfewer fun _ => BindingKeys.noConfusion
    cases applied with
    | false =>
      refine advances_of_fewer hreceipted (Fewer.refl store) ?_
      have hlost : ∃ failure, answered choice false = .error failure := by
        unfold answered
        cases choice.failure with
        | none => exact ⟨_, rfl⟩
        | some failure => exact ⟨failure, rfl⟩
      obtain ⟨failure, hfailure⟩ := hlost
      rw [hfailure]
      exact hknown.goes hway
    | true =>
      refine advances_of_fewer hreceipted hfewer ?_
      have hafter := hknown.mono hfewer
      cases answered choice true with
      | error failure => exact hafter.goes hway
      | ok done => exact ⟨fun _ => hafter.listed hway, fun _ herase _ => hcleared rfl herase, hafter.sending⟩

theorem apply_ne_none {keys : BindingKeys} (hkeys : ∀ digest, keys ≠ .complete digest) {binding : Option Digest}
    (h : keys.apply binding ≠ none) : binding ≠ none := by
  cases keys with
  | absent => exact h
  | cleared => exact absurd rfl h
  | complete digest => exact absurd rfl (hkeys digest)

theorem advances_put {keys : BindingKeys} (hreceipted : store.Receipted) (hknown : KnownBinding store thread)
    (hway : underWay thread = true) (hallows : thread.view.allows (.put id keys)) :
    Advances thread.view store (store.exec choice (.put id keys)).2
      ⟨thread.view.next (.put id keys) (store.exec choice (.put id keys)).1, program⟩ := by
  refine advances_request hreceipted hknown hway rfl ?_ (fun hkeys => fewer_put fun _ => apply_ne_none hkeys) ?_
  · rintro digest rfl
    exact hallows
  · -- the binding could only be in the row that was cleared
    rintro rfl herase row' hrow'
    obtain ⟨row, hrow, -, ⟨hother, rfl⟩ | ⟨-, hcleared⟩⟩ := mem_put hrow'
    · by_contra hbinding
      exact hother (List.mem_singleton.1 (hknown.listed hway herase [id] hallows row' hrow hbinding))
    · exact hcleared

theorem advances_post {keys : BindingKeys} (hreceipted : store.Receipted) (hknown : KnownBinding store thread)
    (hway : underWay thread = true) (hallows : thread.view.allows (.post keys)) :
    Advances thread.view store (store.exec choice (.post keys)).2
      ⟨thread.view.next (.post keys) (store.exec choice (.post keys)).1, program⟩ := by
  have hfewer (hkeys : ∀ digest, keys ≠ .complete digest) : Fewer store (store.post choice.nextId keys) :=
    fewer_post (not_not.1 fun h => apply_ne_none hkeys h rfl)
  refine advances_request hreceipted hknown hway rfl ?_ hfewer ?_
  · rintro digest rfl
    exact hallows
  · rintro rfl herase row' hrow'
    by_contra hbinding
    obtain ⟨row, hrow, -, hbound⟩ := (hfewer fun _ => BindingKeys.noConfusion).rows row' hrow' hbinding
    exact absurd (hknown.listed hway herase [] hallows row hrow hbound) List.not_mem_nil

theorem advances_exec {command : BindingCommand} (hreceipted : store.Receipted)
    (hknown : KnownBinding store thread) (hway : underWay thread = true) (hallows : thread.view.allows command)
    (hcurrent : ∀ existing, command = .load existing → ∀ ids ∈ existing, ∀ row ∈ store.rows, row.id ∈ ids) :
    Advances thread.view store (store.exec choice command).2
      ⟨thread.view.next command (store.exec choice command).1, program⟩ := by
  cases command with
  | put id keys => exact advances_put hreceipted hknown hway hallows
  | post keys => exact advances_post hreceipted hknown hway hallows
  | load existing =>
    refine advances_of_fewer hreceipted (Fewer.refl store) ⟨?_, ?_, hknown.sending⟩
    · exact fun _ _ ids hids row hrow _ => hcurrent existing rfl ids hids row hrow
    · intro _ _ hcleared
      change thread.view.cleared = true at hcleared
      rw [show thread.view = pushes.unseen from hallows] at hcleared
      cases hcleared
  | confirm id => exact advances_of_fewer hreceipted (Fewer.refl store) (hknown.goes hway)
  | list =>
    refine advances_of_fewer hreceipted (Fewer.refl store) ?_
    rw [BindingStore.exec]
    cases choice.listing with
    | some error => exact hknown.goes hway
    | none =>
      refine ⟨?_, fun _ => hknown.cleared hway, hknown.sending⟩
      rintro - - _ ⟨⟩ row hrow -
      exact List.mem_map_of_mem hrow
  | record digest =>
    rw [BindingStore.exec]
    cases choice.failure with
    | some failure => exact advances_of_fewer hreceipted (Fewer.refl store) (hknown.goes hway)
    | none =>
      refine advances_of_fewer hreceipted ⟨fun row hrow hbinding => ⟨row, hrow, rfl, hbinding⟩,
        fun _ => digest.2⟩ ?_
      exact ⟨fun _ herase => absurd herase.2 (Bool.noConfusion : ¬true = false),
        fun _ herase => absurd herase.2 (Bool.noConfusion : ¬true = false), fun _ => digest.2⟩
  | erase expected =>
    obtain ⟨hcleared, herase, hsending⟩ := hallows
    have hnone := hknown.cleared hway herase hcleared
    rw [BindingStore.exec]
    dsimp only
    split_ifs
    · refine ⟨fun row hrow hbinding => absurd (hnone row hrow) hbinding, ?_, .inr (.inr ⟨herase, rfl⟩)⟩
      refine ⟨fun _ => hknown.listed hway, fun _ => hknown.cleared hway, fun h => ?_⟩
      exact absurd (hsending.symm.trans h) Bool.false_ne_true
    · exact advances_of_fewer hreceipted (Fewer.refl store) (hknown.goes hway)

theorem mayErase_requested {keys : BindingKeys} {reply : Except RequestFailure Unit}
    (h : (view.requested keys reply).MayErase) :
    view.MayErase := by
  unfold BindingView.requested at h
  split at h
  · exact h
  · exact h
  · exact h

theorem sending_requested {keys : BindingKeys} {reply : Except RequestFailure Unit}
    (h : (view.requested keys reply).sending = true) :
    view.sending = true := by
  unfold BindingView.requested at h
  split at h
  · exact h
  · cases h
  · exact h

theorem sending_of_next {command : BindingCommand} {reply : command.Reply}
    (h : (view.next command reply).sending = true) :
    view.sending = true ∨ ∃ digest, command = .record digest := by
  cases command with
  | record digest => exact .inr ⟨digest, rfl⟩
  | put id keys => exact .inl (sending_requested h)
  | post keys => exact .inl (sending_requested h)
  | list =>
    rcases reply with error | ids
    · exact .inl h
    · exact .inl h
  | load existing => exact .inl h
  | confirm id => exact .inl h
  | erase expected => exact .inl h

theorem mayErase_of_next {command : BindingCommand} {reply : command.Reply}
    (h : (view.next command reply).MayErase) :
    view.MayErase ∨ ∃ existing, command = .load existing := by
  cases command with
  | load existing => exact .inr ⟨existing, rfl⟩
  | put id keys => exact .inl (mayErase_requested h)
  | post keys => exact .inl (mayErase_requested h)
  | list =>
    rcases reply with error | ids
    · exact .inl h
    · exact .inl h
  | record digest =>
    rcases reply with text | _
    · exact .inl h
    · cases h.2
  | confirm id => exact .inl h
  | erase expected => exact .inl h

end Stores

structure InOrder (config : PushesUnderWay) : Prop where
  receipted : config.store.Receipted
  guarded : ∀ thread ∈ config.threads, thread.program.wp BindingView.next BindingView.allows thread.view
    fun _ _ => True
  known : ∀ thread ∈ config.threads, KnownBinding config.store thread
  exclusive : ∀ (index other : Nat) thread thread', index ≠ other →
    config.threads[index]? = some thread → config.threads[other]? = some thread' →
    underWay thread = true → thread.view.MayErase → thread'.view.sending = false

theorem inOrder_start {config : PushesUnderWay} (h : InOrder config) (push : ProxmoxPush) :
    InOrder ⟨config.store, config.threads ++ [⟨pushes.unseen, pushes.program push⟩]⟩ := by
  have hunseen : ¬pushes.unseen.MayErase := fun herase => herase.1 rfl
  have hmem {index : Nat} {thread : PushThread} (hthread :
    (config.threads ++ [⟨pushes.unseen, pushes.program push⟩])[index]? = some thread) :
      config.threads[index]? = some thread ∨ thread.view = pushes.unseen := by
    rw [List.getElem?_append] at hthread
    split_ifs at hthread
    · exact .inl hthread
    · obtain rfl := List.mem_singleton.1 (List.mem_of_getElem? hthread)
      exact .inr rfl
  refine ⟨h.receipted, ?_, ?_, ?_⟩
  · intro thread hthread
    rcases List.mem_append.1 hthread with hthread | hthread
    · exact h.guarded thread hthread
    · obtain rfl := List.mem_singleton.1 hthread
      refine (Program.wp_bind _ _ _ _).2 (Program.wp_mono ?_ (guarded_syncProxmoxEndpointToBackend push))
      exact fun _ _ _ => trivial
  · intro thread hthread
    rcases List.mem_append.1 hthread with hthread | hthread
    · exact h.known thread hthread
    · obtain rfl := List.mem_singleton.1 hthread
      exact ⟨fun _ herase => absurd herase hunseen, fun _ herase => absurd herase hunseen, Bool.noConfusion⟩
  · intro index other thread thread' hne hthread hthread' hway herase
    rcases hmem hthread with hbefore | hnew
    · rcases hmem hthread' with hbefore' | hnew'
      · exact h.exclusive index other thread thread' hne hbefore hbefore' hway herase
      · rw [hnew']
        rfl
    · rw [hnew] at herase
      exact absurd herase hunseen

theorem inOrder_step {config : PushesUnderWay} {index : Nat} {choice : BindingChoice} {view : BindingView}
    {command : BindingCommand}
    {resume : command.Reply → Program BindingCommand BindingCommand.Reply Unit} (h : InOrder config)
    (hthread : config.threads[index]? = some ⟨view, .issue command resume⟩)
    (hload : ∀ existing, command = .load existing → (∀ ids ∈ existing, ∀ row ∈ config.store.rows, row.id ∈ ids) ∧
      ∀ other ∈ config.threads.eraseIdx index, other.view.sending = false)
    (hrecord : ∀ digest, command = .record digest →
      ∀ other ∈ config.threads.eraseIdx index, ¬(underWay other = true ∧ other.view.MayErase)) :
    InOrder (pushes.stepped config index choice view command resume) := by
  have hmem := List.mem_of_getElem? hthread
  obtain ⟨hallows, hresume⟩ := h.guarded _ hmem
  have hadvances := @advances_exec config.store ⟨view, .issue command resume⟩ choice
    (resume (config.store.exec choice command).1) command h.receipted (h.known _ hmem) rfl hallows
    fun existing hexisting => (hload existing hexisting).1
  have hset {other : Nat} {thread : PushThread}
      (hother : (pushes.stepped config index choice view command resume).threads[other]? = some thread) :
      other = index ∧ thread = ⟨view.next command (config.store.exec choice command).1,
        resume (config.store.exec choice command).1⟩ ∨
        other ≠ index ∧ config.threads[other]? = some thread := by
    rw [List.getElem?_set] at hother
    split_ifs at hother with heq hlength
    · exact .inl ⟨heq.symm, (Option.some.inj hother).symm⟩
    · exact .inr ⟨fun h => heq h.symm, hother⟩
  have herased {other : Nat} {thread : PushThread} (hne : other ≠ index)
    (hother : config.threads[other]? = some thread) :
      thread ∈ config.threads.eraseIdx index := List.mem_eraseIdx_iff_getElem?.2 ⟨other, hne, hother⟩
  -- what the others know stays so: they may not erase while this one sends, nor send while it erases
  have hothers {other : Nat} {thread : PushThread} (hne : other ≠ index)
    (hother : config.threads[other]? = some thread) :
      KnownBinding (config.store.exec choice command).2 thread := by
    have hknown := h.known thread (List.mem_of_getElem? hother)
    rcases hadvances.leaves with hfewer | ⟨hsending, hreceipt⟩ | ⟨herase, hrows⟩
    · exact hknown.mono hfewer
    · have hnot (hway : underWay thread = true) (herase : thread.view.MayErase) : False :=
        absurd (hsending.symm.trans (h.exclusive other index _ _ hne hother hthread hway herase))
          (Bool.noConfusion : ¬true = false)
      exact ⟨fun hway herase => (hnot hway herase).elim, fun hway herase => (hnot hway herase).elim,
        fun hsends => hreceipt ▸ hknown.sending hsends⟩
    · refine ⟨?_, ?_, fun hsends => ?_⟩
      · rw [hrows]
        exact hknown.listed
      · rw [hrows]
        exact hknown.cleared
      · exact absurd ((h.exclusive index other _ _ hne.symm hthread hother rfl herase).symm.trans hsends)
          Bool.false_ne_true
  refine ⟨hadvances.receipted, ?_, ?_, ?_⟩
  · intro thread hthread'
    rcases List.mem_or_eq_of_mem_set hthread' with hold | rfl
    · exact h.guarded thread hold
    · exact hresume _
  · intro thread hthread'
    obtain ⟨other, hother⟩ := List.mem_iff_getElem?.1 hthread'
    rcases hset hother with ⟨-, rfl⟩ | ⟨hne, hbefore⟩
    · exact hadvances.known
    · exact hothers hne hbefore
  · intro one other thread thread' hne hone hother hway herase
    rcases hset hone with ⟨rfl, rfl⟩ | ⟨hone', hbefore⟩
    · rcases hset hother with ⟨rfl, -⟩ | ⟨hother', hbefore'⟩
      · exact absurd rfl hne
      · rcases mayErase_of_next herase with herase | ⟨existing, hexisting⟩
        · exact h.exclusive _ _ _ _ hne hthread hbefore' rfl herase
        · exact (hload existing hexisting).2 thread' (herased hother' hbefore')
    · rcases hset hother with ⟨rfl, rfl⟩ | ⟨hother', hbefore'⟩
      · apply eq_false_of_ne_true
        intro hsending
        rcases sending_of_next hsending with hsending | ⟨digest, hdigest⟩
        · exact absurd (hsending.symm.trans (h.exclusive _ _ _ _ hone' hbefore hthread hway herase))
            (Bool.noConfusion : ¬true = false)
        · exact hrecord digest hdigest thread (herased hone' hbefore) ⟨hway, herase⟩
      · exact h.exclusive one other thread thread' hne hbefore hbefore' hway herase

theorem inOrder_move {config config' : PushesUnderWay} {move : Move ProxmoxPush BindingChoice}
    (hmove : pushes.move config move = some config')
    (hturn : InTurn config move) (h : InOrder config) : InOrder config' := by
  obtain ⟨push, rfl⟩ | ⟨index, choice, view, command, resume, rfl, hthread, rfl⟩ :=
    System.move_cases_unguarded hmove
  · exact inOrder_start h push
  · rw [InTurn, hthread] at hturn
    refine inOrder_step h hthread ?_ ?_
    · rintro existing rfl
      exact hturn
    · rintro digest rfl
      exact hturn

instance (config : PushesUnderWay) (move : Move ProxmoxPush BindingChoice) : Decidable (InTurn config move) := by
  unfold InTurn
  split
  · infer_instance
  · split <;> infer_instance

/-- If pushes that send a binding and pushes that have read a receipt take turns, the backend holds a binding
only while there is a receipt. -/
theorem binding_receipt_kept (store : BindingStore) (hstore : store.Receipted)
    (moves : List (Move ProxmoxPush BindingChoice)) (config : PushesUnderWay)
    (hturns : pushes.Along InTurn (.initial store) moves)
      (hrun : pushes.run (.initial store) moves = some config) : config.store.Receipted := by
  have hfirst : InOrder (.initial store) := by
    refine ⟨hstore, fun _ h => absurd h List.not_mem_nil, fun _ h => absurd h List.not_mem_nil, ?_⟩
    exact fun _ _ _ _ _ h => absurd h (Option.some_ne_none _).symm
  exact (System.keeps_along InOrder (fun _ _ _ hmove hturn h => inOrder_move hmove hturn h)
    hfirst hturns hrun).receipted

/-! ### A push between the clearing and the erasure -/

def someDigest : Digest := ⟨"5e884898", by decide⟩

def boundStore : BindingStore := ⟨"5e884898", [⟨1, some someDigest⟩]⟩

def bindingPush : ProxmoxPush := ⟨7, none, false, none, true, true, none, some someDigest⟩

def revocation : ProxmoxPush := ⟨7, none, false, none, false, false, none, some someDigest⟩

def served : BindingChoice := ⟨true, none, 2, false, none⟩

def pushSteps (index count : Nat) : List (Move ProxmoxPush BindingChoice) :=
  List.replicate count (.step index served)

def boundRows (moves : List (Move ProxmoxPush BindingChoice)) : Option (String × List (Option String)) :=
  (pushes.run (.initial boundStore) moves).map fun config =>
    (config.store.receipt, config.store.rows.map fun row => row.binding.map Subtype.val)

/-- A revocation, and then a push. -/
theorem binding_receipt_kept_in_turn :
    boundRows ([.start revocation] ++ pushSteps 0 4 ++ [.start bindingPush] ++ pushSteps 1 4) = some ("5e884898",
      [some "5e884898"]) ∧
      ∀ config, pushes.run (.initial boundStore) ([.start revocation] ++ pushSteps 0 4 ++ [.start bindingPush] ++
        pushSteps 1 4) = some config →
        config.store.Receipted := by
  refine ⟨by decide +kernel, fun config hrun => ?_⟩
  have hstore : boundStore.Receipted := fun _ _ _ => by decide
  exact binding_receipt_kept boundStore hstore _ config (by decide +kernel) hrun

/-- The binding is cleared, pushed again with the same digest, and then the receipt is erased. -/
theorem erased_receipt_of_held_binding :
    boundStore.Receipted ∧
      boundRows ([.start revocation, .start bindingPush] ++ pushSteps 0 3 ++ pushSteps 1 4 ++ pushSteps 0 1) =
        some ("", [some "5e884898"]) ∧
      ∃ config, pushes.run (.initial boundStore)
        ([.start revocation, .start bindingPush] ++ pushSteps 0 3 ++ pushSteps 1 4 ++ pushSteps 0 1) =
          some config ∧ ¬config.store.Receipted := by
  have hrows : boundRows ([.start revocation, .start bindingPush] ++ pushSteps 0 3 ++ pushSteps 1 4 ++
    pushSteps 0 1) =
      some ("", [some "5e884898"]) := by decide +kernel
  refine ⟨fun _ _ _ => by decide, hrows, ?_⟩
  obtain ⟨config, hconfig, hresult⟩ := Option.map_eq_some_iff.1 hrows
  obtain ⟨hreceipt, hbindings⟩ := Prod.mk.inj hresult
  refine ⟨config, hconfig, fun hreceipted => ?_⟩
  obtain ⟨row, hrow, hbinding⟩ := List.mem_map.1 (hbindings ▸ List.mem_singleton.2 rfl :
    some "5e884898" ∈ config.store.rows.map _)
  refine hreceipted row hrow ?_ hreceipt
  rintro hnone
  rw [hnone] at hbinding
  cases hbinding

end Proxbox
