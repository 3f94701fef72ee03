import Proxbox.Intent.VmIdentity
import Proxbox.Library.Interleaving
/-!
# The life of a deletion request

One `DeletionRequest` row and whoever works on it: the approve and reject posts, the runs of
`auto_reject_expired_deletion_requests`, the deliveries of the executor job, and changes of the self-approval
setting. Every read, every `save` and every request to the backend is one atomic command; between two commands
of one actor any other may run. An actor works on a copy of the row, and `save(update_fields=...)` writes the
named columns whatever the row is by then.
-/

namespace Proxbox.Deletion

open Python Interleaving

inductive State where
  | pending
  | approved
  | rejected
  | executing
  | succeeded
  | failed
  deriving DecidableEq

/-- The row, without what is written for the record only. -/
structure Request where
  pk : Int
  state : State
  requestedBy : Option Int
  authorizer : Option Int
  vmid : Option Int
  node : String
  kind : GuestKind
  rejectReason : String
  requestedAt : Option Int
  deriving DecidableEq

/-- The columns of one `save(update_fields=...)`. Every save of the row writes its state. -/
structure Update where
  state : State
  authorizer : Option Int
  rejectReason : Option String

def Update.apply (update : Update) (row : Request) : Request :=
  { row with
    state := update.state
    authorizer := update.authorizer.or row.authorizer
    rejectReason := update.rejectReason.getD row.rejectReason }

structure ExecuteRequest where
  url : String
  vmid : Option Int
  node : String
  kind : GuestKind
  actor : Option Int
  deriving DecidableEq

structure ExecuteReply where
  statusCode : Nat
  body : Json

inductive Command where
  | get
  | selfApprovalAllowed
  | save (update : Update)
  | getFastapiRequestContext
  | post (request : ExecuteRequest)
  | enqueue
  | setSelfApproval (allowed : Bool)

/-- What a command yields, unless it raises. The request context is given by its `http_url`. -/
def Command.Value : Command → Type
  | .get => Request
  | .selfApprovalAllowed => Bool
  | .getFastapiRequestContext => Option String
  | .post _ => ExecuteReply
  | .save _ | .enqueue | .setSelfApproval _ => Unit

abbrev Command.Reply (command : Command) : Type := Except String command.Value

abbrev Action := ExceptT String (Program Command Command.Reply)

def get : Action Request := command Command.get

def selfApprovalAllowed : Action Bool := command Command.selfApprovalAllowed

def save (update : Update) : Action Unit := command (Command.save update)

def getFastapiRequestContext : Action (Option String) := command Command.getFastapiRequestContext

def post (request : ExecuteRequest) : Action ExecuteReply := command (Command.post request)

def enqueue : Action Unit := command Command.enqueue

def setSelfApproval (allowed : Bool) : Action Unit := command (Command.setSelfApproval allowed)

/-! ### The actors -/

def selfApprovalBlocked (same : Bool) : Action Bool := do
  if same then return !(← selfApprovalAllowed) else return false

inductive Response where
  | forbidden (message : String)
  | formErrors
  | redirect

def selfApprovalBlockedMessage : String :=
  "Self-approval blocked: a different authorized user must approve this request."

def nonPendingStateMessage : String :=
  "Deletion request is not pending; approve and reject are only valid in the pending state."

/-- `DeletionRequestApproveForm`: the typed number, if it is one, is the VMID of the request. -/
def approveFormValid (row : Request) (vmid : Option Int) : Bool := vmid.isSome && vmid == row.vmid

/-- `DeletionRequest.clean` with the authorizer set. -/
def clean (row : Request) (authorizer : Int) : Action Unit := do
  if ← selfApprovalBlocked (row.requestedBy == some authorizer) then throw selfApprovalBlockedMessage

variable (user : Int)

def approve (vmid : Option Int) : Action Response := do
  let row ← get
  if row.state ≠ .pending then return .forbidden nonPendingStateMessage
  if ← selfApprovalBlocked (row.requestedBy == some user) then
    return .forbidden selfApprovalBlockedMessage
  if !approveFormValid row vmid then return .formErrors
  clean row user
  save ⟨.approved, some user, none⟩
  enqueue
  return .redirect

variable (typed : String)

def rejectFormReason : Option String :=
  some (strip typed) |>.filter fun reason => reason ≠ "" ∧ reason.length ≤ 255

def reject : Action Response := do
  let row ← get
  if row.state ≠ .pending then return .forbidden nonPendingStateMessage
  match rejectFormReason typed with
  | none => return .formErrors
  | some reason =>
    save ⟨.rejected, some user, some reason⟩
    return .redirect

/-- What `auto_reject_expired_deletion_requests` does with the row. The queryset reads the rows first, and the
loop saves them one by one. -/
def autoReject (cutoff : Int) : Action Nat := do
  let row ← get
  if row.state = .pending ∧ row.requestedAt.any (· < cutoff) then
    save ⟨.rejected, none, some "TTL"⟩
    return 1
  return 0

def trimReason (text : String) : String :=
  let text := strip text
  if text ≠ "" then String.ofList (text.toList.take 255) else "Deletion executor failed."

variable (reply : ExecuteReply)

def ExecuteReply.update : Update :=
  if 200 ≤ reply.statusCode ∧ reply.statusCode < 300 then ⟨.succeeded, none, none⟩
  else
    let body := reply.body.asDict
    let detail := ((Fields.get body "detail").or (Fields.get body "message")).or
      (.str s!"proxbox-api returned HTTP {reply.statusCode}")
    ⟨.failed, none, some (trimReason detail.text)⟩

def executeRequest (httpUrl : String) (row : Request) : ExecuteRequest where
  url := rstripOf '/' httpUrl ++ "/intent/deletion-requests/" ++ toString row.pk ++ "/execute"
  vmid := row.vmid
  node := row.node
  kind := row.kind
  actor := row.authorizer

/-- `DeletionExecutorJob.run` once the row is read and found approved, up to its handler. -/
def execute (row : Request) : Action Unit := do
  if ← selfApprovalBlocked (row.authorizer.isSome && row.authorizer == row.requestedBy) then
    save ⟨.failed, none, some "self-approval blocked"⟩
    return
  save ⟨.executing, none, none⟩
  let some httpUrl ← getFastapiRequestContext
    | throw "No FastAPIEndpoint is configured; cannot execute deletion request."
  if httpUrl = "" then throw "FastAPIEndpoint has no resolvable http_url."
  let reply ← post (executeRequest httpUrl row)
  save reply.update

/-- `DeletionExecutorJob.run`. A row that cannot be read leaves the handler nothing to save. -/
def executorJob : Action Unit := do
  let row ← get
  if row.state ≠ .approved then return
  tryCatch (execute row) fun text => save ⟨.failed, none, some (trimReason text)⟩

/-! ### The system -/

inductive Actor where
  | approve (user : Int) (vmid : Option Int)
  | reject (user : Int) (typed : String)
  | autoReject (cutoff : Int)
  | executorJob
  | setSelfApproval (allowed : Bool)

def program : Actor → Program Command Command.Reply Unit
  | .approve user vmid => detached (approve user vmid)
  | .reject user typed => detached (reject user typed)
  | .autoReject cutoff => detached (autoReject cutoff)
  | .executorJob => detached executorJob
  | .setSelfApproval allowed => detached (setSelfApproval allowed)

structure Store where
  row : Request
  selfApproval : Bool
  posts : List ExecuteRequest

/-- How the environment lets a command go. A request that raises may have reached the backend. -/
structure Choice where
  raised : Option String
  httpUrl : Option String
  reply : ExecuteReply
  delivered : Bool

def Choice.result {α : Type} (choice : Choice) (value : α) : Except String α :=
  match choice.raised with
  | some text => .error text
  | none => .ok value

def exec (store : Store) (choice : Choice) : (command : Command) → command.Reply × Store
  | .get => (choice.result store.row, store)
  | .selfApprovalAllowed => (choice.result store.selfApproval, store)
  | .save update =>
    (choice.result (), if choice.raised.isNone then { store with row := update.apply store.row } else store)
  | .getFastapiRequestContext => (choice.result choice.httpUrl, store)
  | .post request =>
    (choice.result choice.reply,
      if choice.raised.isNone || choice.delivered then { store with posts := store.posts ++ [request] }
      else store)
  | .enqueue => (choice.result (), store)
  | .setSelfApproval allowed =>
    (choice.result (), if choice.raised.isNone then { store with selfApproval := allowed } else store)

/-- An actor's copy of the row: as it last read it, with what it has saved since. -/
def next (copy : Option Request) : (command : Command) → command.Reply → Option Request
  | .get, .ok row => some row
  | .save update, .ok () => copy.map update.apply
  | .get, .error _ | .save _, .error _ => copy
  | .selfApprovalAllowed, _ | .getFastapiRequestContext, _ | .post _, _ | .enqueue, _
  | .setSelfApproval _, _ => copy

def system : System Actor Choice Store (Option Request) Command Command.Reply where
  program := program
  exec := exec
  unseen := none
  next := next

/-! ### The lifecycle -/

def State.leadsTo : State → State → Bool
  | .pending, .approved | .pending, .rejected => true
  | .approved, .executing | .approved, .failed => true
  | .executing, .succeeded | .executing, .failed => true
  | _, _ => false

def State.final : State → Bool
  | .rejected | .succeeded | .failed => true
  | .pending | .approved | .executing => false

/-- Each move leaves the stored state or takes it along the lifecycle, a final state stays, and nothing is
executed after a rejection. -/
structure LifecycleKept (store : Store) (moves : List (Move Actor Choice)) : Prop where
  along : ∀ before move after config config', moves = before ++ move :: after →
    system.run (.initial store) before = some config → system.move config move = some config' →
    config'.store.row.state = config.store.row.state ∨
      config.store.row.state.leadsTo config'.store.row.state
  final : ∀ before between after config config', moves = before ++ between ++ after →
    system.run (.initial store) before = some config → system.run config between = some config' →
    config.store.row.state.final → config'.store.row.state = config.store.row.state
  rejected : ∀ before between after config config', moves = before ++ between ++ after →
    system.run (.initial store) before = some config → system.run config between = some config' →
    config.store.row.state = .rejected → config'.store.posts = config.store.posts

/-- The stored state is still the one of the actor's copy. -/
def NoStaleSave (store : Store) (copy : Option Request) : Command → Prop
  | .save _ => copy.map Request.state = some store.row.state
  | _ => True

instance (store : Store) (copy : Option Request) : (command : Command) → Decidable (NoStaleSave store copy command)
  | .save _ => inferInstanceAs (Decidable (_ = _))
  | .get | .selfApprovalAllowed | .getFastapiRequestContext | .post _ | .enqueue | .setSelfApproval _ =>
    .isTrue trivial

/-! ### What the actors issue

Of a thread more is remembered than its copy of the row: whether it has read the self-approval setting as
allowed, and whether it has saved `executing` and not yet sent its request.
-/

structure View where
  copy : Option Request
  allowed : Bool
  claimed : Bool

def View.next (view : View) : (command : Command) → command.Reply → View
  | .selfApprovalAllowed, .ok allowed => { view with allowed := view.allowed || allowed }
  | .save update, .ok () => { view with copy := view.copy.map update.apply, claimed := update.state = .executing }
  | .post _, _ => { view with claimed := false }
  | .get, .ok row => { view with copy := some row }
  | .get, .error _ | .selfApprovalAllowed, .error _ | .save _, .error _ => view
  | .getFastapiRequestContext, _ | .enqueue, _ | .setSelfApproval _, _ => view

/-- Saves along the lifecycle from the state of the copy, a claim only past the check of the executor, and a
request only after the claim, while the copy is executing. -/
def View.allows (view : View) : Command → Prop
  | .save update => ∃ row, view.copy = some row ∧ row.state.leadsTo update.state ∧
      (update.authorizer.isSome → row.state = .pending) ∧ (update.state = .approved → update.authorizer.isSome) ∧
      (update.state = .executing → row.authorizer = none ∨ row.authorizer ≠ row.requestedBy ∨ view.allowed)
  | .post _ => view.claimed ∧ ∃ row, view.copy = some row ∧ row.state = .executing
  | _ => True

section Actors

variable {view : View} {raised : View → String → Prop}

theorem wp_get {value : View → Request → Prop} :
    wpRaising View.next View.allows get view value raised
      ↔ (∀ row, value { view with copy := some row } row) ∧ ∀ text, raised view text :=
  (wpRaising_command _ _ _ _).trans (and_iff_right trivial)

theorem wp_save {update : Update} {value : View → Unit → Prop} :
    wpRaising View.next View.allows (save update) view value raised
      ↔ view.allows (.save update) ∧
        (∀ u, value ⟨view.copy.map update.apply, view.allowed, update.state = .executing⟩ u) ∧
        ∀ text, raised view text :=
  wpRaising_command _ _ _ _

theorem wp_selfApprovalAllowed {value : View → Bool → Prop} :
    wpRaising View.next View.allows selfApprovalAllowed view value raised
      ↔ (∀ allowed, value { view with allowed := view.allowed || allowed } allowed) ∧ ∀ text, raised view text :=
  (wpRaising_command _ _ _ _).trans (and_iff_right trivial)

theorem wp_getFastapiRequestContext {value : View → Option String → Prop} :
    wpRaising View.next View.allows getFastapiRequestContext view value raised
      ↔ (∀ httpUrl, value view httpUrl) ∧ ∀ text, raised view text :=
  (wpRaising_command _ _ _ _).trans (and_iff_right trivial)

theorem wp_post {request : ExecuteRequest} {value : View → ExecuteReply → Prop} :
    wpRaising View.next View.allows (post request) view value raised
      ↔ view.allows (.post request) ∧ (∀ reply, value { view with claimed := false } reply) ∧
        ∀ text, raised { view with claimed := false } text :=
  wpRaising_command _ _ _ _

theorem wp_enqueue {value : View → Unit → Prop} :
    wpRaising View.next View.allows enqueue view value raised
      ↔ (∀ u, value view u) ∧ ∀ text, raised view text :=
  (wpRaising_command _ _ _ _).trans (and_iff_right trivial)

theorem wp_setSelfApproval {allowed : Bool} {value : View → Unit → Prop} :
    wpRaising View.next View.allows (setSelfApproval allowed) view value raised
      ↔ (∀ u, value view u) ∧ ∀ text, raised view text :=
  (wpRaising_command _ _ _ _).trans (and_iff_right trivial)

theorem wp_selfApprovalBlocked {same : Bool} {value : View → Bool → Prop}
    (hvalue : ∀ allowed blocked, (blocked = false → same = false ∨ allowed = true) →
      value { view with allowed := allowed } blocked)
    (hraised : ∀ text, raised view text) :
    wpRaising View.next View.allows (selfApprovalBlocked same) view value raised := by
  simp only [selfApprovalBlocked, wpRaising_ite, wpRaising_bind, wp_selfApprovalAllowed, wpRaising_pure]
  refine ⟨fun _ => ⟨fun allowed => hvalue _ _ fun hallowed => ?_, hraised⟩, fun hsame => ?_⟩
  · exact .inr (Bool.or_eq_true_iff.mpr (.inr (by simpa using hallowed)))
  · exact hvalue view.allowed false fun _ => .inl (by simpa using hsame)

theorem wp_clean {row : Request} {user : Int} {value : View → Unit → Prop}
    (hvalue : ∀ allowed u, value { view with allowed := allowed } u) :
    wpRaising View.next View.allows (clean row user) view value fun _ _ => True := by
  rw [clean, wpRaising_bind]
  refine wp_selfApprovalBlocked (fun allowed blocked _ => ?_) fun _ => trivial
  simp only [wpRaising_ite, wpRaising_throw, wpRaising_pure]
  exact ⟨fun _ => trivial, fun _ => hvalue allowed ()⟩

theorem approve_issues (vmid : Option Int) :
    wpRaising View.next View.allows (approve user vmid) view (fun _ _ => True) fun _ _ => True := by
  simp only [approve, wpRaising_bind, wp_get, wpRaising_ite, wpRaising_pure]
  refine ⟨fun row => ⟨fun _ => trivial, fun hpending => ?_⟩, fun _ => trivial⟩
  refine wp_selfApprovalBlocked
    (fun _ _ _ => ⟨fun _ => trivial, fun _ => ⟨fun _ => trivial, fun _ => ?_⟩⟩) fun _ => trivial
  refine wp_clean fun _ _ => ?_
  simp only [wp_save, wp_enqueue]
  have hpending : row.state = .pending := not_not.mp hpending
  exact ⟨⟨row, rfl, by rw [hpending]; rfl, fun _ => hpending, fun _ => rfl, by simp⟩,
    fun _ => ⟨fun _ => trivial, fun _ => trivial⟩, fun _ => trivial⟩

theorem allows_save_of_pending {row : Request} {update : Update} (hcopy : view.copy = some row)
    (hpending : row.state = .pending) (hrejected : update.state = .rejected) : view.allows (.save update) :=
  ⟨row, hcopy, by rw [hpending, hrejected]; rfl, fun _ => hpending, by simp [hrejected], by simp [hrejected]⟩

theorem reject_issues :
    wpRaising View.next View.allows (reject user typed) view (fun _ _ => True) fun _ _ => True := by
  simp only [reject, wpRaising_bind, wp_get, wpRaising_ite, wpRaising_pure]
  refine ⟨fun row => ⟨fun _ => trivial, fun hpending => ?_⟩, fun _ => trivial⟩
  have hpending : row.state = .pending := not_not.mp hpending
  cases rejectFormReason typed with
  | none => trivial
  | some reason =>
    simp only [wpRaising_bind, wp_save, wpRaising_pure]
    exact ⟨allows_save_of_pending rfl hpending rfl, fun _ => trivial, fun _ => trivial⟩

theorem autoReject_issues (cutoff : Int) :
    wpRaising View.next View.allows (autoReject cutoff) view (fun _ _ => True) fun _ _ => True := by
  simp only [autoReject, wpRaising_bind, wp_get, wpRaising_ite, wp_save, wpRaising_pure]
  refine ⟨fun row => ⟨fun hexpired => ?_, fun _ => trivial⟩, fun _ => trivial⟩
  exact ⟨allows_save_of_pending rfl hexpired.1 rfl, fun _ => trivial, fun _ => trivial⟩

theorem allows_save_of_leadsTo {row : Request} {update : Update} (hcopy : view.copy = some row)
    (hleads : row.state.leadsTo update.state) (hauthorizer : update.authorizer = none)
    (hended : update.state = .succeeded ∨ update.state = .failed) : view.allows (.save update) :=
  ⟨row, hcopy, hleads, by simp [hauthorizer], by rcases hended with h | h <;> simp [h],
    by rcases hended with h | h <;> simp [h]⟩

theorem update_authorizer : reply.update.authorizer = none := by
  unfold ExecuteReply.update
  dsimp only
  split_ifs <;> rfl

theorem update_ended :
    reply.update.state = .succeeded ∨ reply.update.state = .failed := by
  unfold ExecuteReply.update
  dsimp only
  split_ifs <;> simp

theorem executing_leadsTo_update : State.executing.leadsTo reply.update.state := by
  unfold ExecuteReply.update
  dsimp only
  split_ifs <;> rfl

theorem execute_issues (row : Request) (hcopy : view.copy = some row) (happroved : row.state = .approved)
    (hraised : ∀ view row text, view.copy = some row → row.state.leadsTo .failed → raised view text) :
    wpRaising View.next View.allows (execute row) view (fun _ _ => True) raised := by
  have hhere : ∀ allowed text, raised { view with allowed := allowed } text :=
    fun allowed text => hraised _ row text hcopy (by rw [happroved]; rfl)
  simp only [execute, wpRaising_bind, wp_save, wpRaising_ite, wpRaising_pure]
  refine wp_selfApprovalBlocked (fun allowed blocked hcheck => ⟨fun _ => ?_, fun hpassed => ?_⟩) (hhere view.allowed)
  · exact ⟨allows_save_of_leadsTo hcopy (by rw [happroved]; rfl) rfl (.inr rfl), fun _ => trivial, hhere allowed⟩
  · have hclaim : row.authorizer = none ∨ row.authorizer ≠ row.requestedBy ∨ allowed = true := by
      cases hauthorizer : row.authorizer with
      | none => exact .inl rfl
      | some authorizer => exact .inr (by simpa [hauthorizer] using hcheck (by simpa using hpassed))
    refine ⟨⟨row, hcopy, by rw [happroved]; rfl, by simp, by simp, fun _ => hclaim⟩, fun _ => ?_, hhere allowed⟩
    -- from here on the copy is executing, and the row is claimed until the request is sent
    have hexecuting : ∀ claimed text, raised
        ⟨view.copy.map (Update.apply ⟨.executing, none, none⟩), allowed, claimed⟩ text :=
      fun claimed text => hraised _ (Update.apply ⟨.executing, none, none⟩ row) text (by rw [hcopy]; rfl) rfl
    refine wp_getFastapiRequestContext.mpr ⟨fun httpUrl => ?_, hexecuting _⟩
    cases httpUrl with
    | none => exact hexecuting _ _
    | some httpUrl =>
      simp only [wpRaising_ite, wpRaising_throw, wpRaising_bind, wp_post, wp_save]
      refine ⟨fun _ => hexecuting _ _, fun _ => ⟨⟨rfl, _, by rw [hcopy]; rfl, rfl⟩, fun reply => ?_, hexecuting _⟩⟩
      exact ⟨allows_save_of_leadsTo (by rw [hcopy]; rfl) (executing_leadsTo_update reply)
        (update_authorizer reply) (update_ended reply), fun _ => trivial, hexecuting _⟩

theorem executorJob_issues :
    wpRaising View.next View.allows executorJob view (fun _ _ => True) fun _ _ => True := by
  simp only [executorJob, wpRaising_bind, wp_get, wpRaising_ite, wpRaising_pure, wpRaising_tryCatch, wp_save]
  refine ⟨fun row => ⟨fun _ => trivial, fun happroved => ?_⟩, fun _ => trivial⟩
  exact execute_issues row rfl (not_not.mp happroved) fun view row _ hcopy hfailed =>
    ⟨allows_save_of_leadsTo hcopy hfailed rfl (.inr rfl), fun _ => trivial, fun _ => trivial⟩

theorem program_issues (actor : Actor) (view : View) :
    (program actor).wp View.next View.allows view fun _ _ => True := by
  cases actor <;> rw [program, wp_detached]
  case approve user vmid => exact approve_issues user vmid
  case reject user typed => exact reject_issues user typed
  case autoReject cutoff => exact autoReject_issues cutoff
  case executorJob => exact executorJob_issues
  case setSelfApproval allowed => exact wp_setSelfApproval.mpr ⟨fun _ => trivial, fun _ => trivial⟩

end Actors

/-! ### Runs without stale saves -/

/-- A save along the lifecycle from the state of the copy, and a request while the copy is executing. -/
def allows (copy : Option Request) : Command → Prop
  | .save update => ∃ row, copy = some row ∧ row.state.leadsTo update.state
  | .post _ => ∃ row, copy = some row ∧ row.state = .executing
  | _ => True

/-- Once an actor's copy is executing, the stored request is executing or has ended its execution. -/
def Stable (store : Store) (copy : Option Request) : Prop :=
  ∀ row, copy = some row → row.state = .executing →
    store.row.state = .executing ∨ store.row.state = .succeeded ∨ store.row.state = .failed

theorem copy_next (view : View) (command : Command) (reply : command.Reply) :
    (view.next command reply).copy = next view.copy command reply := by
  cases command <;> cases reply <;> rfl

theorem allows_copy (view : View) (command : Command) (hallows : view.allows command) :
    allows view.copy command := by
  cases command with
  | save update =>
    obtain ⟨row, hcopy, hleads, -⟩ := hallows
    exact ⟨row, hcopy, hleads⟩
  | post request => exact hallows.2
  | get | selfApprovalAllowed | getFastapiRequestContext | enqueue | setSelfApproval allowed => trivial

theorem program_allowed (actor : Actor) (copy : Option Request) :
    (program actor).wp next allows copy fun _ _ => True :=
  Program.wp.coarser View.copy copy_next allows_copy ⟨copy, false, false⟩ (program_issues actor _)

theorem exec_cases (store : Store) (choice : Choice) (command : Command) :
    ((exec store choice command).2.row = store.row ∧
      ((exec store choice command).2.posts = store.posts ∨ ∃ request, command = .post request)) ∨
    ∃ update, command = .save update ∧ choice.raised = none ∧
      (exec store choice command).2 = { store with row := update.apply store.row } := by
  cases command with
  | get | selfApprovalAllowed | getFastapiRequestContext | enqueue => exact .inl ⟨rfl, .inl rfl⟩
  | save update =>
    cases hraised : choice.raised with
    | none => exact .inr ⟨update, rfl, rfl, by simp [exec, hraised]⟩
    | some text => exact .inl (by simp [exec, hraised])
  | post request =>
    refine .inl ⟨?_, .inr ⟨request, rfl⟩⟩
    simp only [exec]
    split_ifs <;> rfl
  | setSelfApproval allowed =>
    refine .inl ?_
    simp only [exec]
    split_ifs <;> exact ⟨rfl, .inl rfl⟩

section Steps

variable {store : Store} {copy : Option Request} {command : Command} (choice : Choice)

theorem exec_along (hallows : allows copy command) (hfresh : NoStaleSave store copy command) :
    (exec store choice command).2.row.state = store.row.state ∨
      store.row.state.leadsTo (exec store choice command).2.row.state := by
  obtain ⟨hrow, -⟩ | ⟨update, rfl, -, hstore⟩ := exec_cases store choice command
  · exact .inl (congrArg Request.state hrow)
  · obtain ⟨row, rfl, hleads⟩ := hallows
    have hstate : row.state = store.row.state := Option.some.inj hfresh
    rw [hstore, ← hstate]
    exact .inr hleads

theorem stable_other (hallows : allows copy command) (hfresh : NoStaleSave store copy command)
    {copy' : Option Request} (hstable : Stable store copy') :
    Stable (exec store choice command).2 copy' := by
  intro row hcopy hexecuting
  have hbefore := hstable row hcopy hexecuting
  rcases exec_along choice hallows hfresh with hstate | hleads
  · rwa [hstate]
  · generalize (exec store choice command).2.row.state = after at hleads ⊢
    rcases hbefore with hbefore | hbefore | hbefore <;> rw [hbefore] at hleads <;> revert hleads <;>
      cases after <;> decide

theorem stable_own (hallows : allows copy command) (hfresh : NoStaleSave store copy command)
    (hstable : Stable store copy) :
    Stable (exec store choice command).2 (next copy command (exec store choice command).1) := by
  have hkept := stable_other choice hallows hfresh hstable
  cases hraised : choice.raised with
  | some text => cases command <;> simpa [exec, next, Choice.result, hraised] using hkept
  | none =>
    cases command with
    | get =>
      intro row hrow hexecuting
      simp only [exec, next, Choice.result, hraised, Option.some.injEq] at hrow
      exact .inl (hrow ▸ hexecuting)
    | save update =>
      intro row hrow hexecuting
      obtain ⟨before, rfl, -⟩ := hallows
      simp only [exec, next, Choice.result, hraised, Option.map_some, Option.some.injEq] at hrow
      simp only [exec, hraised, Option.isNone_none, if_true]
      exact .inl (by rw [← hexecuting, ← hrow]; rfl)
    | selfApprovalAllowed | getFastapiRequestContext | post request | enqueue | setSelfApproval allowed =>
      exact hkept

theorem exec_rejected (hallows : allows copy command) (hstable : Stable store copy)
    (hrejected : store.row.state = .rejected) : (exec store choice command).2.posts = store.posts := by
  obtain ⟨-, hposts | ⟨request, rfl⟩⟩ | ⟨update, -, -, hstore⟩ := exec_cases store choice command
  · exact hposts
  · obtain ⟨row, hcopy, hexecuting⟩ := hallows
    have hstate := hstable row hcopy hexecuting
    simp [hrejected] at hstate
  · rw [hstore]

theorem system_keeps : System.Keeps system NoStaleSave allows Stable where
  program actor := program_allowed actor none
  unseen _ _ hcopy := by cases hcopy
  own _ choice _ _ hallows hfresh hstable := stable_own choice hallows hfresh hstable
  other _ choice _ _ _ hallows hfresh _ hstable := stable_other choice hallows hfresh hstable

end Steps

def Later (store store' : Store) : Prop :=
  (store.row.state.final → store'.row.state = store.row.state) ∧
    (store.row.state = .rejected → store'.posts = store.posts)

theorem later_trans {s t u : Store} (hst : Later s t) (htu : Later t u) : Later s u := by
  refine ⟨fun hfinal => ?_, fun hrejected => ?_⟩
  · have hsame := hst.1 hfinal
    rw [htu.1 (hsame ▸ hfinal), hsame]
  · have hsame := hst.1 (by rw [hrejected]; rfl)
    rw [htu.2 (hsame.trans hrejected), hst.2 hrejected]

theorem exec_later {store : Store} {copy : Option Request} {command : Command} (choice : Choice)
    (hallows : allows copy command) (hfresh : NoStaleSave store copy command) (hstable : Stable store copy) :
    Later store (exec store choice command).2 := by
  refine ⟨fun hfinal => ?_, exec_rejected choice hallows hstable⟩
  refine (exec_along choice hallows hfresh).resolve_right fun hleads => ?_
  generalize store.row.state = state at hfinal hleads
  cases state <;> simp_all [State.final, State.leadsTo]

/-- Without stale saves every run keeps to the lifecycle, from whatever request it starts. -/
theorem lifecycleKept_of_noStaleSave (store : Store) (moves : List (Move Actor Choice))
    (hfresh : system.RunMeets NoStaleSave (.initial store) moves) : LifecycleKept store moves := by
  -- a part of the run leads to a sound configuration, and what follows has no stale save either
  have hsound {before after config} (hmoves : moves = before ++ after)
      (hrun : system.run (.initial store) before = some config) :
      System.Sound system allows Stable config ∧ system.RunMeets NoStaleSave config after := by
    rw [hmoves, System.runMeets_append] at hfresh
    exact ⟨system_keeps.sound_run (System.sound_initial store) hfresh.1 hrun, hfresh.2 config hrun⟩
  have hlater {before between after config config'} (hmoves : moves = before ++ between ++ after)
      (hrun : system.run (.initial store) before = some config)
      (hbetween : system.run config between = some config') : Later config.store config'.store := by
    obtain ⟨hconfig, hrest⟩ := hsound (hmoves.trans (List.append_assoc _ _ _)) hrun
    exact System.rel_of_run Later system_keeps (fun _ => ⟨fun _ => rfl, fun _ => rfl⟩) (fun _ _ _ => later_trans)
      (fun _ choice _ _ => exec_later choice) hconfig (System.runMeets_append.mp hrest).1 hbetween
  refine ⟨fun before move after config config' hmoves hrun hmove => ?_,
    fun _ _ _ _ _ hmoves hrun hbetween => (hlater hmoves hrun hbetween).1,
    fun _ _ _ _ _ hmoves hrun hbetween => (hlater hmoves hrun hbetween).2⟩
  obtain ⟨hconfig, hmeets, -⟩ := hsound hmoves hrun
  exact System.rel_of_move (fun s t : Store => t.row.state = s.row.state ∨ s.row.state.leadsTo t.row.state)
    (fun _ => .inl rfl) (fun _ choice _ _ hallows hguard _ => exec_along choice hallows hguard) hconfig hmeets hmove

def pendingRequest : Store where
  row :=
    { pk := 5, state := .pending, requestedBy := some 1, authorizer := none, vmid := some 100, node := "pve1",
      kind := .qemu, rejectReason := "", requestedAt := some 0 }
  selfApproval := false
  posts := []

def goesThrough : Choice := ⟨none, some "http://proxbox:8800", ⟨200, .null⟩, true⟩

def steps (threads : List Nat) : List (Move Actor Choice) := threads.map (.step · goesThrough)

def approvedAndExecuted : List (Move Actor Choice) :=
  .start (.approve 2 (some 100)) :: steps [0, 0, 0] ++ .start .executorJob :: steps [1, 1, 1, 1, 1]

theorem approvedAndExecuted_kept :
    (system.run (.initial pendingRequest) approvedAndExecuted).map (·.store.row.state) = some .succeeded ∧
      LifecycleKept pendingRequest approvedAndExecuted :=
  ⟨by decide +kernel, lifecycleKept_of_noStaleSave _ _ (by decide +kernel)⟩

/-- Users 2 and 3 both read the pending request, and user 3 rejects it. -/
def rejectedWhileApproving : List (Move Actor Choice) :=
  .start (.approve 2 (some 100)) :: .start (.reject 3 "keep it") :: steps [0, 1, 1]

/-- User 2's approval is saved over the rejection, and the executor runs. -/
def approvedAfterwards : List (Move Actor Choice) := steps [0, 0] ++ .start .executorJob :: steps [2, 2, 2, 2, 2]

theorem rejected_request_executed :
    ¬ LifecycleKept pendingRequest (rejectedWhileApproving ++ approvedAfterwards) := by
  intro hkept
  obtain ⟨config, hrun, hrejected⟩ := Option.map_eq_some_iff.mp
    (show (system.run (.initial pendingRequest) rejectedWhileApproving).map
        (fun config => (config.store.row.state, config.store.posts)) = some (.rejected, []) by decide +kernel)
  have hexecuted : ((system.run (.initial pendingRequest) rejectedWhileApproving).bind
      (system.run · approvedAfterwards)).map (·.store.posts.length) = some 1 := by decide +kernel
  rw [hrun, Option.bind_some] at hexecuted
  obtain ⟨config', hrun', hposts⟩ := Option.map_eq_some_iff.mp hexecuted
  obtain ⟨hstate, hnone⟩ := Prod.mk.injEq .. ▸ hrejected
  have hsame := hkept.rejected _ _ [] config config' (List.append_nil _).symm hrun hrun' hstate
  rw [hsame, hnone] at hposts
  cases hposts

end Proxbox.Deletion
