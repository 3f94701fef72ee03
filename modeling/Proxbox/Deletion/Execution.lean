import Proxbox.Deletion.Lifecycle
/-!
# The execution of a deletion request

What the backend is asked to do for one request, and on whose word. The actors and the store are those of the
lifecycle; a thread is followed by its whole `View`.
-/

namespace Proxbox.Deletion

open Python Interleaving

def execution : System Actor Choice Store View Command Command.Reply where
  program := program
  exec := exec
  unseen := ⟨none, false, false⟩
  next := View.next

/-! ### At most one request -/

/-- An approval is saved over a pending row, and a claim over an approved one. -/
def NoStaleClaim (store : Store) (_ : View) : Command → Prop
  | .save update => update.state = .approved ∨ update.state = .executing → store.row.state.leadsTo update.state
  | _ => True

instance (store : Store) (view : View) : (command : Command) → Decidable (NoStaleClaim store view command)
  | .save update =>
    inferInstanceAs (Decidable (update.state = .approved ∨ update.state = .executing → _))
  | .get | .selfApprovalAllowed | .getFastapiRequestContext | .post _ | .enqueue | .setSelfApproval _ =>
    .isTrue trivial

def State.unclaimed : State → Bool
  | .pending | .approved => true
  | .rejected | .executing | .succeeded | .failed => false

def View.claims (view : View) : Nat := view.claimed.toNat

def Store.claims (store : Store) : Nat := store.posts.length + store.row.state.unclaimed.toNat

theorem leadsTo_ne_pending {before after : State} (hleads : before.leadsTo after) : after ≠ .pending := by
  rintro rfl
  cases before <;> cases hleads

theorem claims_save {before after : State} (hafter : after ≠ .pending)
    (hfresh : after = .approved ∨ after = .executing → before.leadsTo after) :
    (decide (after = .executing)).toNat + after.unclaimed.toNat ≤ before.unclaimed.toNat := by
  revert hafter hfresh
  cases before <;> cases after <;> decide

theorem claims_post (store : Store) (choice : Choice) (request : ExecuteRequest) :
    (exec store choice (.post request)).2.claims ≤ store.claims + 1 := by
  simp only [exec, Store.claims]
  split_ifs
  · simp only [List.length_append, List.length_singleton]
    omega
  · omega

variable (choice : Choice)

theorem claims_exec {store : Store} {view : View} {command : Command}
    (hallows : view.allows command) (hfresh : NoStaleClaim store view command) :
    (view.next command (exec store choice command).1).claims + (exec store choice command).2.claims
      ≤ view.claims + store.claims := by
  cases command with
  | get | selfApprovalAllowed =>
    cases hraised : choice.raised <;> simp [exec, View.next, Choice.result, hraised, View.claims]
  | getFastapiRequestContext | enqueue => rfl
  | setSelfApproval allowed =>
    simp only [exec, View.next]
    split_ifs <;> rfl
  | post request =>
    have hclaimed : view.claims = 1 := by rw [View.claims, show view.claimed = true from hallows.1]; rfl
    have hpost := claims_post store choice request
    rw [hclaimed]
    simp only [View.next, View.claims, Bool.toNat_false]
    omega
  | save update =>
    obtain ⟨row, -, hleads, -⟩ := hallows
    have hclaims := claims_save (leadsTo_ne_pending hleads) hfresh
    cases hraised : choice.raised with
    | some text => simp [exec, View.next, Choice.result, hraised]
    | none =>
      simp only [exec, View.next, Choice.result, hraised, View.claims, Store.claims, Update.apply,
        Option.isNone_none, if_true]
      omega

theorem execution_keeps : System.Keeps execution NoStaleClaim View.allows fun _ _ => True where
  program actor := program_issues actor _
  unseen _ := trivial
  own _ _ _ _ _ _ _ := trivial
  other _ _ _ _ _ _ _ _ _ := trivial

/-- One request at most is sent when no approval and no claim is saved over a row that has moved on. -/
theorem executed_at_most_once (store : Store) (hunsent : store.posts = []) (moves : List (Move Actor Choice))
    (hfresh : execution.RunMeets NoStaleClaim (.initial store) moves) (config : Config Store View Command Command.Reply)
    (hrun : execution.run (.initial store) moves = some config) : config.store.posts.length ≤ 1 := by
  have htokens := System.tokens_run_le View.claims Store.claims execution_keeps rfl
    (fun _ choice _ _ hallows hguard _ => claims_exec choice hallows hguard) (System.sound_initial store) hfresh hrun
  have hunclaimed := Bool.toNat_le store.row.state.unclaimed
  simp only [System.tokens, Store.claims, Config.initial, hunsent, List.map_nil, List.sum_nil,
    List.length_nil] at htokens
  omega

theorem approvedAndExecuted_sends_one :
    (execution.run (.initial pendingRequest) approvedAndExecuted).map (·.store.posts.length) = some 1 ∧
      ∀ config ∈ execution.run (.initial pendingRequest) approvedAndExecuted, config.store.posts.length ≤ 1 := by
  refine ⟨by decide +kernel, ?_⟩
  intro config hrun
  have hfresh : execution.RunMeets NoStaleClaim (.initial pendingRequest) approvedAndExecuted := by decide +kernel
  exact executed_at_most_once pendingRequest rfl approvedAndExecuted hfresh config hrun

/-- Two users approve the request, and both executor jobs read it as approved before either saves `executing`.
-/
def approvedTwice : List (Move Actor Choice) :=
  .start (.approve 2 (some 100)) :: .start (.approve 3 (some 100)) :: steps [0, 1, 0, 1, 0, 1]
    ++ .start .executorJob :: .start .executorJob :: steps [2, 3, 2, 3, 2, 3, 2, 3]

theorem approvedTwice_sends_two :
    (execution.run (.initial pendingRequest) approvedTwice).map (·.store.posts.length) = some 2 := by
  decide +kernel

/-! ### Four eyes -/

/-- The account of a user is deleted, and the foreign keys of the row that name it become null. -/
def deleteUser (store : Store) (user : Int) : Store :=
  { store with
    row := { store.row with
      requestedBy := store.row.requestedBy.filter (· ≠ user)
      authorizer := store.row.authorizer.filter (· ≠ user) } }

/-- A request is sent for a row that records an authorizer, another user than the requester unless the
executor has found self-approval allowed. -/
def FourEyes (store : Store) (view : View) : Command → Prop
  | .post _ => store.row.authorizer.isSome ∧ (store.row.authorizer ≠ store.row.requestedBy ∨ view.allowed)
  | _ => True

instance (store : Store) (view : View) : (command : Command) → Decidable (FourEyes store view command)
  | .post _ => inferInstanceAs (Decidable (_ ∧ _))
  | .get | .selfApprovalAllowed | .getFastapiRequestContext | .save _ | .enqueue | .setSelfApproval _ =>
    .isTrue trivial

def State.authorized : State → Bool
  | .approved | .executing | .succeeded | .failed => true
  | .pending | .rejected => false

/-- The account of the authorizer is not deleted once the request is approved. -/
def AuthorizerStays (store : Store) (user : Int) : Prop :=
  store.row.state.authorized → store.row.authorizer ≠ some user

instance (store : Store) (user : Int) : Decidable (AuthorizerStays store user) :=
  inferInstanceAs (Decidable (_ → _))

def Authorized (store : Store) : Prop := store.row.state.authorized → store.row.authorizer.isSome

/-- What a thread knows of the stored row: the requester, unless the account is gone, and the authorizer, until
the row is claimed. -/
structure Known (store : Store) (view : View) : Prop where
  requester : ∀ row, view.copy = some row →
    store.row.requestedBy = row.requestedBy ∨ store.row.requestedBy = none
  approved : ∀ row, view.copy = some row → row.state = .approved → store.row.state.authorized ∧
    row.authorizer.isSome ∧ (store.row.state = .approved → store.row.authorizer = row.authorizer)
  claimed : view.claimed → store.row.state.authorized ∧
    (store.row.authorizer ≠ store.row.requestedBy ∨ view.allowed)

theorem known_of_row_eq {store store' : Store} {view : View} (hrow : store'.row = store.row)
    (hknown : Known store view) : Known store' view :=
  ⟨by rw [hrow]; exact hknown.requester, by rw [hrow]; exact hknown.approved, by rw [hrow]; exact hknown.claimed⟩

section Steps

variable {store : Store} {view : View}

theorem save_stored {update : Update} (hallows : view.allows (.save update))
    (hfresh : NoStaleSave store view.copy (.save update)) :
    store.row.state.leadsTo update.state ∧ (store.row.state.authorized → update.authorizer = none) := by
  obtain ⟨row, hcopy, hleads, hauthorizer, -⟩ := hallows
  have hstate : row.state = store.row.state := by simpa [NoStaleSave, hcopy] using hfresh
  refine ⟨hstate ▸ hleads, fun hauthorized => ?_⟩
  by_contra hsome
  rw [← hstate, hauthorizer (Option.isSome_iff_ne_none.mpr hsome)] at hauthorized
  cases hauthorized

theorem leadsTo_of_authorized {before after : State} (hleads : before.leadsTo after) (hbefore : before.authorized) :
    after.authorized ∧ after ≠ .approved := by
  revert hleads hbefore
  cases before <;> cases after <;> decide

theorem apply_authorizer {update : Update} (row : Request) (hnone : update.authorizer = none) :
    (update.apply row).authorizer = row.authorizer := by
  simp [Update.apply, hnone]

theorem authorized_exec {command : Command} (hallows : view.allows command)
    (hfresh : NoStaleSave store view.copy command) (hauthorized : Authorized store) :
    Authorized (exec store choice command).2 := by
  obtain ⟨hrow, -⟩ | ⟨update, rfl, -, hstore⟩ := exec_cases store choice command
  · rw [Authorized, hrow]
    exact hauthorized
  · obtain ⟨hleads, hkept⟩ := save_stored hallows hfresh
    obtain ⟨-, -, -, -, happroval, -⟩ := hallows
    rw [Authorized, hstore]
    intro hafter
    cases hbefore : store.row.state.authorized with
    | true => exact apply_authorizer store.row (hkept hbefore) ▸ hauthorized hbefore
    | false =>
      -- the one way from an unauthorized state to an authorized one is an approval
      have happroved : update.state = .approved := by
        change update.state.authorized = true at hafter
        revert hleads hbefore hafter
        cases store.row.state <;> cases update.state <;> decide
      obtain ⟨user, huser⟩ := Option.isSome_iff_exists.mp (happroval happroved)
      simp [Update.apply, huser]

theorem known_other {command : Command} (hallows : view.allows command)
    (hfresh : NoStaleSave store view.copy command) {view' : View} (hknown : Known store view') :
    Known (exec store choice command).2 view' := by
  obtain ⟨hrow, -⟩ | ⟨update, rfl, -, hstore⟩ := exec_cases store choice command
  · exact known_of_row_eq hrow hknown
  · obtain ⟨hleads, hkept⟩ := save_stored hallows hfresh
    rw [hstore]
    refine ⟨hknown.requester, fun row hcopy happroved => ?_, fun hclaimed => ?_⟩
    · obtain ⟨hbefore, hsome, -⟩ := hknown.approved row hcopy happroved
      obtain ⟨hafter, hmoved⟩ := leadsTo_of_authorized hleads hbefore
      exact ⟨hafter, hsome, fun h => absurd h hmoved⟩
    · obtain ⟨hbefore, hcheck⟩ := hknown.claimed hclaimed
      obtain ⟨hafter, -⟩ := leadsTo_of_authorized hleads hbefore
      exact ⟨hafter, by rw [apply_authorizer _ (hkept hbefore)]; exact hcheck⟩

theorem known_get (hauthorized : Authorized store) (hknown : Known store view) :
    Known store { view with copy := some store.row } := by
  refine ⟨fun row hcopy => ?_, fun row hcopy happroved => ?_, hknown.claimed⟩
  · exact .inl (Option.some.inj hcopy ▸ rfl)
  · obtain rfl := Option.some.inj hcopy
    have hstate : store.row.state.authorized := by rw [happroved]; rfl
    exact ⟨hstate, hauthorized hstate, fun _ => rfl⟩

theorem known_read (allowed : Bool) (hknown : Known store view) :
    Known store { view with allowed := view.allowed || allowed } := by
  refine ⟨hknown.requester, hknown.approved, fun hclaimed => ?_⟩
  obtain ⟨hstate, hcheck⟩ := hknown.claimed hclaimed
  exact ⟨hstate, hcheck.imp_right fun hallowed => Bool.or_eq_true_iff.mpr (.inl hallowed)⟩

theorem leadsTo_executing {before : State} (hleads : before.leadsTo .executing) : before = .approved := by
  revert hleads
  cases before <;> decide

theorem known_save {update : Update} (hallows : view.allows (.save update))
    (hfresh : NoStaleSave store view.copy (.save update)) (hknown : Known store view) :
    Known { store with row := update.apply store.row }
      ⟨view.copy.map update.apply, view.allowed, update.state = .executing⟩ := by
  obtain ⟨hleads, hkept⟩ := save_stored hallows hfresh
  obtain ⟨row, hcopy, -, -, happroval, hcheck⟩ := hallows
  refine ⟨fun row' hrow' => ?_, fun row' hrow' happroved => ?_, fun hclaimed => ?_⟩
  · obtain rfl : update.apply row = row' := by simpa [hcopy] using hrow'
    exact hknown.requester row hcopy
  · obtain rfl : update.apply row = row' := by simpa [hcopy] using hrow'
    have happroved : update.state = .approved := happroved
    obtain ⟨user, huser⟩ := Option.isSome_iff_exists.mp (happroval happroved)
    exact ⟨by simp [Update.apply, happroved, State.authorized], by simp [Update.apply, huser],
      fun _ => by simp [Update.apply, huser]⟩
  · have hclaimed : update.state = .executing := of_decide_eq_true hclaimed
    have hbefore : store.row.state = .approved := leadsTo_executing (hclaimed ▸ hleads)
    have hstate : row.state = store.row.state := by simpa [NoStaleSave, hcopy] using hfresh
    obtain ⟨-, hsome, hsame⟩ := hknown.approved row hcopy (hstate.trans hbefore)
    refine ⟨by simp [Update.apply, hclaimed, State.authorized], ?_⟩
    rw [apply_authorizer _ (hkept (by rw [hbefore]; rfl)), hsame hbefore]
    obtain hnone | hdiffer | hallowed := hcheck hclaimed
    · simp [hnone] at hsome
    · left
      change row.authorizer ≠ store.row.requestedBy
      obtain hrequester | hgone := hknown.requester row hcopy
      · rwa [hrequester]
      · rw [hgone]
        exact Option.isSome_iff_ne_none.mp hsome
    · exact .inr hallowed

theorem known_own {command : Command} (hallows : view.allows command)
    (hfresh : NoStaleSave store view.copy command) (hauthorized : Authorized store) (hknown : Known store view) :
    Known (exec store choice command).2 (view.next command (exec store choice command).1) := by
  have hkept := known_other choice hallows hfresh hknown
  cases command with
  | getFastapiRequestContext | enqueue | setSelfApproval allowed => exact hkept
  | post request => exact ⟨hkept.requester, hkept.approved, nofun⟩
  | get =>
    cases hraised : choice.raised with
    | some text => simpa [exec, View.next, Choice.result, hraised] using hkept
    | none => simpa [exec, View.next, Choice.result, hraised] using known_get hauthorized hknown
  | selfApprovalAllowed =>
    cases hraised : choice.raised with
    | some text => simpa [exec, View.next, Choice.result, hraised] using hkept
    | none =>
      simpa [exec, View.next, Choice.result, hraised] using known_read store.selfApproval hknown
  | save update =>
    cases hraised : choice.raised with
    | some text => simpa [exec, View.next, Choice.result, hraised] using hkept
    | none => simpa [exec, View.next, Choice.result, hraised] using known_save hallows hfresh hknown

variable {user : Int}

theorem deleteUser_authorizer (hstays : AuthorizerStays store user)
    (hstate : store.row.state.authorized) : (deleteUser store user).row.authorizer = store.row.authorizer := by
  have hother := hstays hstate
  cases hauthorizer : store.row.authorizer with
  | none => simp [deleteUser, hauthorizer]
  | some authorizer =>
    rw [hauthorizer] at hother
    simp [deleteUser, hauthorizer, Option.filter, show authorizer ≠ user by simpa using hother]

theorem deleteUser_requestedBy (store : Store) (user : Int) :
    (deleteUser store user).row.requestedBy = store.row.requestedBy ∨
      (deleteUser store user).row.requestedBy = none := by
  cases hrequester : store.row.requestedBy with
  | none => simp [deleteUser, hrequester]
  | some requester => by_cases hsame : requester = user <;> simp [deleteUser, hrequester, Option.filter, hsame]

theorem authorized_deleteUser (hstays : AuthorizerStays store user) (hauthorized : Authorized store) :
    Authorized (deleteUser store user) := by
  intro hstate
  rw [deleteUser_authorizer hstays hstate]
  exact hauthorized hstate

theorem known_deleteUser (hstays : AuthorizerStays store user) (hauthorized : Authorized store)
    (hknown : Known store view) : Known (deleteUser store user) view := by
  have hrequester := deleteUser_requestedBy store user
  refine ⟨fun row hcopy => ?_, fun row hcopy happroved => ?_, fun hclaimed => ?_⟩
  · obtain hsame | hgone := hrequester
    · rw [hsame]
      exact hknown.requester row hcopy
    · exact .inr hgone
  · obtain ⟨hstate, hsome, hsame⟩ := hknown.approved row hcopy happroved
    refine ⟨hstate, hsome, fun happroved => ?_⟩
    rw [deleteUser_authorizer hstays hstate]
    exact hsame happroved
  · obtain ⟨hstate, hcheck⟩ := hknown.claimed hclaimed
    refine ⟨hstate, ?_⟩
    rw [deleteUser_authorizer hstays hstate]
    obtain hsame | hgone := hrequester
    · rwa [hsame]
    · rw [hgone]
      exact .inl (Option.isSome_iff_ne_none.mp (hauthorized hstate))

theorem known_unseen (store : Store) : Known store ⟨none, false, false⟩ where
  requester _ hcopy := by cases hcopy
  approved _ hcopy := by cases hcopy
  claimed hclaimed := by cases hclaimed

theorem execution_maintains : System.Maintains execution deleteUser
    (fun store view => NoStaleSave store view.copy) AuthorizerStays View.allows Authorized Known where
  program actor := program_issues actor _
  unseen store _ := known_unseen store
  execInv _ choice _ _ hallows hfresh hauthorized _ := authorized_exec choice hallows hfresh hauthorized
  own _ choice _ _ hallows hfresh hauthorized hknown := known_own choice hallows hfresh hauthorized hknown
  other _ choice _ _ _ hallows hfresh _ _ hknown := known_other choice hallows hfresh hknown
  outsideInv _ _ hstays hauthorized := authorized_deleteUser hstays hauthorized
  outside _ _ _ hstays hauthorized hknown := known_deleteUser hstays hauthorized hknown

end Steps

/-- Over any history from a pending request, every request sent has its second pair of eyes, as long as no save
is stale and the account of the authorizer stays. -/
theorem fourEyes_of_authorizerStays (store : Store) (hpending : store.row.state = .pending)
    (events : List (Event Actor Choice Int))
    (hmeets : execution.HistoryMeets (fun store view => NoStaleSave store view.copy) deleteUser AuthorizerStays
      (.initial store) events) :
    execution.HistoryMeets FourEyes deleteUser (fun _ _ => True) (.initial store) events := by
  refine execution_maintains.historyMeets ?_ ?_ (System.sound_initial store) hmeets
  · intro store view command hallows _ hauthorized hknown
    cases command with
    | post request =>
      obtain ⟨hstate, hcheck⟩ := hknown.claimed hallows.1
      exact ⟨hauthorized hstate, hcheck⟩
    | get | selfApprovalAllowed | save | getFastapiRequestContext | enqueue | setSelfApproval => trivial
  · intro hstate
    rw [Config.initial, hpending] at hstate
    cases hstate

def requesterDeleted : List (Event Actor Choice Int) :=
  (Move.start (.approve 2 (some 100)) :: steps [0, 0, 0] ++ .start .executorJob :: steps [1, 1]).map .move
    ++ .outside 1 :: (steps [1, 1, 1]).map .move

theorem requesterDeleted_fourEyes :
    execution.HistoryMeets FourEyes deleteUser (fun _ _ => True) (.initial pendingRequest) requesterDeleted := by
  have hmeets : execution.HistoryMeets (fun store view => NoStaleSave store view.copy) deleteUser AuthorizerStays
      (.initial pendingRequest) requesterDeleted := by decide +kernel
  exact fourEyes_of_authorizerStays pendingRequest rfl requesterDeleted hmeets

def authorizerDeleted : List (Event Actor Choice Int) :=
  (Move.start (.approve 2 (some 100)) :: steps [0, 0, 0]).map .move
    ++ .outside 2 :: (.start .executorJob :: steps [1, 1, 1, 1]).map .move

theorem authorizerDeleted_not_fourEyes :
    ¬ execution.HistoryMeets FourEyes deleteUser (fun _ _ => True) (.initial pendingRequest) authorizerDeleted := by
  decide +kernel

end Proxbox.Deletion
