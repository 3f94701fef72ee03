import Proxbox.Library.Grouping
import Proxbox.Library.Json
/-!
# Binding sync-state rows to endpoints

Rows of virtual machines that have no endpoint yet are bound to the endpoint that claims their backend id, if
their relations agree or an operator has reviewed them. A preview counts what an apply binds. The review is a
token that holds the reviewed keys; it is decoded and checked again before anything is bound.
-/

namespace Proxbox

open Python

/-! ### Claims -/

/-- `_canonical_positive_id`; the source carries the integer as its decimal text. -/
def canonicalPositiveId (value : String) : Option Nat :=
  (intLiteral value).bind fun n => if 0 < n then some n.toNat else none

/-- Backend ids by the keys of plugin endpoints. -/
abbrev EndpointIdMap := List (String × String)

def validClaims (backendIds : EndpointIdMap) : List (Nat × Nat) :=
  backendIds.filterMap fun entry => do return (← canonicalPositiveId entry.2, ← canonicalPositiveId entry.1)

def endpointClaims (backendIds : EndpointIdMap) : Dict Nat (List Nat) :=
  Dict.accumulate Prod.fst (fun found claim => if claim.2 ∈ found.getD [] then
    found.getD [] else found.getD [] ++ [claim.2])
    Dict.empty (validClaims backendIds)

def skippedClaims (backendIds : EndpointIdMap) : List (String × String) :=
  backendIds.filterMap fun (pluginPk, backendId) =>
    match canonicalPositiveId backendId, canonicalPositiveId pluginPk with
    | none, _ => some (if strip backendId = "" then "<blank>" else strip backendId,
        "backend id is not a positive integer")
    | some id, none => some (toString id, "plugin endpoint primary key " ++ Python.reprStr pluginPk ++
        " is not a positive integer")
    | some _, some _ => none

def ambiguousClaimReasons (claims : Dict Nat (List Nat)) : List (String × String) :=
  (claims.items.filter fun claim => 1 < claim.2.length).map fun claim =>
    (toString claim.1, "claimed by multiple ProxmoxEndpoint primary keys: " ++
      ", ".intercalate ((sortedBy id claim.2).map toString))

def skippedBackendIds (backendIds : EndpointIdMap) : Dict String String :=
  Dict.ofWrites (skippedClaims backendIds ++ ambiguousClaimReasons (endpointClaims backendIds))

/-- The backend id is claimed by this plugin endpoint and by no other. -/
def SoleClaim (backendIds : EndpointIdMap) (backendId pluginPk : Nat) : Prop :=
  ∀ other, (∃ entry ∈ backendIds, canonicalPositiveId entry.2 = some backendId ∧
    canonicalPositiveId entry.1 = some other) ↔
    other = pluginPk

theorem mem_endpointClaims {backendIds : EndpointIdMap} {backendId pluginPk : Nat} :
    pluginPk ∈ ((endpointClaims backendIds).get? backendId).getD [] ↔
      ∃ entry ∈ backendIds, canonicalPositiveId entry.2 = some backendId ∧ canonicalPositiveId entry.1 =
        some pluginPk := by
  have hfold (claims : List (Nat × Nat)) (found : Option (List Nat)) :
      pluginPk ∈ (claims.foldl (fun found claim =>
        some (if claim.2 ∈ found.getD [] then found.getD [] else found.getD [] ++ [claim.2])) found).getD [] ↔
        pluginPk ∈ found.getD [] ∨ pluginPk ∈ claims.map Prod.snd := by
    induction claims generalizing found with
    | nil => simp
    | cons claim claims ih =>
      rw [List.foldl_cons, ih, List.map_cons, List.mem_cons, Option.getD_some]
      split_ifs with hmem
      · grind
      · grind
  rw [endpointClaims, Dict.get?_accumulate, hfold]
  simp only [validClaims, List.mem_map, List.mem_filter, List.mem_filterMap, Option.bind_eq_bind,
    Option.bind_eq_some_iff,
    Option.pure_def, Option.some.injEq, decide_eq_true_eq]
  constructor
  · rintro (h | ⟨_, ⟨⟨entry, hentry, _, hbackend, _, hplugin, rfl⟩, rfl⟩, rfl⟩)
    · cases h
    · exact ⟨entry, hentry, hbackend, hplugin⟩
  · rintro ⟨entry, hentry, hbackend, hplugin⟩
    exact .inr ⟨_, ⟨⟨entry, hentry, _, hbackend, _, hplugin, rfl⟩, rfl⟩, rfl⟩

theorem soleClaim_of_mem {backendIds : EndpointIdMap} {backendId pluginPk : Nat} {others : List Nat}
    (hclaim : (backendId, pluginPk :: others) ∈ (endpointClaims backendIds).items)
    (hskip : toString backendId ∉ (skippedBackendIds backendIds).keys) :
      SoleClaim backendIds backendId pluginPk := by
  have hone : others = [] := by
    by_contra hne
    refine hskip ((Dict.mem_keys_ofWrites _ _).2 ?_)
    rw [List.map_append, List.mem_append]
    refine .inr (List.mem_map.2 ⟨_, List.mem_map.2 ⟨_, List.mem_filter.2 ⟨hclaim, ?_⟩, rfl⟩, rfl⟩)
    simp [List.length_pos_iff.2 hne]
  subst hone
  intro other
  rw [← mem_endpointClaims, (Dict.mem_items_iff_get? _ _ _).1 hclaim]
  simp

/-! ### Evidence -/

structure SyncStateRow where
  pk : Nat
  endpoint : Option Nat
  rawId : Option Int
  cluster : Option Nat
  node : Option Nat
  clusterName : String

structure BackfillTables where
  rows : List SyncStateRow
  pk_nodup : (rows.map (·.pk)).Nodup
  /-- The endpoints of the cluster and node rows. -/
  clusterEndpoint : Nat → Option Nat
  nodeEndpoint : Nat → Option Nat

def isCandidate (backendId : Nat) (row : SyncStateRow) : Bool :=
  row.endpoint.isNone && row.rawId == some (backendId : Int)

def candidateRows (rows : List SyncStateRow) (backendId : Nat) : List SyncStateRow :=
  sortedBy (·.pk) (rows.filter (isCandidate backendId))

inductive Refusal
  | noRelationEvidence
  | notCorroborated
  | relationsDisagree
  deriving DecidableEq

/-- Why a row is not corroborated, if it is not. -/
def refusal (tables : BackfillTables) (pluginPk : Nat) (row : SyncStateRow) : Option Refusal :=
  if row.cluster.isNone && row.node.isNone then some .noRelationEvidence
  else if row.cluster.all (tables.clusterEndpoint · == some pluginPk) && row.node.all
    (tables.nodeEndpoint · == some pluginPk) then none
  else if row.cluster.isSome && row.node.isSome then some .relationsDisagree
  else some .notCorroborated

/-- There is a relation, and each one belongs to the endpoint. -/
def Corroborated (tables : BackfillTables) (pluginPk : Nat) (row : SyncStateRow) : Prop :=
  (row.cluster.isSome = true ∨ row.node.isSome = true) ∧ (∀ pk ∈ row.cluster, tables.clusterEndpoint pk =
    some pluginPk) ∧
    ∀ pk ∈ row.node, tables.nodeEndpoint pk = some pluginPk

theorem refusal_eq_none_iff {tables : BackfillTables} {pluginPk : Nat} {row : SyncStateRow} :
    refusal tables pluginPk row = none ↔ Corroborated tables pluginPk row := by
  unfold refusal Corroborated
  cases row.cluster <;> cases row.node <;> simp

def unverifiedRows (tables : BackfillTables) (rows : List SyncStateRow) (pluginPk : Nat) : List SyncStateRow :=
  rows.filter fun row => (refusal tables pluginPk row).isSome

structure ReasonBucket where
  reason : Refusal
  count : Nat
  pks : List Nat
  sampleRows : Option (List (Nat × String))

structure BindingBucket where
  backendId : Nat
  pluginEndpointPk : Nat
  count : Nat
  pks : List Nat
  reason : String
  reasons : List ReasonBucket
  reviewToken : Option String

def unverifiedSampleLimit : Nat := 20

def unverifiedReason (pluginPk : Nat) : String :=
  "at least one locked cluster/node relation must be present and every present relation must belong to plugin endpoint " ++
    toString pluginPk ++ "; a recorded cluster name is not automatic ownership evidence"

def bindingBucket (tables : BackfillTables) (backendId pluginPk : Nat) (rows : List SyncStateRow) (bounded : Bool)
    (token : Option String) : BindingBucket :=
  let shown {α : Type} (items : List α) := if bounded then items.take unverifiedSampleLimit else items
  { backendId, pluginEndpointPk := pluginPk, count := rows.length, pks := shown (rows.map (·.pk))
    reason := unverifiedReason pluginPk
    reasons := [Refusal.noRelationEvidence, .notCorroborated, .relationsDisagree].filterMap fun reason =>
      let own := rows.filter fun row => refusal tables pluginPk row = some reason
      if own.isEmpty then none
      else some { reason, count := own.length, pks := (shown own).map (·.pk)
                  sampleRows := if bounded then some ((shown own).map fun row =>
                    (row.pk, row.clusterName)) else none }
    reviewToken := token }

/-! ### Review tokens -/

inductive Loaded
  | value (json : Json)
  | refused
  /-- `RecursionError`, here or in the `json.dumps` that follows. -/
  | tooDeep

/-- The functions that a token is made and read with. -/
structure TokenLibrary where
  /-- `urlsafe_b64encode` without the padding, and the decoding of a text with the padding added, `none` where
  that raises. -/
  encode : List Char → List Char
  decode : List Char → Option (List Char)
  digest : List Char → List Char
  dumps : Json → List Char
  loads : List Char → Loaded

inductive BackfillError
  | review (message : String)
  | typeError
  | recursionError
  deriving DecidableEq

def tokenMapping (backendIds : EndpointIdMap) : Json :=
  .arr ((sortedBy (·.1) (endpointClaims backendIds).items).flatMap fun claim =>
    (sortedBy id claim.2).map fun pluginPk => .arr [.str (toString pluginPk), .str (toString claim.1)])

def tokenPayload (backendId pluginPk : Nat) (rowPks : List Nat) (backendIds : EndpointIdMap) : Json :=
  .obj [("backend_id", .str (toString backendId)), ("mapping", tokenMapping backendIds),
    ("plugin_endpoint_pk", .str (toString pluginPk)), ("row_pks", .arr (rowPks.map fun pk => .int (Int.ofNat pk)))]

section Tokens

variable (library : TokenLibrary) (backendIds : EndpointIdMap) (backendId pluginPk : Nat)

def reviewToken (rowPks : List Nat) : String :=
  let payload := library.dumps (tokenPayload backendId pluginPk rowPks backendIds)
  String.ofList ("v1.".toList ++ library.encode payload ++ '.' :: library.digest payload)

def confirmBinding (text : String) : BackfillError :=
  .review ("--confirm-binding " ++ toString backendId ++ "=" ++ toString pluginPk ++ text)

def rowPkOf : Json → Option Nat
  | .int pk => if 0 < pk then some pk.toNat else none
  | _ => none

/-- The keys of a list of positive integers in strict order. -/
def rowPksOf : Json → Option (List Nat)
  | .arr items => do
    let pks ← items.mapM rowPkOf
    if pks.Pairwise (· < ·) then some pks else none
  | _ => none

def sameIdentity (decoded : Fields) : Bool :=
  (decoded.get "backend_id").eq (.str (toString backendId)) && (decoded.get "mapping").eq
    (tokenMapping backendIds) &&
    (decoded.get "plugin_endpoint_pk").eq (.str (toString pluginPk))

def reviewedRowPks (token : Option String) : Except BackfillError (List Nat) :=
  let invalid := confirmBinding backendId pluginPk " has an invalid review token."
  let text := (token.getD "").toList
  if text = [] then .error (confirmBinding backendId pluginPk " requires the dry-run review token on apply.")
  else match text.splitOn '.' with
    | [version, encoded, suppliedDigest] =>
      match library.decode encoded with
      | none => .error invalid
      | some payload =>
        match library.loads payload with
        | .refused => .error invalid
        | .tooDeep => .error .recursionError
        | .value decoded =>
          if version ≠ "v1".toList || !decoded.isDict || library.dumps
            decoded ≠ payload || suppliedDigest.length ≠ 16 then .error invalid
          -- `hmac.compare_digest` takes texts of ASCII characters only.
          else if !suppliedDigest.all (·.toNat < 128) then .error .typeError
          else if suppliedDigest ≠ library.digest payload then .error invalid
          else if !sameIdentity backendIds backendId pluginPk decoded.asDict then
            .error (confirmBinding backendId pluginPk
              " review token mapping no longer matches the current endpoint mapping. Run a new dry run.")
          else match rowPksOf (decoded.asDict.get "row_pks") with
            | none => .error invalid
            | some pks => .ok pks
    | _ => .error invalid

def requireReviewedRowSet (reviewed current : List Nat) : Except BackfillError Unit :=
  let added := sortedBy id (current.filter (· ∉ reviewed)).dedup
  let removed := sortedBy id (reviewed.filter (· ∉ current)).dedup
  if added.isEmpty && removed.isEmpty then .ok ()
  else .error (confirmBinding backendId pluginPk (" review set changed; added_pks=" ++ toString added ++
    "; removed_pks=" ++ toString removed ++ ". Run a new dry run."))

end Tokens

/-! ### The pass -/

structure BackfillRequest where
  backendIds : EndpointIdMap
  confirmedBindings : EndpointIdMap
  reviewTokens : List (String × String)

def BackfillRequest.confirmationPairs (request : BackfillRequest) : List (Nat × Nat) :=
  validClaims (request.confirmedBindings.map Prod.swap)

def BackfillRequest.confirmationTokens (request : BackfillRequest) : Dict Nat String :=
  Dict.ofWrites (request.reviewTokens.filterMap fun entry => (canonicalPositiveId entry.1).map fun id =>
    (id, entry.2))

structure BackfillSummary where
  rowsBound : Nat
  unverified : List BindingBucket
  confirmed : List BindingBucket

def bindRows (rows : List SyncStateRow) (backendId pluginPk : Nat) (pks : List Nat) : List SyncStateRow :=
  rows.map fun row => if isCandidate backendId row && pks.contains row.pk then
    { row with endpoint := some pluginPk } else row

section Pass

variable (library : TokenLibrary) (tables : BackfillTables) (request : BackfillRequest) (apply : Bool)

/-- On apply a confirmed pair needs the token of exactly these keys. -/
def requireReview (confirmed : Bool) (backendId pluginPk : Nat) (unverifiedPks : List Nat) :
    Except BackfillError Unit :=
  if confirmed && apply then do
    let reviewed ← reviewedRowPks library request.backendIds backendId pluginPk
      (request.confirmationTokens.get? backendId)
    requireReviewedRowSet backendId pluginPk reviewed unverifiedPks
  else .ok ()

def backfillClaim (rows : List SyncStateRow) (summary : BackfillSummary) (backendId pluginPk : Nat) :
    Except BackfillError (List SyncStateRow × BackfillSummary) := do
  let candidates := candidateRows rows backendId
  let unverified := unverifiedRows tables candidates pluginPk
  let unverifiedPks := unverified.map (·.pk)
  let confirmed := decide ((backendId, pluginPk) ∈ request.confirmationPairs)
  requireReview library request apply confirmed backendId pluginPk unverifiedPks
  let bound := (candidates.filter fun row => confirmed || (refusal tables pluginPk row).isNone).map (·.pk)
  let token := reviewToken library request.backendIds backendId pluginPk unverifiedPks
  let changed := if apply then rows.countP fun row => isCandidate backendId row && bound.contains row.pk
    else bound.length
  return (if apply then bindRows rows backendId pluginPk bound else rows,
    { rowsBound := summary.rowsBound + changed
      confirmed := if confirmed
        then summary.confirmed ++ [bindingBucket tables backendId pluginPk unverified false (some token)]
        else summary.confirmed
      unverified := if !confirmed && !unverifiedPks.isEmpty
        then summary.unverified ++ [bindingBucket tables backendId pluginPk unverified true none]
        else summary.unverified })

def backfillClaims : List (Nat × List Nat) → List SyncStateRow → BackfillSummary →
    Except BackfillError (List SyncStateRow × BackfillSummary)
  | [], rows, summary => .ok (rows, summary)
  | (backendId, pluginPks) :: claims, rows, summary =>
    match pluginPks with
    | [] => backfillClaims claims rows summary
    | pluginPk :: _ =>
      if toString backendId ∈ (skippedBackendIds request.backendIds).keys then backfillClaims claims rows summary
      else do
        let (rows, summary) ← backfillClaim library tables request apply rows summary backendId pluginPk
        backfillClaims claims rows summary

def backfillSyncStateEndpointRows : Except BackfillError (List SyncStateRow × BackfillSummary) :=
  backfillClaims library tables request apply (sortedBy (·.1) (endpointClaims request.backendIds).items)
    tables.rows ⟨0, [], []⟩

/-- The rows after an apply. It runs in a transaction, so nothing is kept of one that raises. -/
def appliedRows : List SyncStateRow :=
  match backfillSyncStateEndpointRows library tables request true with
  | .ok (rows, _) => rows
  | .error _ => tables.rows

end Pass

/-! ### What is bound -/

def unverifiedPks (tables : BackfillTables) (backendId pluginPk : Nat) : List Nat :=
  (unverifiedRows tables (candidateRows tables.rows backendId) pluginPk).map (·.pk)

/-- The reviewed keys of a confirmed pair: the token holds exactly the rows that are not corroborated. -/
def Reviewed (library : TokenLibrary) (tables : BackfillTables) (request : BackfillRequest)
    (backendId pluginPk : Nat) (row : SyncStateRow) : Prop :=
  (backendId, pluginPk) ∈ request.confirmationPairs ∧
    ∃ pks, reviewedRowPks library request.backendIds backendId pluginPk
        (request.confirmationTokens.get? backendId) = .ok pks ∧
      (∀ pk, pk ∈ pks ↔ pk ∈ unverifiedPks tables backendId pluginPk) ∧ row.pk ∈ pks

inductive Backfilled (library : TokenLibrary) (tables : BackfillTables) (request : BackfillRequest)
    (row : SyncStateRow) : SyncStateRow → Prop
  | kept : Backfilled library tables request row row
  | bound {backendId pluginPk : Nat} : row.endpoint = none → row.rawId = some (backendId : Int) →
      SoleClaim request.backendIds backendId pluginPk →
      Corroborated tables pluginPk row ∨ Reviewed library tables request backendId pluginPk row →
      Backfilled library tables request row { row with endpoint := some pluginPk }

section Sound

variable {library : TokenLibrary} {tables : BackfillTables} {request : BackfillRequest} {rows : List SyncStateRow}
  {backendId pluginPk : Nat}

/-- The rows so far: some of those with a backend id that is done are bound. -/
def Progress (library : TokenLibrary) (tables : BackfillTables) (request : BackfillRequest) (done : Nat → Prop)
    (rows : List SyncStateRow) : Prop :=
  List.Forall₂ (fun row now => Backfilled library tables request row now ∧ now.pk = row.pk ∧
    now.rawId = row.rawId ∧ (now = row ∨ ∃ id : Nat, done id ∧ row.rawId = some (id : Int))) tables.rows rows

variable {done : Nat → Prop}

theorem Progress.candidates (h : Progress library tables request done rows) (hid : ¬ done backendId) :
    rows.filter (isCandidate backendId) = tables.rows.filter (isCandidate backendId) := by
  unfold Progress at h
  generalize tables.rows = before at h ⊢
  induction h with
  | nil => rfl
  | @cons row now rest rests h _ ih =>
    obtain ⟨-, -, hraw, rfl | ⟨id, hdone, hrow⟩⟩ := h
    · rw [List.filter_cons, List.filter_cons, ih]
    · have hne : (id : Int) ≠ backendId := fun heq => hid (Int.ofNat.inj heq ▸ hdone)
      have hother : isCandidate backendId row = false ∧ isCandidate backendId now = false := by
        simp [isCandidate, hraw, hrow, hne]
      rw [List.filter_cons_of_neg (by simp [hother.2]), List.filter_cons_of_neg (by simp [hother.1]), ih]

theorem Progress.candidateRows_eq (h : Progress library tables request done rows) (hid : ¬ done backendId) :
    candidateRows rows backendId = candidateRows tables.rows backendId := by
  rw [candidateRows, h.candidates hid, candidateRows]

theorem Progress.pk_nodup (h : Progress library tables request done rows) : (rows.map (·.pk)).Nodup := by
  have hsame : rows.map (·.pk) = tables.rows.map (·.pk) := by
    unfold Progress at h
    generalize tables.rows = before at h ⊢
    induction h with
    | nil => rfl
    | cons h _ ih => rw [List.map_cons, List.map_cons, ih, h.2.1]
  rw [hsame]
  exact tables.pk_nodup

theorem mem_candidateRows {row : SyncStateRow} :
    row ∈ candidateRows rows backendId ↔ row ∈ rows ∧ isCandidate backendId row = true :=
  (stablySorted_sortedBy _ _).perm.mem_iff.trans List.mem_filter

theorem contains_bound_iff (hnodup : (rows.map (·.pk)).Nodup) (accepts : SyncStateRow → Bool)
    {row : SyncStateRow} (hrow : row ∈ rows) (hcandidate : isCandidate backendId row = true) :
    (((candidateRows rows backendId).filter accepts).map (·.pk)).contains row.pk = accepts row := by
  rw [Bool.eq_iff_iff, List.contains_iff_mem, List.mem_map]
  constructor
  · rintro ⟨other, hother, hpk⟩
    obtain ⟨hmem, haccepts⟩ := List.mem_filter.1 hother
    obtain rfl := List.inj_on_of_nodup_map hnodup (mem_candidateRows.1 hmem).1 hrow hpk
    exact haccepts
  · exact fun h => ⟨row, List.mem_filter.2 ⟨mem_candidateRows.2 ⟨hrow, hcandidate⟩, h⟩, rfl⟩

theorem countP_bound (hnodup : (rows.map (·.pk)).Nodup) (accepts : SyncStateRow → Bool) :
    rows.countP (fun row => isCandidate backendId row &&
        (((candidateRows rows backendId).filter accepts).map (·.pk)).contains row.pk) =
      (((candidateRows rows backendId).filter accepts).map (·.pk)).length := by
  have hperm : (candidateRows rows backendId).Perm (rows.filter (isCandidate backendId)) :=
    (stablySorted_sortedBy _ _).perm
  rw [List.length_map, (hperm.filter accepts).length_eq, List.filter_filter, ← List.countP_eq_length_filter]
  refine List.countP_congr fun row hrow => ?_
  cases hcandidate : isCandidate backendId row with
  | false => simp
  | true => rw [contains_bound_iff hnodup accepts hrow hcandidate, Bool.true_and, Bool.and_true]

theorem mem_reviewed_of_ok {reviewed current : List Nat}
    (h : requireReviewedRowSet backendId pluginPk reviewed current = .ok ()) (pk : Nat) :
    pk ∈ reviewed ↔ pk ∈ current := by
  unfold requireReviewedRowSet at h
  dsimp only at h
  split_ifs at h with hempty
  simp only [Bool.and_eq_true, List.isEmpty_iff] at hempty
  have hnil {items : List Nat} (hsorted : sortedBy id items.dedup = []) : items = [] := by
    have hperm := (stablySorted_sortedBy id items.dedup).perm
    rw [hsorted] at hperm
    exact (List.dedup_eq_nil _).1 hperm.nil_eq.symm
  have hadded := hnil hempty.1
  have hremoved := hnil hempty.2
  rw [List.filter_eq_nil_iff] at hadded hremoved
  constructor
  · exact fun hpk => by simpa using hremoved pk hpk
  · exact fun hpk => by simpa using hadded pk hpk

theorem forall₂_map_right {α β : Type} {R S : α → β → Prop} {f : β → β} {left : List α} {right : List β}
    (h : List.Forall₂ R left right)
    (hstep : ∀ a b, b ∈ right → R a b → S a (f b)) : List.Forall₂ S left (right.map f) := by
  induction h with
  | nil => exact .nil
  | cons h _ ih =>
    exact .cons (hstep _ _ List.mem_cons_self h) (ih fun a b hb => hstep a b (List.mem_cons_of_mem _ hb))

theorem countP_bindRows (rows : List SyncStateRow) (backendId pluginPk : Nat) (pks : List Nat) :
    (bindRows rows backendId pluginPk pks).countP (·.endpoint.isNone) +
      rows.countP (fun row => isCandidate backendId row && pks.contains row.pk) =
        rows.countP (·.endpoint.isNone) := by
  induction rows with
  | nil => rfl
  | cons row rows ih =>
    rw [bindRows, List.map_cons, ← bindRows, List.countP_cons, List.countP_cons, List.countP_cons]
    cases hbound : isCandidate backendId row && pks.contains row.pk with
    | false =>
      simp only [Bool.false_eq_true, if_false]
      omega
    | true =>
      have hnone : row.endpoint.isNone = true := by
        rw [isCandidate] at hbound
        simp only [Bool.and_eq_true] at hbound
        exact hbound.1.1
      simp only [hnone, if_true, Option.isNone_some, Bool.false_eq_true, if_false]
      omega

variable {summary summary' : BackfillSummary} {rows' : List SyncStateRow}

theorem corroborated_or_reviewed {row : SyncStateRow}
    (hreview : requireReview library request true (decide ((backendId, pluginPk) ∈ request.confirmationPairs))
      backendId pluginPk (unverifiedPks tables backendId pluginPk) = .ok ())
    (hrow : row ∈ candidateRows tables.rows backendId)
    (haccepts : (decide ((backendId, pluginPk) ∈ request.confirmationPairs) ||
      (refusal tables pluginPk row).isNone) = true) :
    Corroborated tables pluginPk row ∨ Reviewed library tables request backendId pluginPk row := by
  cases hrefusal : refusal tables pluginPk row with
  | none => exact .inl (refusal_eq_none_iff.1 hrefusal)
  | some reason =>
    rw [hrefusal] at haccepts
    have hconfirmed : (backendId, pluginPk) ∈ request.confirmationPairs := by simpa using haccepts
    rw [requireReview, decide_eq_true hconfirmed, if_pos (Bool.and_self true)] at hreview
    obtain ⟨pks, hpks, hset⟩ := bind_eq_ok.1 hreview
    have hmem := mem_reviewed_of_ok hset
    refine .inr ⟨hconfirmed, pks, hpks, hmem, (hmem _).2 (List.mem_map.2 ⟨row, List.mem_filter.2 ⟨hrow, ?_⟩, rfl⟩)⟩
    rw [hrefusal]
    rfl

theorem Progress.bind (hprogress : Progress library tables request done rows) (hid : ¬ done backendId)
    (hsole : SoleClaim request.backendIds backendId pluginPk) {accepts : SyncStateRow → Bool}
    (haccepts : ∀ row ∈ candidateRows tables.rows backendId, accepts row = true →
      Corroborated tables pluginPk row ∨ Reviewed library tables request backendId pluginPk row) :
    Progress library tables request (fun id => done id ∨ id = backendId)
      (bindRows rows backendId pluginPk (((candidateRows rows backendId).filter accepts).map (·.pk))) := by
  refine forall₂_map_right hprogress fun row now hnow hkept => ?_
  obtain ⟨hfilled, hpk, hraw, hsame⟩ := hkept
  cases hbound : isCandidate backendId now && _ with
  | false =>
    simp only [Bool.false_eq_true, if_false]
    refine ⟨hfilled, hpk, hraw, hsame.imp_right fun hbefore => ?_⟩
    obtain ⟨id, hdone, hid⟩ := hbefore
    exact ⟨id, .inl hdone, hid⟩
  | true =>
    obtain ⟨hcandidate, hcontains⟩ := Bool.and_eq_true_iff.1 hbound
    have hnone := hcandidate
    rw [isCandidate, Bool.and_eq_true, Option.isNone_iff_eq_none, beq_iff_eq] at hnone
    -- Its id is not done, so the row is still the old one.
    obtain rfl : now = row := by
      refine hsame.resolve_right fun hbefore => ?_
      obtain ⟨id, hdone, hrow⟩ := hbefore
      rw [← hraw, hnone.2] at hrow
      exact hid (Int.ofNat.inj (Option.some.inj hrow) ▸ hdone)
    rw [contains_bound_iff hprogress.pk_nodup _ hnow hcandidate] at hcontains
    have hmem : now ∈ candidateRows tables.rows backendId := by
      rw [← hprogress.candidateRows_eq hid]
      exact mem_candidateRows.2 ⟨hnow, hcandidate⟩
    simp only [if_true]
    exact ⟨.bound hnone.1 hnone.2 hsole (haccepts now hmem hcontains), trivial, trivial,
      .inr ⟨backendId, .inr rfl, hnone.2⟩⟩

theorem backfillClaim_spec (hprogress : Progress library tables request done rows) (hid : ¬ done backendId)
    (hsole : SoleClaim request.backendIds backendId pluginPk)
    (h : backfillClaim library tables request true rows summary backendId pluginPk = .ok (rows', summary')) :
    requireReview library request true (decide ((backendId, pluginPk) ∈ request.confirmationPairs))
      backendId pluginPk (unverifiedPks tables backendId pluginPk) = .ok () ∧
      backfillClaim library tables request false tables.rows summary backendId pluginPk =
        .ok (tables.rows, summary') ∧
      Progress library tables request (fun id => done id ∨ id = backendId) rows' ∧
      rows'.countP (·.endpoint.isNone) + summary'.rowsBound =
        rows.countP (·.endpoint.isNone) + summary.rowsBound := by
  have hcandidates := hprogress.candidateRows_eq hid
  unfold backfillClaim at h
  dsimp only at h
  obtain ⟨⟨⟩, hreview, h⟩ := bind_eq_ok.1 h
  obtain ⟨rfl, rfl⟩ := Prod.mk.inj (Except.ok.inj h)
  rw [hcandidates, ← unverifiedPks] at hreview
  refine ⟨hreview, ?_, ?_, ?_⟩
  · rw [backfillClaim]
    simp only [requireReview, Bool.and_false, Bool.false_eq_true, if_false, if_true, ← hcandidates,
      countP_bound hprogress.pk_nodup]
    rfl
  · exact hprogress.bind hid hsole fun row hrow haccepts => corroborated_or_reviewed hreview hrow haccepts
  · have hcount := countP_bindRows rows backendId pluginPk
      (((candidateRows rows backendId).filter fun row =>
        decide ((backendId, pluginPk) ∈ request.confirmationPairs) || (refusal tables pluginPk row).isNone).map (·.pk))
    simp only [if_true]
    omega

theorem backfillClaims_spec {claims : List (Nat × List Nat)}
    (hclaims : ∀ claim ∈ claims, claim ∈ (endpointClaims request.backendIds).items)
    (hnodup : (claims.map Prod.fst).Nodup) (hdone : ∀ claim ∈ claims, ¬ done claim.1)
    (hprogress : Progress library tables request done rows)
    (h : backfillClaims library tables request true claims rows summary = .ok (rows', summary')) :
    (∀ backendId pluginPk others, (backendId, pluginPk :: others) ∈ claims →
        toString backendId ∉ (skippedBackendIds request.backendIds).keys →
        requireReview library request true (decide ((backendId, pluginPk) ∈ request.confirmationPairs)) backendId
          pluginPk (unverifiedPks tables backendId pluginPk) = .ok ()) ∧
      backfillClaims library tables request false claims tables.rows summary = .ok (tables.rows, summary') ∧
      (∃ done, Progress library tables request done rows') ∧
      rows'.countP (·.endpoint.isNone) + summary'.rowsBound =
        rows.countP (·.endpoint.isNone) + summary.rowsBound := by
  induction claims generalizing rows summary done with
  | nil =>
    obtain ⟨rfl, rfl⟩ := Prod.mk.inj (Except.ok.inj h)
    exact ⟨nofun, rfl, ⟨done, hprogress⟩, rfl⟩
  | cons claim claims ih =>
    obtain ⟨backendId, pluginPks⟩ := claim
    rw [List.map_cons, List.nodup_cons] at hnodup
    obtain ⟨hclaim, hlater⟩ := List.forall_mem_cons.1 hclaims
    obtain ⟨hid, hothers⟩ := List.forall_mem_cons.1 hdone
    cases pluginPks with
    | nil =>
      obtain ⟨hreviews, hrest⟩ := ih hlater hnodup.2 hothers hprogress h
      refine ⟨fun id pk others hmem hskip => ?_, hrest⟩
      obtain hfirst | hmem := List.mem_cons.1 hmem
      · cases hfirst
      · exact hreviews id pk others hmem hskip
    | cons pluginPk pluginPks =>
      rw [backfillClaims] at h ⊢
      by_cases hskip : toString backendId ∈ (skippedBackendIds request.backendIds).keys
      · rw [if_pos hskip] at h ⊢
        obtain ⟨hreviews, hrest⟩ := ih hlater hnodup.2 hothers hprogress h
        refine ⟨fun id pk others hmem hunskipped => ?_, hrest⟩
        obtain hfirst | hmem := List.mem_cons.1 hmem
        · cases hfirst
          exact absurd hskip hunskipped
        · exact hreviews id pk others hmem hunskipped
      · rw [if_neg hskip] at h ⊢
        obtain ⟨⟨middle, after⟩, hstep, h⟩ := bind_eq_ok.1 h
        obtain ⟨hreview, hpreview, hprogress', hcount⟩ :=
          backfillClaim_spec hprogress hid (soleClaim_of_mem hclaim hskip) hstep
        have hfresh : ∀ claim ∈ claims, ¬ (done claim.1 ∨ claim.1 = backendId) := by
          rintro claim hmem (hbefore | rfl)
          · exact hothers claim hmem hbefore
          · exact hnodup.1 (List.mem_map.2 ⟨claim, hmem, rfl⟩)
        obtain ⟨hreviews, hrest, hkept, htotal⟩ := ih hlater hnodup.2 hfresh hprogress' h
        refine ⟨fun id pk others hmem hunskipped => ?_, ?_, hkept, htotal.trans hcount⟩
        · obtain hfirst | hmem := List.mem_cons.1 hmem
          · cases hfirst
            exact hreview
          · exact hreviews id pk others hmem hunskipped
        · rw [hpreview]
          exact hrest

theorem backfillRows_spec (h : backfillSyncStateEndpointRows library tables request true = .ok (rows, summary)) :
    (∀ backendId pluginPk others, (backendId, pluginPk :: others) ∈ (endpointClaims request.backendIds).items →
        toString backendId ∉ (skippedBackendIds request.backendIds).keys →
        requireReview library request true (decide ((backendId, pluginPk) ∈ request.confirmationPairs)) backendId
          pluginPk (unverifiedPks tables backendId pluginPk) = .ok ()) ∧
      backfillSyncStateEndpointRows library tables request false = .ok (tables.rows, summary) ∧
      (∃ done, Progress library tables request done rows) ∧
      rows.countP (·.endpoint.isNone) + summary.rowsBound = tables.rows.countP (·.endpoint.isNone) := by
  have hperm := (stablySorted_sortedBy (·.1) (endpointClaims request.backendIds).items).perm
  have hstart : Progress library tables request (fun _ => False) tables.rows :=
    List.forall₂_same.2 fun row _ => ⟨.kept, rfl, rfl, .inl rfl⟩
  obtain ⟨hreviews, hrest⟩ := backfillClaims_spec (fun claim hclaim => hperm.mem_iff.1 hclaim)
    ((hperm.map Prod.fst).nodup_iff.2 (endpointClaims request.backendIds).nodup) (fun _ _ => id) hstart h
  exact ⟨fun id pk others hmem => hreviews id pk others (hperm.mem_iff.2 hmem), hrest⟩

end Sound

/-- An apply that completes binds only rows without an endpoint, each to the sole claimant of its backend id and
with evidence, as its preview reports. -/
theorem backfill_sound (library : TokenLibrary) (tables : BackfillTables) (request : BackfillRequest)
    (rows : List SyncStateRow) (summary : BackfillSummary)
    (h : backfillSyncStateEndpointRows library tables request true = .ok (rows, summary)) :
    List.Forall₂ (Backfilled library tables request) tables.rows rows ∧
      backfillSyncStateEndpointRows library tables request false = .ok (tables.rows, summary) ∧
      rows.countP (·.endpoint.isNone) + summary.rowsBound = tables.rows.countP (·.endpoint.isNone) := by
  obtain ⟨-, hpreview, ⟨done, hprogress⟩, hcount⟩ := backfillRows_spec h
  exact ⟨hprogress.imp fun _ _ hkept => hkept.1, hpreview, hcount⟩

def labIds : EndpointIdMap := [("5", "3")]

def labPayload : Json := tokenPayload 3 5 [11, 12] labIds

def labText : List Char :=
  ("\x7b\"backend_id\":\"3\",\"mapping\":[[\"5\",\"3\"]],\"plugin_endpoint_pk\":\"5\"," ++
    "\"row_pks\":[11,12]\x7d").toList

def labEncoded : List Char :=
  ("eyJiYWNrZW5kX2lkIjoiMyIsIm1hcHBpbmciOltbIjUiLCIzIl1dLCJwbHVnaW5fZW5k" ++
    "cG9pbnRfcGsiOiI1Iiwicm93X3BrcyI6WzExLDEyXX0").toList

def labLibrary : TokenLibrary where
  encode _ := labEncoded
  decode encoded := if encoded = labEncoded then some labText else none
  digest _ := "5f9415e86122b393".toList
  dumps _ := labText
  loads text := if text = labText then .value labPayload else .refused

/-- A row that is bound, one of a cluster of endpoint 5, two without relations, and one with another backend id. -/
def labTables : BackfillTables where
  rows := [⟨1, some 9, some 3, none, none, ""⟩, ⟨2, none, some 3, some 7, none, "lab"⟩,
    ⟨12, none, some 3, none, none, ""⟩,
    ⟨11, none, some 3, none, none, "lab"⟩, ⟨20, none, some 4, some 7, none, "lab"⟩]
  pk_nodup := by decide
  clusterEndpoint _ := some 5
  nodeEndpoint _ := none

def labRequest (token : String) : BackfillRequest := ⟨labIds, [("3", "5")], [("3", token)]⟩

theorem backfill_sound_reviewed : ∃ rows summary,
    backfillSyncStateEndpointRows labLibrary labTables
      (labRequest (reviewToken labLibrary labIds 3 5 [11, 12])) true =
        .ok (rows, summary) ∧
      rows.map (·.endpoint) = [some 9, some 5, some 5, some 5, none] ∧
      List.Forall₂ (Backfilled labLibrary labTables (labRequest (reviewToken labLibrary labIds 3 5 [11, 12])))
        labTables.rows rows := by
  have hends : ((backfillSyncStateEndpointRows labLibrary labTables
      (labRequest (reviewToken labLibrary labIds 3 5 [11, 12])) true).toOption.map fun ended =>
        ended.1.map (·.endpoint)) =
        some [some 9, some 5, some 5, some 5, none] := by
    decide +kernel
  obtain ⟨⟨rows, summary⟩, hended, hrows⟩ := Option.map_eq_some_iff.1 hends
  cases happly : backfillSyncStateEndpointRows labLibrary labTables
      (labRequest (reviewToken labLibrary labIds 3 5 [11, 12])) true with
  | error e =>
    rw [happly] at hended
    cases hended
  | ok ended =>
    rw [happly] at hended
    cases hended
    exact ⟨rows, summary, rfl, hrows, (backfill_sound _ _ _ _ _ happly).1⟩

/-! ### The check of a token -/

/-- What is known of the library about one document. -/
structure TokenLibrary.Reads (library : TokenLibrary) (document : Json) : Prop where
  decode_encode : library.decode (library.encode (library.dumps document)) = some (library.dumps document)
  loads_dumps : library.loads (library.dumps document) = .value document
  encode_plain : '.' ∉ library.encode (library.dumps document)
  digest_length : (library.digest (library.dumps document)).length = 16
  digest_plain : ∀ c ∈ library.digest (library.dumps document), c.toNat < 128 ∧ c ≠ '.'

section Check

variable (library : TokenLibrary) (backendIds : EndpointIdMap) (backendId pluginPk : Nat) (current : List Nat)

def checkToken (token : String) : Except BackfillError Unit := do
  let reviewed ← reviewedRowPks library backendIds backendId pluginPk (some token)
  requireReviewedRowSet backendId pluginPk reviewed current

/-- The request confirms the pair with this token, and these are the rows that have no other evidence. -/
structure Presents (tables : BackfillTables) (request : BackfillRequest) (token : String) : Prop where
  ids : request.backendIds = backendIds
  claimed : ∃ others, (backendId, pluginPk :: others) ∈ (endpointClaims backendIds).items
  unskipped : toString backendId ∉ (skippedBackendIds backendIds).keys
  confirmed : (backendId, pluginPk) ∈ request.confirmationPairs
  token_eq : request.confirmationTokens.get? backendId = some token
  current_eq : unverifiedPks tables backendId pluginPk = current

/-- The issued token is accepted, and an apply with any other text binds nothing. -/
structure TokenChecked (token : String) : Prop where
  accepted : token = reviewToken library backendIds backendId pluginPk current →
    checkToken library backendIds backendId pluginPk current token = .ok ()
  refused : token ≠ reviewToken library backendIds backendId pluginPk current →
    (∃ message, checkToken library backendIds backendId pluginPk current token = .error (.review message)) ∧
      ∀ tables request, Presents backendIds backendId pluginPk current tables request token →
        appliedRows library tables request = tables.rows

/-- A text of three parts whose middle decodes to a document in its canonical form. -/
structure TokenParts (token : String) (supplied payload : List Char) (decoded : Fields) : Prop where
  parts : ∃ encoded, token.toList.splitOn '.' = ["v1".toList, encoded, supplied] ∧
    library.decode encoded = some payload
  loads : library.loads payload = .value (.obj decoded)
  canonical : library.dumps (.obj decoded) = payload
  length : supplied.length = 16

/-- The texts that the check gets wrong: nested too deeply, with a digest that is not ASCII, or another spelling
of the same review. -/
inductive Misread (token : String) : Prop
  | deep {version encoded supplied payload : List Char} : token.toList.splitOn '.' = [version, encoded, supplied] →
      library.decode encoded = some payload → library.loads payload = .tooDeep → Misread token
  | foreign {supplied payload : List Char} {decoded : Fields} : TokenParts library token supplied payload decoded →
      supplied.all (·.toNat < 128) = false → Misread token
  | spelled {supplied payload : List Char} {decoded : Fields} {pks : List Nat} :
      TokenParts library token supplied payload decoded →
      supplied.all (·.toNat < 128) = true → supplied = library.digest payload →
        sameIdentity backendIds backendId pluginPk decoded = true →
      rowPksOf (decoded.get "row_pks") = some pks → (∀ pk, pk ∈ pks ↔ pk ∈ current) → Misread token

variable {library backendIds backendId pluginPk current} {token : String} {reviewed : List Nat}

theorem appliedRows_of_presents {tables : BackfillTables} {request : BackfillRequest}
    (h : Presents backendIds backendId pluginPk current tables request token)
    (hcheck : checkToken library backendIds backendId pluginPk current token ≠ .ok ()) :
    appliedRows library tables request = tables.rows := by
  unfold appliedRows
  cases happly : backfillSyncStateEndpointRows library tables request true with
  | error e => rfl
  | ok ended =>
    obtain ⟨hids, ⟨others, hclaimed⟩, hunskipped, hconfirmed, htoken, hcurrent⟩ := h
    subst hids
    have hreview := (backfillRows_spec happly).1 backendId pluginPk others hclaimed hunskipped
    rw [decide_eq_true hconfirmed, requireReview, if_pos (Bool.and_self true), htoken, hcurrent] at hreview
    exact absurd hreview hcheck

theorem requireReviewedRowSet_of_same (hsame : ∀ pk, pk ∈ reviewed ↔ pk ∈ current) :
    requireReviewedRowSet backendId pluginPk reviewed current = .ok () := by
  have hadded : current.filter (· ∉ reviewed) = [] := List.filter_eq_nil_iff.2 fun pk hpk =>
    by simp [(hsame pk).2 hpk]
  have hremoved : reviewed.filter (· ∉ current) = [] := List.filter_eq_nil_iff.2 fun pk hpk =>
    by simp [(hsame pk).1 hpk]
  rw [requireReviewedRowSet, hadded, hremoved]
  rfl

theorem requireReviewedRowSet_refused_iff :
    (∃ message, requireReviewedRowSet backendId pluginPk reviewed current = .error (.review message)) ↔
      ¬ ∀ pk, pk ∈ reviewed ↔ pk ∈ current := by
  constructor
  · rintro ⟨_, h⟩ hsame
    rw [requireReviewedRowSet_of_same hsame] at h
    cases h
  · intro hchanged
    by_cases hok : requireReviewedRowSet backendId pluginPk reviewed current = .ok ()
    · exact absurd (mem_reviewed_of_ok hok) hchanged
    · unfold requireReviewedRowSet at hok ⊢
      dsimp only at hok ⊢
      split_ifs at hok ⊢
      · exact absurd rfl hok
      · exact ⟨_, rfl⟩

theorem bind_confirmBinding {text : String} {next : List Nat → Except BackfillError Unit} :
    ∃ message, (Except.error (confirmBinding backendId pluginPk text) >>= next) = .error (.review message) :=
  ⟨_, rfl⟩

variable {document : Json}

theorem TokenParts.of_split {version encoded supplied supplied' payload payload' : List Char} {decoded : Fields}
    (h : TokenParts library token supplied' payload' decoded)
      (hsplit : token.toList.splitOn '.' = [version, encoded, supplied])
    (hdecode : library.decode encoded = some payload) (hloads : library.loads payload = .value document) :
    version = "v1".toList ∧ supplied' = supplied ∧ payload' = payload ∧ document = .obj decoded := by
  obtain ⟨_, hparts, hdecode'⟩ := h.parts
  rw [hsplit] at hparts
  injection hparts with hversion hparts
  injection hparts with hencoded hparts
  injection hparts with hsupplied
  subst hencoded hsupplied
  obtain rfl := Option.some.inj (hdecode.symm.trans hdecode')
  exact ⟨hversion, rfl, rfl, Loaded.value.inj (hloads.symm.trans h.loads)⟩

theorem Misread.loads (h : Misread library backendIds backendId pluginPk current token) :
    ∃ version encoded supplied payload, token.toList.splitOn '.' = [version, encoded, supplied] ∧
      library.decode encoded = some payload ∧ library.loads payload ≠ .refused := by
  rcases h with ⟨hparts, hdecode, hloads⟩ | ⟨htoken, -⟩ | ⟨htoken, -⟩
  · exact ⟨_, _, _, _, hparts, hdecode, by simp [hloads]⟩
  all_goals
    obtain ⟨encoded, hparts, hdecode⟩ := htoken.parts
    exact ⟨_, _, _, _, hparts, hdecode, by simp [htoken.loads]⟩

theorem Misread.of_split {version encoded supplied payload : List Char}
    (h : Misread library backendIds backendId pluginPk current token)
      (hsplit : token.toList.splitOn '.' = [version, encoded, supplied])
    (hdecode : library.decode encoded = some payload) (hloads : library.loads payload = .value document) :
    version = "v1".toList ∧ document = .obj document.asDict ∧
      TokenParts library token supplied payload document.asDict ∧
      (supplied.all (·.toNat < 128) = false ∨ supplied = library.digest payload ∧
        sameIdentity backendIds backendId pluginPk document.asDict = true ∧
        ∃ pks, rowPksOf (document.asDict.get "row_pks") = some pks ∧ ∀ pk, pk ∈ pks ↔ pk ∈ current) := by
  rcases h with ⟨hparts, hdecode', hloads'⟩ | ⟨htoken, hforeign⟩ | ⟨htoken, -, hdigest, hidentity, hpks, hsame⟩
  · rw [hsplit] at hparts
    injection hparts with _ hparts
    injection hparts with hencoded
    subst hencoded
    obtain rfl := Option.some.inj (hdecode.symm.trans hdecode')
    cases hloads.symm.trans hloads'
  · obtain ⟨hversion, rfl, rfl, rfl⟩ := htoken.of_split hsplit hdecode hloads
    exact ⟨hversion, rfl, htoken, .inl hforeign⟩
  · obtain ⟨hversion, rfl, rfl, rfl⟩ := htoken.of_split hsplit hdecode hloads
    exact ⟨hversion, rfl, htoken, .inr ⟨hdigest, hidentity, _, hpks, hsame⟩⟩

theorem checkToken_refused_of_value {version encoded supplied payload : List Char}
    (hsplit : token.toList.splitOn '.' = [version, encoded, supplied])
      (hdecode : library.decode encoded = some payload) (hloads : library.loads payload = .value document) :
    (∃ message, checkToken library backendIds backendId pluginPk current token = .error (.review message)) ↔
      ¬ Misread library backendIds backendId pluginPk current token := by
  have hmisread := fun h : Misread library backendIds backendId pluginPk current token =>
    h.of_split hsplit hdecode hloads
  have hsome : token.toList ≠ [] := fun h => by simp [h] at hsplit
  simp only [checkToken, reviewedRowPks, Option.getD_some, if_neg hsome, hsplit, hdecode, hloads]
  split_ifs with hform hascii hdigest hidentity
  · refine iff_of_true bind_confirmBinding fun h => ?_
    obtain ⟨hversion, hdict, htoken, -⟩ := hmisread h
    have hcanonical : library.dumps document = payload := by
      rw [hdict]
      exact htoken.canonical
    have hisDict : document.isDict = true := by
      rw [hdict]
      rfl
    simp [hversion, hisDict, hcanonical, htoken.length] at hform
  all_goals
    simp only [ne_eq, Bool.or_eq_true, decide_eq_true_eq, Bool.not_eq_true', not_or, not_not,
      Bool.not_eq_false] at hform
    obtain ⟨⟨⟨hversion, hdict⟩, hcanonical⟩, hlength⟩ := hform
    obtain ⟨decoded, rfl⟩ : ∃ decoded, document = .obj decoded := by
      cases document <;> first | exact ⟨_, rfl⟩ | cases hdict
    have htoken : TokenParts library token supplied payload decoded := ⟨⟨_, hversion ▸ hsplit, hdecode⟩, hloads,
      hcanonical, hlength⟩
  · refine iff_of_false (fun h => ?_) fun h => h (.foreign htoken (by simpa using hascii))
    obtain ⟨_, h⟩ := h
    cases h
  all_goals
    have hplain : supplied.all (·.toNat < 128) = true := by simpa using hascii
    replace hmisread := fun h => (hmisread h).2.2.2.resolve_left (by simp [hplain])
  · exact iff_of_true bind_confirmBinding fun h => hdigest (hmisread h).1
  · refine iff_of_true bind_confirmBinding fun h => ?_
    rw [(hmisread h).2.1] at hidentity
    cases hidentity
  cases hpks : rowPksOf ((Json.obj decoded).asDict.get "row_pks") with
  | none =>
    refine iff_of_true bind_confirmBinding fun h => ?_
    obtain ⟨-, -, _, hpks', -⟩ := hmisread h
    cases hpks.symm.trans hpks'
  | some pks =>
    refine requireReviewedRowSet_refused_iff.trans (not_congr ⟨fun hsame => ?_, fun h => ?_⟩)
    · exact .spelled htoken hplain (not_not.1 hdigest) (by simpa [Json.asDict] using hidentity) hpks hsame
    · obtain ⟨-, -, _, hpks', hsame⟩ := hmisread h
      obtain rfl := Option.some.inj (hpks.symm.trans hpks')
      exact hsame

/-- A text is refused as a failed review exactly if it is not misread. -/
theorem checkToken_refused_iff :
    (∃ message, checkToken library backendIds backendId pluginPk current token = .error (.review message)) ↔
      ¬ Misread library backendIds backendId pluginPk current token := by
  by_cases hparts : ∃ version encoded supplied, token.toList.splitOn '.' = [version, encoded, supplied]
  · obtain ⟨version, encoded, supplied, hsplit⟩ := hparts
    have hsome : token.toList ≠ [] := fun h => by simp [h] at hsplit
    have hencoded {version' encoded' supplied' : List Char}
      (h : token.toList.splitOn '.' = [version', encoded', supplied']) :
        encoded' = encoded := by
      rw [hsplit] at h
      injection h with _ h
      injection h with h
      exact h.symm
    cases hdecode : library.decode encoded with
    | none =>
      simp only [checkToken, reviewedRowPks, Option.getD_some, if_neg hsome, hsplit, hdecode]
      refine iff_of_true bind_confirmBinding fun h => ?_
      obtain ⟨_, _, _, _, hparts, hdecode', -⟩ := h.loads
      rw [hencoded hparts, hdecode] at hdecode'
      cases hdecode'
    | some payload =>
      cases hloads : library.loads payload with
      | refused =>
        simp only [checkToken, reviewedRowPks, Option.getD_some, if_neg hsome, hsplit, hdecode, hloads]
        refine iff_of_true bind_confirmBinding fun h => ?_
        obtain ⟨_, _, _, _, hparts, hdecode', hloads'⟩ := h.loads
        rw [hencoded hparts, hdecode] at hdecode'
        exact hloads' (Option.some.inj hdecode' ▸ hloads)
      | tooDeep =>
        simp only [checkToken, reviewedRowPks, Option.getD_some, if_neg hsome, hsplit, hdecode, hloads]
        refine iff_of_false (fun h => ?_) fun h => h (.deep hsplit hdecode hloads)
        obtain ⟨_, h⟩ := h
        cases h
      | value document => exact checkToken_refused_of_value hsplit hdecode hloads
  · refine iff_of_true ?_ fun h => ?_
    · unfold checkToken reviewedRowPks
      dsimp only [Option.getD_some]
      split_ifs
      · exact bind_confirmBinding
      · split
        · rename_i hsplit
          exact absurd ⟨_, _, _, hsplit⟩ hparts
        · exact bind_confirmBinding
    · obtain ⟨_, _, _, _, hsplit, -⟩ := h.loads
      exact hparts ⟨_, _, _, hsplit⟩

theorem eqItems_self {items : List Json} (h : ∀ item ∈ items, item.eq item = true) :
    eqItems items items = true := by
  induction items with
  | nil => rfl
  | cons item items ih =>
    obtain ⟨hitem, hitems⟩ := List.forall_mem_cons.1 h
    rw [eqItems, hitem, ih hitems]
    rfl

theorem tokenMapping_eq_self : (tokenMapping backendIds).eq (tokenMapping backendIds) = true := by
  rw [tokenMapping, Json.eq]
  refine eqItems_self fun item hitem => ?_
  obtain ⟨claim, -, hitem⟩ := List.mem_flatMap.1 hitem
  obtain ⟨pluginPk, -, rfl⟩ := List.mem_map.1 hitem
  simp [Json.eq, eqItems]

theorem rowPksOf_arr {pks : List Nat} (hpks : pks.Pairwise (· < ·)) (hpos : ∀ pk ∈ pks, 0 < pk) :
    rowPksOf (.arr (pks.map fun pk => .int (Int.ofNat pk))) = some pks := by
  have hread : (pks.map fun pk => Json.int (Int.ofNat pk)).mapM rowPkOf = some pks := by
    clear hpks
    induction pks with
    | nil => rfl
    | cons pk pks ih =>
      obtain ⟨hpk, hpos⟩ := List.forall_mem_cons.1 hpos
      rw [List.map_cons, List.mapM_cons, ih hpos]
      simp [rowPkOf, hpk]
  rw [rowPksOf, hread]
  simp [hpks]

theorem splitOn_token {encoded supplied : List Char} (hencoded : '.' ∉ encoded) (hsupplied : '.' ∉ supplied) :
    (String.ofList ("v1.".toList ++ encoded ++ '.' :: supplied)).toList.splitOn '.' =
      ["v1".toList, encoded, supplied] := by
  refine Eq.trans (congrArg _ ?_) (List.splitOn_intercalate '.' ?_ (by simp))
  · simp [List.intercalate]
  · simp only [List.forall_mem_cons]
    exact ⟨by decide, hencoded, hsupplied, by simp⟩

theorem checkToken_reviewToken (hcurrent : current.Pairwise (· < ·)) (hpos : ∀ pk ∈ current, 0 < pk)
    (hlaws : library.Reads (tokenPayload backendId pluginPk current backendIds)) :
    checkToken library backendIds backendId pluginPk current
      (reviewToken library backendIds backendId pluginPk current) = .ok () := by
  have hsplit := splitOn_token hlaws.encode_plain fun h => (hlaws.digest_plain _ h).2 rfl
  rw [← reviewToken] at hsplit
  have hsome : (reviewToken library backendIds backendId pluginPk current).toList ≠ [] := fun h =>
    by simp [h] at hsplit
  have hascii : (library.digest (library.dumps (tokenPayload backendId pluginPk current backendIds))).all
    (·.toNat < 128) = true :=
    List.all_eq_true.2 fun c hc => decide_eq_true (hlaws.digest_plain c hc).1
  have hidentity : sameIdentity backendIds backendId pluginPk (tokenPayload backendId pluginPk current
      backendIds).asDict = true := by
    simp [sameIdentity, tokenPayload, Json.asDict, Fields.get_cons, tokenMapping_eq_self]
  have hpks : rowPksOf ((tokenPayload backendId pluginPk current backendIds).asDict.get "row_pks") =
    some current :=
    rowPksOf_arr hcurrent hpos
  have hisDict : (tokenPayload backendId pluginPk current backendIds).isDict = true := rfl
  have hreview : reviewedRowPks library backendIds backendId pluginPk
      (some (reviewToken library backendIds backendId pluginPk current)) = .ok current := by
    simp [reviewedRowPks, hsome, hsplit, hlaws.decode_encode, hlaws.loads_dumps, hlaws.digest_length, hascii,
      hidentity, hpks, hisDict]
  rw [checkToken, hreview]
  exact requireReviewedRowSet_of_same fun _ => Iff.rfl

theorem checkToken_foreign {supplied : List Char}
    (hlaws : library.Reads (tokenPayload backendId pluginPk current backendIds)) (hlength : supplied.length = 16)
    (hdot : '.' ∉ supplied) (hforeign : supplied.all (·.toNat < 128) = false) :
    checkToken library backendIds backendId pluginPk current (String.ofList ("v1.".toList ++
      library.encode (library.dumps (tokenPayload backendId pluginPk current backendIds)) ++ '.' :: supplied)) =
        .error .typeError := by
  have hsplit := splitOn_token hlaws.encode_plain hdot
  have hisDict : (tokenPayload backendId pluginPk current backendIds).isDict = true := rfl
  have hreview : reviewedRowPks library backendIds backendId pluginPk (some (String.ofList ("v1.".toList ++
      library.encode (library.dumps (tokenPayload backendId pluginPk current backendIds)) ++ '.' :: supplied))) =
        .error .typeError := by
    simp only [reviewedRowPks, Option.getD_some, hsplit, hlaws.decode_encode, hlaws.loads_dumps]
    simp [hisDict, hlength, hforeign]
  rw [checkToken, hreview]
  rfl

/-- The check does what it should for a text exactly if the text is the issued token or is not misread. -/
theorem tokenChecked_iff (library : TokenLibrary) (backendIds : EndpointIdMap) (backendId pluginPk : Nat)
    (current : List Nat) (token : String) (hcurrent : current.Pairwise (· < ·)) (hpos : ∀ pk ∈ current, 0 < pk)
    (hlaws : library.Reads (tokenPayload backendId pluginPk current backendIds)) :
    TokenChecked library backendIds backendId pluginPk current token ↔
      token = reviewToken library backendIds backendId pluginPk current ∨
        ¬ Misread library backendIds backendId pluginPk current token := by
  by_cases htoken : token = reviewToken library backendIds backendId pluginPk current
  · refine iff_of_true ⟨fun _ => ?_, fun hne => absurd htoken hne⟩ (.inl htoken)
    rw [htoken]
    exact checkToken_reviewToken hcurrent hpos hlaws
  · constructor
    · intro h
      exact .inr (checkToken_refused_iff.1 (h.refused htoken).1)
    · intro h
      obtain ⟨message, hmessage⟩ := checkToken_refused_iff.2 (h.resolve_left htoken)
      refine ⟨fun heq => absurd heq htoken, fun _ => ⟨⟨message, hmessage⟩, fun tables request hpresents => ?_⟩⟩
      refine appliedRows_of_presents hpresents fun hok => ?_
      rw [hmessage] at hok
      cases hok

end Check

theorem labLibrary_reads : labLibrary.Reads labPayload where
  decode_encode := by simp [labLibrary]
  loads_dumps := by simp [labLibrary]
  encode_plain := by decide +kernel
  digest_length := by decide +kernel
  digest_plain := by simp [labLibrary]

theorem tokenChecked_iff_issued : TokenChecked labLibrary labIds 3 5 [11, 12]
    (reviewToken labLibrary labIds 3 5 [11, 12]) :=
  (tokenChecked_iff _ _ _ _ _ _ (by decide) (by decide) labLibrary_reads).2 (.inl rfl)

/-- Sixteen letters that are not ASCII in place of the digest make the comparison raise `TypeError`. -/
theorem accented_digest_escapes : labLibrary.Reads labPayload ∧
    ∀ library : TokenLibrary, library.Reads labPayload →
      let token := String.ofList
        ("v1.".toList ++ library.encode (library.dumps labPayload) ++ '.' :: List.replicate 16 'é')
      checkToken library labIds 3 5 [11, 12] token = .error .typeError ∧
        ¬ TokenChecked library labIds 3 5 [11, 12] token := by
  refine ⟨labLibrary_reads, fun library hlaws => ?_⟩
  intro token
  have hcheck : checkToken library labIds 3 5 [11, 12] token = .error .typeError :=
    checkToken_foreign hlaws (by decide) (by decide) (by decide)
  refine ⟨hcheck, fun h => ?_⟩
  have hother : token ≠ reviewToken library labIds 3 5 [11, 12] := fun heq => by
    have hok := h.accepted heq
    rw [hcheck] at hok
    cases hok
  obtain ⟨⟨message, hmessage⟩, -⟩ := h.refused hother
  cases hcheck.symm.trans hmessage

end Proxbox
