import Proxbox.Backend.EndpointIds
/-!
# Which endpoint a backend row is for

A row is for the endpoint whose primary key its name ends in. No name ends in two keys, so a row is for one
endpoint at most, whatever else its name holds. The resolvers refuse an endpoint that several rows are for, with
one exception: the single resolver asks for the row of the last push first, and takes it without looking at the
others.
-/

namespace Proxbox

open Python

/-! ### The key in a name -/

def pkMarker (pk : Int) : String := "(nb:" ++ toString pk ++ ")"

theorem toList_pkMarker (pk : Int) :
    (pkMarker pk).toList = '(' :: (['n', 'b', ':'] ++ (toString pk).toList ++ [')']) := by
  simp [pkMarker]

theorem eq_of_pkMarker_suffix {pk other : Int} (hpk : 0 < pk) (hother : 0 < other)
    (h : (pkMarker pk).toList <:+ (pkMarker other).toList) : pk = other := by
  obtain ⟨before, hbefore⟩ := h
  rw [toList_pkMarker, toList_pkMarker] at hbefore
  cases before with
  | nil =>
    have hrest := List.append_cancel_right (List.cons.inj hbefore).2
    have hdigits := String.toList_inj.1 (List.append_cancel_left hrest)
    exact toString_inj_of_nonneg (Int.le_of_lt hpk) (Int.le_of_lt hother) hdigits
  | cons c before =>
    obtain ⟨-, hrest⟩ := List.cons.inj hbefore
    have hopens : '(' ∈ ['n', 'b', ':'] ++ (toString other).toList ++ [')'] := by
      rw [← hrest]
      exact List.mem_append_right _ List.mem_cons_self
    have hdigit : '(' ∈ (toString other).toList := by simpa using hopens
    rcases isDigit_or_sign_of_toString hdigit with h | h <;> cases h

section Claims

variable {rows : List Fields} {row : Fields} {endpoint other : ProxmoxEndpoint}

theorem mem_backendRowsForEndpoint :
    row ∈ backendRowsForEndpoint rows endpoint ↔ row ∈ rows ∧
      (pkMarker endpoint.pk).toList <:+ (strip ((Fields.get row "name").or (.str "")).text).toList := by
  rw [backendRowsForEndpoint, List.mem_filter, endsWith, List.isSuffixOf_iff_suffix]
  rfl

theorem pk_eq_of_mem_backendRowsForEndpoint {others : List Fields} (hendpoint : row ∈ backendRowsForEndpoint rows endpoint)
    (hother : row ∈ backendRowsForEndpoint others other) : other.pk = endpoint.pk := by
  have hleft := (mem_backendRowsForEndpoint.1 hendpoint).2
  have hright := (mem_backendRowsForEndpoint.1 hother).2
  rcases List.suffix_or_suffix_of_suffix hleft hright with h | h
  · exact (eq_of_pkMarker_suffix endpoint.pk_pos other.pk_pos h).symm
  · exact eq_of_pkMarker_suffix other.pk_pos endpoint.pk_pos h

theorem mem_backendRowsForEndpoint_of_name (hrow : row ∈ rows)
    (hname : Fields.get row "name" = .str (proxmoxBackendName endpoint)) :
    row ∈ backendRowsForEndpoint rows endpoint := by
  refine mem_backendRowsForEndpoint.2 ⟨hrow, ?_⟩
  obtain ⟨before, hbefore⟩ : ∃ before, proxmoxBackendName endpoint = before ++ pkMarker endpoint.pk := by
    have hmarker : " (nb:" ++ (toString endpoint.pk ++ ")") = " " ++ pkMarker endpoint.pk := by
      rw [show (" (nb:" : String) = " " ++ "(nb:" from rfl, pkMarker, String.append_assoc, String.append_assoc]
    unfold proxmoxBackendName
    dsimp only
    rw [String.append_assoc, String.append_assoc, hmarker, ← String.append_assoc]
    exact ⟨_, rfl⟩
  have hsome : proxmoxBackendName endpoint ≠ "" := by
    rw [hbefore]
    intro hempty
    have hnil := congrArg String.toList hempty
    simp [toList_pkMarker] at hnil
  have htext : ((Fields.get row "name").or (.str "")).text = before ++ pkMarker endpoint.pk := by
    rw [hname, Json.or, if_pos (by simpa [Json.truthy] using hsome), Json.text, hbefore]
  rw [htext, strip, String.toList_ofList, String.toList_append, toList_pkMarker]
  exact suffix_stripChars (by decide) (by decide)

end Claims

/-! ### What a resolved id comes from -/

section Resolved

variable {lowerText : String → String} {rows : List Fields} {row : Fields} {endpoint other : ProxmoxEndpoint} {id : Int}

/-- The row is the only one for the endpoint, dials its host and port, and has the id. -/
structure ResolvesFrom (lowerText : String → String) (rows : List Fields) (endpoint : ProxmoxEndpoint) (id : Int)
    (row : Fields) : Prop where
  only : backendRowsForEndpoint rows endpoint = [row]
  target : ∃ target, proxmoxEndpointTarget lowerText endpoint = some target ∧
    proxmoxRowTarget lowerText row = .ok (some target)
  idField : (Fields.get row "id").intOrNone = .ok (some id)

theorem resolveBackendRowId_eq_ok_iff :
    resolveBackendRowId lowerText rows endpoint = .ok (.ok id) ↔ ∃ row, ResolvesFrom lowerText rows endpoint id row := by
  constructor
  · intro h
    unfold resolveBackendRowId at h
    dsimp only at h
    split at h
    · cases h
    · cases h
    · rename_i row honly
      obtain ⟨got, hgot, h⟩ := bind_eq_ok.1 h
      cases hwant : proxmoxEndpointTarget lowerText endpoint with
      | none =>
        rw [hwant] at h
        cases h
      | some want =>
        rw [hwant] at h
        cases got with
        | none => cases h
        | some got =>
          dsimp only at h
          split_ifs at h with hdiffer
          · cases h
          · obtain ⟨found, hfound, h⟩ := bind_eq_ok.1 h
            cases found with
            | none => cases h
            | some found =>
              obtain rfl := Except.ok.inj (Except.ok.inj h)
              rw [← not_not.1 hdiffer] at hgot
              exact ⟨row, honly, ⟨want, hwant, hgot⟩, hfound⟩
  · rintro ⟨row, honly, ⟨target, hendpoint, hrow⟩, hid⟩
    unfold resolveBackendRowId
    rw [honly]
    dsimp only
    refine bind_eq_ok.2 ⟨some target, hrow, ?_⟩
    rw [hendpoint]
    dsimp only
    rw [if_neg (not_not.2 rfl), hid]
    rfl

theorem ResolvesFrom.mem (h : ResolvesFrom lowerText rows endpoint id row) : row ∈ backendRowsForEndpoint rows endpoint := by
  rw [h.only]
  exact List.mem_singleton.2 rfl

def DistinctIds (rows : List Fields) : Prop :=
  ∃ ids : List Int, ids.Nodup ∧ (rows.map fun row => Fields.get row "id") = ids.map .int

theorem intOrNone_of_int (n : Int) : (Json.int n).intOrNone = .ok (some n) := rfl

theorem DistinctIds.eq_of_id (h : DistinctIds rows) {left right : Fields} (hleft : left ∈ rows) (hright : right ∈ rows)
    (hleftId : (Fields.get left "id").intOrNone = .ok (some id))
    (hrightId : (Fields.get right "id").intOrNone = .ok (some id)) : left = right := by
  obtain ⟨ids, hnodup, hids⟩ := h
  have hfield {row : Fields} (hrow : row ∈ rows) (hid : (Fields.get row "id").intOrNone = .ok (some id)) :
      Fields.get row "id" = .int id := by
    have hmem : Fields.get row "id" ∈ ids.map Json.int := hids ▸ List.mem_map_of_mem hrow
    obtain ⟨n, -, hn⟩ := List.mem_map.1 hmem
    rw [← hn, intOrNone_of_int] at hid
    rw [← hn, Option.some.inj (Except.ok.inj hid)]
  have hrows : (rows.map fun row => Fields.get row "id").Nodup := by
    rw [hids]
    exact hnodup.map fun _ _ => Json.int.inj
  exact List.inj_on_of_nodup_map hrows hleft hright ((hfield hleft hleftId).trans (hfield hright hrightId).symm)

end Resolved

/-- A row under the name of an endpoint is for that endpoint and no other, and an id comes only from the one row
for the endpoint. -/
theorem backendRows_identity (lowerText : String → String) (rows : List Fields) :
    (∀ row ∈ rows, ∀ endpoint other, Fields.get row "name" = .str (proxmoxBackendName endpoint) →
      (row ∈ backendRowsForEndpoint rows other ↔ other.pk = endpoint.pk)) ∧
    (∀ endpoint id, resolveBackendRowId lowerText rows endpoint = .ok (.ok id) →
      ∃ row, ResolvesFrom lowerText rows endpoint id row) ∧
    (∀ view endpoints mapping pk id, view.lowerText = lowerText → view.listing = .ok rows →
      resolveBackendEndpointIds view endpoints = .ok (.ok mapping) → mapping.get? pk = some id →
      ∃ endpoint ∈ endpoints, endpoint.pk = pk ∧ ∃ row, ResolvesFrom lowerText rows endpoint id row) ∧
    (DistinctIds rows → ∀ endpoint other id, resolveBackendRowId lowerText rows endpoint = .ok (.ok id) →
      resolveBackendRowId lowerText rows other = .ok (.ok id) → other.pk = endpoint.pk) := by
  refine ⟨fun row hrow endpoint other hname => ⟨fun hother => ?_, fun hpk => ?_⟩,
    fun endpoint id => resolveBackendRowId_eq_ok_iff.1, fun view endpoints mapping pk id hlower hlisting hbatch hget => ?_,
    fun hdistinct endpoint other id hendpoint hother => ?_⟩
  · exact pk_eq_of_mem_backendRowsForEndpoint (mem_backendRowsForEndpoint_of_name hrow hname) hother
  · have hclaimed := mem_backendRowsForEndpoint.1 (mem_backendRowsForEndpoint_of_name hrow hname)
    rw [mem_backendRowsForEndpoint, hpk]
    exact hclaimed
  · obtain ⟨endpoint, hmem, -, hpk, hlisted⟩ := listedId_of_resolveBackendEndpointIds hbatch hget
    rw [listedId_of_listing hlisting, hlower] at hlisted
    exact ⟨endpoint, hmem, hpk, resolveBackendRowId_eq_ok_iff.1 (usableRowId_eq_some.1 hlisted)⟩
  · obtain ⟨row, hfrom⟩ := resolveBackendRowId_eq_ok_iff.1 hendpoint
    obtain ⟨otherRow, hotherFrom⟩ := resolveBackendRowId_eq_ok_iff.1 hother
    have hsame : row = otherRow := hdistinct.eq_of_id (mem_backendRowsForEndpoint.1 hfrom.mem).1
      (mem_backendRowsForEndpoint.1 hotherFrom.mem).1 hfrom.idField hotherFrom.idField
    exact pk_eq_of_mem_backendRowsForEndpoint hfrom.mem (hsame ▸ hotherFrom.mem)

/-! ### One endpoint and a batch -/

/-- The backend's table: rows by their primary keys, as it serves them. A port may be anything but an infinite
float. -/
structure BackendTable where
  items : List (Int × Fields)
  key_nodup : (items.map Prod.fst).Nodup
  id_field : ∀ item ∈ items, Fields.get item.2 "id" = .int item.1
  port_read : ∀ item ∈ items, ∀ port, item.2.lookup "port" = some port → ∃ value, port.intOrNone = .ok value

def BackendTable.rows (table : BackendTable) : List Fields := table.items.map Prod.snd

def BackendTable.view (table : BackendTable) (lowerText : String → String) (cachedPush : ProxmoxEndpoint → Option Int) :
    BackendView where
  lowerText := lowerText
  listing := .ok table.rows
  cachedPush := cachedPush
  rowReply id := match table.items.lookup id with
    | none => .notFound
    | some row => .json (.obj row)

/-- The endpoint alone is resolved to what a batch with it maps it to, and the push cache adds no answer. -/
def ResolversAgree (table : BackendTable) (lowerText : String → String) (cachedPush : ProxmoxEndpoint → Option Int)
    (endpoints : List ProxmoxEndpoint) (endpoint : ProxmoxEndpoint) : Prop :=
  (∀ id, resolveBackendEndpointId (table.view lowerText cachedPush) endpoint = .ok (.ok id) ↔
    ∃ mapping, resolveBackendEndpointIds (table.view lowerText cachedPush) endpoints = .ok (.ok mapping) ∧
      mapping.get? endpoint.pk = some id) ∧
  ∀ id, resolveBackendEndpointId (table.view lowerText cachedPush) endpoint = .ok (.ok id) →
    resolveBackendEndpointId (table.view lowerText fun _ => none) endpoint = .ok (.ok id)

/-- The push cache has the id of a row for the endpoint that dials its host and port, and other rows are for the
endpoint as well. -/
def CachedAmongSeveral (table : BackendTable) (lowerText : String → String)
    (cachedPush : ProxmoxEndpoint → Option Int) (endpoint : ProxmoxEndpoint) : Prop :=
  endpoint.enabled = true ∧ 1 < (backendRowsForEndpoint table.rows endpoint).length ∧
    ∃ item ∈ table.items, cachedPush endpoint = some item.1 ∧ item.2 ∈ backendRowsForEndpoint table.rows endpoint ∧
      ∃ target, proxmoxEndpointTarget lowerText endpoint = some target ∧
        proxmoxRowTarget lowerText item.2 = .ok (some target)

section Agreement

variable (table : BackendTable) (lowerText : String → String) (cachedPush : ProxmoxEndpoint → Option Int)
  {endpoint : ProxmoxEndpoint}

theorem BackendTable.mem_rows {row : Fields} : row ∈ table.rows ↔ ∃ item ∈ table.items, item.2 = row := List.mem_map

theorem BackendTable.lookup_eq_some {id : Int} {row : Fields} :
    table.items.lookup id = some row ↔ (id, row) ∈ table.items :=
  (Dict.mem_items_iff_get? ⟨table.items, table.key_nodup⟩ id row).symm

theorem proxmoxRowTarget_isOk {row : Fields}
    (hport : ∀ port, row.lookup "port" = some port → ∃ value, port.intOrNone = .ok value) :
    ∃ target, proxmoxRowTarget lowerText row = .ok target := by
  unfold proxmoxRowTarget
  dsimp only
  split_ifs
  · exact ⟨none, rfl⟩
  · cases hlookup : row.lookup "port" with
    | none => exact ⟨none, rfl⟩
    | some port =>
      obtain ⟨value, hvalue⟩ := hport port hlookup
      exact ⟨_, by simp only [hvalue]; rfl⟩

theorem BackendTable.resolveBackendRowId_isOk {rows : List Fields} (hrows : rows ⊆ table.rows) (endpoint : ProxmoxEndpoint) :
    ∃ resolved, resolveBackendRowId lowerText rows endpoint = .ok resolved := by
  unfold resolveBackendRowId
  dsimp only
  split
  · exact ⟨_, rfl⟩
  · exact ⟨_, rfl⟩
  · rename_i row honly
    have hrow : row ∈ rows := (mem_backendRowsForEndpoint.1 (honly ▸ List.mem_singleton.2 rfl)).1
    obtain ⟨item, hitem, rfl⟩ := table.mem_rows.1 (hrows hrow)
    obtain ⟨got, hgot⟩ := proxmoxRowTarget_isOk lowerText (table.port_read item hitem)
    rw [hgot, table.id_field item hitem]
    cases proxmoxEndpointTarget lowerText endpoint with
    | none => exact ⟨_, rfl⟩
    | some want =>
      cases got with
      | none => exact ⟨_, rfl⟩
      | some got =>
        dsimp only [bind, Except.bind]
        split_ifs
        · exact ⟨_, rfl⟩
        · exact ⟨_, rfl⟩

def BackendTable.listed (endpoint : ProxmoxEndpoint) : Option Int :=
  if endpoint.enabled then usableRowId lowerText table.rows endpoint else none

theorem BackendTable.mapped_iff (endpoints : EndpointTable) (hmem : endpoint ∈ endpoints.rows) (id : Int) :
    (∃ mapping, resolveBackendEndpointIds (table.view lowerText cachedPush) endpoints.rows = .ok (.ok mapping) ∧
      mapping.get? endpoint.pk = some id) ↔ table.listed lowerText endpoint = some id := by
  have hbatch : ∃ mapping, resolveBackendEndpointIds (table.view lowerText cachedPush) endpoints.rows
      = .ok (.ok mapping) := by
    unfold resolveBackendEndpointIds
    dsimp only [BackendTable.view]
    split_ifs
    · exact ⟨_, rfl⟩
    · have hread (endpoint : ProxmoxEndpoint) :=
        table.resolveBackendRowId_isOk lowerText (List.Subset.refl table.rows) endpoint
      obtain ⟨mapping, hfold⟩ := foldlM_resolveStep_isOk.2 fun endpoint _ => hread endpoint
      exact ⟨mapping, bind_eq_ok.2 ⟨mapping, hfold, rfl⟩⟩
  obtain ⟨mapping, hmapping⟩ := hbatch
  have hget : mapping.get? endpoint.pk = table.listed lowerText endpoint := by
    unfold BackendTable.listed
    split_ifs with henabled
    · rw [get?_resolveBackendEndpointIds endpoints.pk_nodup hmapping hmem henabled]
      exact listedId_of_listing rfl endpoint
    · cases hget : mapping.get? endpoint.pk with
      | none => rfl
      | some found =>
        obtain ⟨owner, howner, hon, hpk, -⟩ := listedId_of_resolveBackendEndpointIds hmapping hget
        rw [endpoints.eq_of_pk_eq howner hmem hpk] at hon
        exact absurd hon henabled
  constructor
  · rintro ⟨other, hother, hid⟩
    obtain rfl := Except.ok.inj (Except.ok.inj (hmapping.symm.trans hother))
    rw [← hget, hid]
  · intro hid
    exact ⟨mapping, hmapping, hget.trans hid⟩

/-- The push cache names a row of the table that is the endpoint's by itself. -/
def BackendTable.confirms (endpoint : ProxmoxEndpoint) (id : Int) : Prop :=
  ∃ row, (id, row) ∈ table.items ∧ usableRowId lowerText [row] endpoint = some id

theorem BackendTable.confirmedCachedProxmoxRow_eq (endpoint : ProxmoxEndpoint) (id : Int) :
    ∃ confirmed, confirmedCachedProxmoxRow (table.view lowerText cachedPush) endpoint id = .ok (.ok confirmed) ∧
      (confirmed = true ↔ table.confirms lowerText endpoint id) := by
  unfold confirmedCachedProxmoxRow
  dsimp only [BackendTable.view]
  cases hlookup : table.items.lookup id with
  | none =>
    refine ⟨false, rfl, ⟨fun h => (by cases h), ?_⟩⟩
    rintro ⟨row, hitem, -⟩
    rw [table.lookup_eq_some.2 hitem] at hlookup
    cases hlookup
  | some row =>
    have hitem := table.lookup_eq_some.1 hlookup
    have hrow : [row] ⊆ table.rows :=
      List.cons_subset.2 ⟨table.mem_rows.2 ⟨(id, row), hitem, rfl⟩, List.nil_subset _⟩
    obtain ⟨resolved, hresolved⟩ := table.resolveBackendRowId_isOk lowerText hrow endpoint
    refine ⟨resolved.toOption == some id, by simp only [hresolved]; rfl, ?_⟩
    have husable : usableRowId lowerText [row] endpoint = resolved.toOption := by
      rw [usableRowId, hresolved]
      cases resolved <;> rfl
    rw [beq_iff_eq, ← husable]
    constructor
    · intro h
      exact ⟨row, hitem, h⟩
    · rintro ⟨other, hother, h⟩
      have hsame := (table.lookup_eq_some.2 hother).symm.trans hlookup
      rw [← Option.some.inj hsame]
      exact h

theorem BackendTable.resolved_iff (endpoint : ProxmoxEndpoint) (id : Int) :
    resolveBackendEndpointId (table.view lowerText cachedPush) endpoint = .ok (.ok id) ↔
      endpoint.enabled = true ∧
        ((cachedPush endpoint = some id ∧ table.confirms lowerText endpoint id) ∨
          ((∀ cached, cachedPush endpoint = some cached → ¬ table.confirms lowerText endpoint cached) ∧
            usableRowId lowerText table.rows endpoint = some id)) := by
  have hlisted : resolveListedEndpointId (table.view lowerText cachedPush) endpoint = .ok (.ok id) ↔
      usableRowId lowerText table.rows endpoint = some id := usableRowId_eq_some.symm
  have hcache : (table.view lowerText cachedPush).cachedPush endpoint = cachedPush endpoint := rfl
  unfold resolveBackendEndpointId
  rw [hcache]
  cases henabled : endpoint.enabled with
  | false =>
    have hdetail : disabledEndpointDetail endpoint = some _ := if_neg (by simp [henabled])
    rw [hdetail]
    exact ⟨fun h => (by cases h), fun h => (by cases h.1)⟩
  | true =>
    have hdetail : disabledEndpointDetail endpoint = none := if_pos henabled
    rw [hdetail]
    dsimp only
    cases hcached : cachedPush endpoint with
    | none => simpa using hlisted
    | some cached =>
      obtain ⟨confirmed, hconfirmed, hiff⟩ :=
        table.confirmedCachedProxmoxRow_eq lowerText cachedPush endpoint cached
      dsimp only
      rw [hconfirmed]
      cases confirmed with
      | true =>
        have hconfirms := hiff.1 rfl
        constructor
        · intro h
          obtain rfl := Except.ok.inj (Except.ok.inj h)
          exact ⟨rfl, .inl ⟨rfl, hconfirms⟩⟩
        · rintro ⟨-, ⟨hsame, -⟩ | ⟨hnone, -⟩⟩
          · rw [Option.some.inj hsame]
            rfl
          · exact absurd hconfirms (hnone cached rfl)
      | false =>
        have hrefused : ¬ table.confirms lowerText endpoint cached := fun h => (by cases hiff.2 h)
        refine hlisted.trans ⟨fun h => ⟨rfl, .inr ⟨fun other hother => ?_, h⟩⟩, ?_⟩
        · rw [← Option.some.inj hother]
          exact hrefused
        · rintro ⟨-, ⟨hsame, hconfirms⟩ | ⟨-, h⟩⟩
          · rw [Option.some.inj hsame] at hrefused
            exact absurd hconfirms hrefused
          · exact h

theorem BackendTable.confirms_iff (endpoint : ProxmoxEndpoint) (id : Int) :
    table.confirms lowerText endpoint id ↔ ∃ item ∈ table.items, item.1 = id ∧
      item.2 ∈ backendRowsForEndpoint table.rows endpoint ∧
      ∃ target, proxmoxEndpointTarget lowerText endpoint = some target ∧
        proxmoxRowTarget lowerText item.2 = .ok (some target) := by
  constructor
  · rintro ⟨row, hitem, husable⟩
    obtain ⟨found, hfrom⟩ := resolveBackendRowId_eq_ok_iff.1 (usableRowId_eq_some.1 husable)
    obtain ⟨hmem, hsuffix⟩ := mem_backendRowsForEndpoint.1 hfrom.mem
    obtain rfl := List.mem_singleton.1 hmem
    exact ⟨(id, found), hitem, rfl,
      mem_backendRowsForEndpoint.2 ⟨table.mem_rows.2 ⟨(id, found), hitem, rfl⟩, hsuffix⟩, hfrom.target⟩
  · rintro ⟨item, hitem, rfl, hclaims, htarget⟩
    have honly : backendRowsForEndpoint [item.2] endpoint = [item.2] := by
      refine List.filter_eq_self.2 fun row hrow => ?_
      rw [List.mem_singleton.1 hrow]
      exact (List.mem_filter.1 hclaims).2
    refine ⟨item.2, hitem, usableRowId_eq_some.2 (resolveBackendRowId_eq_ok_iff.2 ⟨item.2, honly, htarget, ?_⟩)⟩
    rw [table.id_field item hitem, intOrNone_of_int]

theorem usableRowId_of_several {rows : List Fields} (h : 1 < (backendRowsForEndpoint rows endpoint).length) :
    usableRowId lowerText rows endpoint = none := by
  refine Option.eq_none_iff_forall_ne_some.2 fun id husable => ?_
  obtain ⟨row, hfrom⟩ := resolveBackendRowId_eq_ok_iff.1 (usableRowId_eq_some.1 husable)
  rw [hfrom.only] at h
  exact absurd h (by simp)

theorem BackendTable.usableRowId_of_confirms {id : Int} (hconfirms : table.confirms lowerText endpoint id)
    (hfew : (backendRowsForEndpoint table.rows endpoint).length ≤ 1) :
    usableRowId lowerText table.rows endpoint = some id := by
  obtain ⟨item, hitem, rfl, hclaims, htarget⟩ := (table.confirms_iff lowerText endpoint id).1 hconfirms
  obtain ⟨row, honly⟩ : ∃ row, backendRowsForEndpoint table.rows endpoint = [row] :=
    List.length_eq_one_iff.1 (Nat.le_antisymm hfew (List.length_pos_of_mem hclaims))
  rw [honly, List.mem_singleton] at hclaims
  rw [← hclaims] at honly
  refine usableRowId_eq_some.2 (resolveBackendRowId_eq_ok_iff.2 ⟨item.2, honly, htarget, ?_⟩)
  rw [table.id_field item hitem, intOrNone_of_int]

end Agreement

/-- The resolvers agree on an endpoint, exactly if the push cache does not choose among several rows for it. -/
theorem resolversAgree_iff (table : BackendTable) (lowerText : String → String)
    (cachedPush : ProxmoxEndpoint → Option Int) (endpoints : EndpointTable) {endpoint : ProxmoxEndpoint}
    (hmem : endpoint ∈ endpoints.rows) :
    ResolversAgree table lowerText cachedPush endpoints.rows endpoint ↔
      ¬ CachedAmongSeveral table lowerText cachedPush endpoint := by
  have hbatch := table.mapped_iff lowerText cachedPush endpoints hmem
  have hsingle := table.resolved_iff lowerText cachedPush endpoint
  constructor
  · rintro ⟨hagree, -⟩ ⟨henabled, hseveral, item, hitem, hcached, hclaims, htarget⟩
    have hconfirms := (table.confirms_iff lowerText endpoint item.1).2 ⟨item, hitem, rfl, hclaims, htarget⟩
    have hmapped := (hbatch item.1).1 ((hagree item.1).1 ((hsingle item.1).2 ⟨henabled, .inl ⟨hcached, hconfirms⟩⟩))
    rw [BackendTable.listed, if_pos henabled, usableRowId_of_several lowerText hseveral] at hmapped
    cases hmapped
  · intro hsole
    -- The cached row is then the only one for the endpoint, so the listing has it too.
    have hlisted {id : Int} (hanswer : resolveBackendEndpointId (table.view lowerText cachedPush) endpoint = .ok (.ok id)) :
        endpoint.enabled = true ∧ usableRowId lowerText table.rows endpoint = some id := by
      obtain ⟨henabled, ⟨hcached, hconfirms⟩ | ⟨-, husable⟩⟩ := (hsingle id).1 hanswer
      · refine ⟨henabled, table.usableRowId_of_confirms lowerText hconfirms (Nat.le_of_not_lt fun hseveral => ?_)⟩
        obtain ⟨item, hitem, rfl, hclaims, htarget⟩ := (table.confirms_iff lowerText endpoint id).1 hconfirms
        exact hsole ⟨henabled, hseveral, item, hitem, hcached, hclaims, htarget⟩
      · exact ⟨henabled, husable⟩
    refine ⟨fun id => Iff.trans ⟨fun hanswer => ?_, fun hid => ?_⟩ (hbatch id).symm, fun id hanswer => ?_⟩
    · obtain ⟨henabled, husable⟩ := hlisted hanswer
      rw [BackendTable.listed, if_pos henabled, husable]
    · rw [BackendTable.listed] at hid
      split_ifs at hid with henabled
      refine (hsingle id).2 ⟨henabled, ?_⟩
      by_cases hcached : ∃ cached, cachedPush endpoint = some cached ∧ table.confirms lowerText endpoint cached
      · obtain ⟨cached, hcached, hconfirms⟩ := hcached
        have hanswer := (hsingle cached).2 ⟨henabled, .inl ⟨hcached, hconfirms⟩⟩
        have hsame := (hlisted hanswer).2.symm.trans hid
        rw [← Option.some.inj hsame]
        exact .inl ⟨hcached, hconfirms⟩
      · exact .inr ⟨fun cached hsome hconfirms => hcached ⟨cached, hsome, hconfirms⟩, hid⟩
    · obtain ⟨henabled, husable⟩ := hlisted hanswer
      exact (table.resolved_iff lowerText (fun _ => none) endpoint id).2
        ⟨henabled, .inr ⟨fun cached h => (by cases h), husable⟩⟩

/-! ### Two rows for one endpoint -/

def claimedEndpoint : ProxmoxEndpoint :=
  ⟨3, Int.natCast_pos.2 (Nat.succ_pos 2), "pve", true, true, some "pve.example", none, 8006⟩

def pveRow (id : Int) (name : String) : Fields :=
  [("id", .int id), ("name", .str name), ("domain", .str "pve.example"), ("port", .int 8006)]

def doubleTable : BackendTable where
  items := [(1, pveRow 1 "pve (nb:3)"), (2, pveRow 2 "pve copy (nb:3)")]
  key_nodup := by decide +kernel
  id_field := by simp [pveRow, Fields.get]
  port_read := by simp [pveRow, List.lookup_cons, intOrNone_of_int]

def singleTable : BackendTable where
  items := [(1, pveRow 1 "pve (nb:3)")]
  key_nodup := List.nodup_singleton _
  id_field := by simp [pveRow, Fields.get]
  port_read := by simp [pveRow, List.lookup_cons, intOrNone_of_int]

def claimedEndpoints : EndpointTable := ⟨[claimedEndpoint], List.nodup_singleton _⟩

def resolvedAlone (table : BackendTable) (cachedPush : ProxmoxEndpoint → Option Int) : Option Int :=
  match resolveBackendEndpointId (table.view lower cachedPush) claimedEndpoint with
  | .ok (.ok id) => some id
  | _ => none

theorem cached_row_among_two :
    resolvedAlone doubleTable (fun _ => some 1) = some 1 ∧
    ((resolveBackendEndpointIds (doubleTable.view lower fun _ => some 1) claimedEndpoints.rows).toOption.map fun batch =>
      batch.toOption.map fun mapping => mapping.get? 3) = some (some none) ∧
    resolvedAlone doubleTable (fun _ => none) = none := by
  decide +kernel

theorem single_row_agrees :
    claimedEndpoint ∈ claimedEndpoints.rows ∧
      ResolversAgree singleTable lower (fun _ => some 1) claimedEndpoints.rows claimedEndpoint := by
  have hone : ¬ 1 < (backendRowsForEndpoint singleTable.rows claimedEndpoint).length := by decide +kernel
  have hmem : claimedEndpoint ∈ claimedEndpoints.rows := List.mem_singleton.2 rfl
  exact ⟨hmem, (resolversAgree_iff singleTable lower (fun _ => some 1) claimedEndpoints hmem).2 fun h => hone h.2.1⟩

end Proxbox
