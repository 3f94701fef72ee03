import Proxbox.Intent.FirewallPayload
import Proxbox.Intent.FirewallRoute
/-!
# The bodies of a firewall object

Three functions build the body that is sent for a firewall object: the direct push, the apply of a branch from
the live object, and the same apply from the recorded fields. They agree on every model but the options, whose
extra options the live object lays flat.
-/

namespace Proxbox

open Python

def SameBody (body body' : Fields) : Prop := ∀ key, body.lookup key = body'.lookup key

def withoutAliasName (op : Op) (obj : FirewallObject) (body : Fields) : Fields :=
  if obj.model = .alias ∧ op = .update then body.filter fun field => field.1 ≠ "name" else body

def recordedFields : FirewallObject → Fields
  | .securityGroup row => [("name", .str row.name), ("comment", Json.ofText? row.comment)]
  | .rule row =>
    [("pos", .int row.pos), ("rule_type", .str row.ruleType), ("action", .str row.action), ("enable", .bool row.enable),
      ("macro", .str row.macroName),
      ("iface", .str row.iface), ("source", .str row.source), ("dest", .str row.dest), ("proto", .str row.proto),
        ("dport", .str row.dport),
      ("sport", .str row.sport), ("log", .str row.log), ("icmp_type", .str row.icmpType), ("comment", Json.ofText? row.comment),
      ("digest", .str row.digest)]
  | .ipset row => [("name", .str row.name), ("comment", Json.ofText? row.comment)]
  | .ipsetEntry row => [("cidr", .str row.cidr), ("comment", Json.ofText? row.comment), ("nomatch", .bool row.noMatch)]
  | .alias row => [("name", .str row.name), ("cidr", .str row.cidr), ("comment", Json.ofText? row.comment)]
  | .options row =>
    [("enable", match row.enable with
        | some enable => .bool enable
        | none => .null),
      ("policy_in", .str row.policyIn), ("policy_out", .str row.policyOut), ("options", .obj row.options)]

/-- A recorded state with the values of the row. No model has a column by one of the two other names that are
read for a rule. -/
structure Records (data : Fields) (obj : FirewallObject) : Prop where
  column : ∀ field ∈ recordedFields obj, Fields.get data field.1 = field.2
  no_type : Fields.get data "type" = .null
  no_icmp : Fields.get data "icmp-type" = .null

variable {obj : FirewallObject} {data : Fields} {op : Op}

theorem dropEmpty_or (key text : String) (before rest : Fields) :
    dropEmpty (before ++ (key, (Json.str text).or .null) :: rest) = dropEmpty (before ++ (key, .str text) :: rest) := by
  by_cases htext : text = ""
  · simp [dropEmpty, htext, Json.or, Json.truthy]
  · simp [dropEmpty, htext, Json.or, Json.truthy]

theorem recordedBody_eq (h : Records data obj) (hobj : obj.model ≠ .options) :
    recordedBody obj.model op data = bodyFor obj.model op (some obj) data := by
  have hcolumn := h.column
  cases obj with
  | securityGroup row =>
    simp only [recordedFields, List.forall_mem_cons] at hcolumn
    obtain ⟨hname, hcomment, -⟩ := hcolumn
    simp only [recordedBody, bodyFor, FirewallObject.model, hname, hcomment]
  | rule row =>
    simp only [recordedFields, List.forall_mem_cons] at hcolumn
    obtain ⟨hpos, htype, haction, henable, hmacro, hiface, hsource, hdest, hproto, hdport, hsport, hlog, hicmp, hcomment,
      hdigest, -⟩ := hcolumn
    simp only [recordedBody, bodyFor, FirewallObject.model, firewallObjectState, rulePayload, hpos, htype, haction, henable,
      hmacro, hiface, hsource, hdest,
      hproto, hdport, hsport, hlog, hicmp, hcomment, hdigest, h.no_type, h.no_icmp]
    refine (dropEmpty_or "type" row.ruleType [_] _).trans ?_
    exact dropEmpty_or "icmp-type" row.icmpType [_, _, _, _, _, _, _, _, _, _, _, _] [_, _]
  | ipset row =>
    simp only [recordedFields, List.forall_mem_cons] at hcolumn
    obtain ⟨hname, hcomment, -⟩ := hcolumn
    simp only [recordedBody, bodyFor, FirewallObject.model, firewallObjectState, hname, hcomment]
  | ipsetEntry row =>
    simp only [recordedFields, List.forall_mem_cons] at hcolumn
    obtain ⟨hcidr, hcomment, hnomatch, -⟩ := hcolumn
    simp only [recordedBody, bodyFor, FirewallObject.model, firewallObjectState, hcidr, hcomment, hnomatch]
  | «alias» row =>
    simp only [recordedFields, List.forall_mem_cons] at hcolumn
    obtain ⟨hname, hcidr, hcomment, -⟩ := hcolumn
    simp only [recordedBody, bodyFor, FirewallObject.model, firewallObjectState, hname, hcidr, hcomment]
    split_ifs
    · rw [dropEmpty, dropEmpty, List.filter_comm]
      rfl
    · rfl
  | options row => exact absurd rfl hobj

theorem bodyFor_eq_pushBody (hobj : obj.model ≠ .options) : bodyFor obj.model op (some obj) data =
    withoutAliasName op obj (pushBody obj) := by
  cases obj with
  | securityGroup row => rfl
  | rule row => rfl
  | ipset row => rfl
  | ipsetEntry row => rfl
  | «alias» row => simp only [bodyFor, withoutAliasName, FirewallObject.model, pushBody, true_and]
  | options row => exact absurd rfl hobj

/-! ### Options -/

theorem mem_setItem {key : String} {value : Json} {fields : Fields} {field : String × Json}
    (h : field ∈ Dict.setItem key value fields) :
    field = (key, value) ∨ field ∈ fields := by
  induction fields with
  | nil => exact .inl (List.mem_singleton.1 h)
  | cons first rest ih =>
    rw [Dict.setItem] at h
    split_ifs at h
    · rcases List.mem_cons.1 h with rfl | h
      · exact .inl rfl
      · exact .inr (List.mem_cons_of_mem _ h)
    · rcases List.mem_cons.1 h with rfl | h
      · exact .inr List.mem_cons_self
      · exact (ih h).imp id (List.mem_cons_of_mem _)

theorem mem_foldl_setItem {writes fields : Fields} {field : String × Json}
    (h : field ∈ writes.foldl (fun state write => Dict.setItem write.1 write.2 state) fields) : field ∈ writes ∨
      field ∈ fields := by
  induction writes generalizing fields with
  | nil => exact .inr h
  | cons write rest ih =>
    rcases ih h with hrest | hset
    · exact .inl (List.mem_cons_of_mem _ hrest)
    · rcases mem_setItem hset with rfl | hfields
      · exact .inl List.mem_cons_self
      · exact .inr hfields

theorem obj_not_mem (fields : Fields) (key : String) : (key, Json.obj fields) ∉ fields := by
  intro h
  have hfield := List.sizeOf_lt_of_mem h
  simp at hfield
  omega

theorem options_differ (row : FirewallOptions) :
    ¬SameBody (bodyFor .options op (some (.options row)) data) (withoutAliasName op (.options row)
      (pushBody (.options row))) := by
  intro h
  have hpush : (pushBody (.options row)).lookup "options" = some (.obj row.options) := by
    let columns : Fields := (recordedFields (.options row)).take 3
    have hsplit : pushBody (.options row) = dropEmpty columns ++ [("options", .obj row.options)] := by
      change dropEmpty (columns ++ [("options", .obj row.options)]) = _
      rw [dropEmpty, List.filter_append]
      rfl
    refine List.lookup_eq_some_iff.2 ⟨dropEmpty columns, [], hsplit, fun field hfield => ?_⟩
    have hcolumn := (List.mem_filter.1 hfield).1
    simp only [columns, recordedFields, List.take_succ_cons, List.take_zero, List.mem_cons, List.not_mem_nil,
      or_false] at hcolumn
    rcases hcolumn with rfl | rfl | rfl <;> rfl
  have hlive : (firewallObjectState (.options row)).lookup "options" = some (.obj row.options) := (h "options").trans hpush
  obtain ⟨before, after, hsplit, -⟩ := List.lookup_eq_some_iff.1 hlive
  have hmem : ("options", Json.obj row.options) ∈ firewallObjectState (.options row) := by
    rw [hsplit]
    exact List.mem_append_right _ List.mem_cons_self
  rcases mem_foldl_setItem (List.mem_filter.1 hmem).1 with hoption | hcolumn
  · exact obj_not_mem row.options "options" hoption
  · simp at hcolumn

/-- The three bodies of an object agree exactly if it is no row of options. -/
theorem bodies_agree_iff (op : Op) (obj : FirewallObject) (data : Fields) (h : Records data obj) :
    (SameBody (bodyFor obj.model op (some obj) data) (withoutAliasName op obj (pushBody obj)) ∧
      SameBody (bodyFor obj.model op none data) (bodyFor obj.model op (some obj) data)) ↔ obj.model ≠ .options := by
  constructor
  · rintro ⟨hpush, -⟩ hmodel
    cases obj with
    | options row => exact options_differ row hpush
    | _ => cases hmodel
  · intro hmodel
    exact ⟨fun key => by rw [bodyFor_eq_pushBody hmodel], fun key => by rw [← recordedBody_eq h hmodel, bodyFor]⟩

def allowWeb : FirewallObject := .rule
  { pk := 1, endpoint := none, zone := .datacenter, proxmoxNode := none, virtualMachine := none
    securityGroup := none, pos := 0, ruleType := "in", action := "ACCEPT", enable := false, macroName := ""
    iface := "", source := "", dest := "", proto := "tcp", dport := "443", sport := "", log := "", icmpType := ""
    comment := none, digest := "" }

theorem bodies_agree_iff_rule : Records (recordedFields allowWeb) allowWeb ∧
    SameBody (bodyFor allowWeb.model .update none (recordedFields allowWeb)) (pushBody allowWeb) := by
  have hrecords : Records (recordedFields allowWeb) allowWeb := by
    refine ⟨?_, rfl, rfl⟩
    simp [recordedFields, allowWeb, Fields.get_cons]
  obtain ⟨hpush, hrecorded⟩ := (bodies_agree_iff .update allowWeb _ hrecords).2 nofun
  exact ⟨hrecords, fun key => (hrecorded key).trans (hpush key)⟩

/-- A log level among the options is nested in one body and lies flat in the other. -/
theorem options_body_flattened :
    let row : FirewallOptions := ⟨1, none, .datacenter, none, none, some true, "DROP", "ACCEPT",
      [("log_level_in", .str "info")]⟩
    pushBody (.options row) = [("enable", .bool true), ("policy_in", .str "DROP"), ("policy_out", .str "ACCEPT"),
        ("options", .obj [("log_level_in", .str "info")])] ∧
      bodyFor .options .update none (recordedFields (.options row)) = pushBody (.options row) ∧
      bodyFor .options .update (some (.options row)) [] = [("enable", .bool true), ("policy_in", .str "DROP"),
        ("policy_out", .str "ACCEPT"),
        ("log_level_in", .str "info")] ∧
      ¬SameBody (bodyFor .options .update (some (.options row)) []) (pushBody (.options row)) := by
  refine ⟨rfl, rfl, rfl, fun h => ?_⟩
  cases h "log_level_in"

end Proxbox
