import Proxbox.Redaction.Residue
/-!
# The detail of a failed stream request

`backend_errors.py` and the HTTP error path of the sync-stream client: the body of an error reply becomes one
line, the line is swept for credentials, and the result is returned and logged. A structure in the body is
rendered as JSON before the sweep sees it, so the sweep has to find the values of a structure in its text.
-/

namespace Proxbox

open Python Regex

/-! ### The line -/

def detailText (renderStructured : Bool) : Json → String
  | .str s => strip s
  | .obj fields => if renderStructured && !fields.isEmpty then String.ofList ((Json.obj fields).dump true) else ""
  | .arr xs => if renderStructured && !xs.isEmpty then String.ofList ((Json.arr xs).dump true) else ""
  | _ => ""

def messageText : Json → String
  | .str s => strip s
  | _ => ""

def startsStructure (text : String) : Bool := text.toList.head?.any fun c => c == openBrace || c == '['

def combineBackendMessageAndDetail (payload : Fields) (renderStructured : Bool) : Option String :=
  let message := messageText (payload.get "message")
  let detail := detailText renderStructured (payload.get "detail")
  if detail = "" then
    if message = "" then none else some message
  else if message = "" ∨ message = detail ∨ contains message detail then some detail
  else if startsStructure detail then some detail
  else some (message ++ ": " ++ detail)

def firstDetail (fields : Fields) : Json := (fields.get "detail").or ((fields.get "msg").or (fields.get "message"))

/-- What is shown of the first item of a body that is a list. -/
def shownItem : Json → Json
  | .obj fields => if (firstDetail fields).truthy then firstDetail fields else .obj fields
  | first => first

def jsonErrorDetail : Json → Option String
  | .obj fields => combineBackendMessageAndDetail fields true
  | .arr (first :: _) => some (shownItem first).text
  | .null => none
  | .str s => if s = "" then none else some s
  | payload => some payload.text

/-! ### The reply -/

inductive FailureKind where
  | transport
  | application
  deriving DecidableEq

structure StreamError (Context : Type) where
  detail : String
  shouldRetry : Bool
  freshContext : Option Context
  httpStatus : Nat
  failureKind : FailureKind

section Reply

variable (isAlnum : Char → Bool) {Context : Type}

def errorReplyDetail (status : Nat) (payload : Json) : String :=
  match jsonErrorDetail payload with
  | none => s!"HTTP {status}"
  | some d => if d = "" then s!"HTTP {status}" else redactBackendDetail isAlnum (.str d)

/-- The reply asks for the stored key to be checked again. -/
def namesApiKey (status : Nat) (payload : Json) (authRegisterAttempted : Bool) : Bool :=
  payload.isDict && !authRegisterAttempted && status == 401 && contains "API key" ((jsonErrorDetail payload).getD "None")

def streamHttpError (status : Nat) (body : Option Json) (authRegisterAttempted : Bool) (rebind : Option (Option Context)) :
    StreamError Context :=
  match body with
  | none => ⟨s!"HTTP {status}", 500 ≤ status, none, status, if status < 500 then .application else .transport⟩
  | some payload =>
    let detail := errorReplyDetail isAlnum status payload
    if namesApiKey status payload authRegisterAttempted then
      match rebind with
      | some (some fresh) => ⟨detail, true, some fresh, 401, .application⟩
      | some none => ⟨detail, false, none, 401, .application⟩
      | none => ⟨detail, 500 ≤ status, none, status, .application⟩
    else ⟨detail, 500 ≤ status, none, status, .application⟩

theorem detail_streamHttpError (status : Nat) (payload : Json) (authRegisterAttempted : Bool)
    (rebind : Option (Option Context)) :
    (streamHttpError isAlnum status (some payload) authRegisterAttempted rebind).detail =
      errorReplyDetail isAlnum status payload := by
  unfold streamHttpError
  dsimp only
  split_ifs
  · split <;> rfl
  · rfl

end Reply

/-! ### What the line shows of a structure -/

/-- The part of a body that the line renders as a structure. -/
def renderedPart : Json → Json
  | .obj fields => Fields.get fields "detail"
  | .arr (first :: _) => shownItem first
  | _ => .null

/-- The values under sensitive keys. -/
def secret (_ : Fields) (key : String) : Bool := isSensitiveKey key

section Filled

variable {hidden : Fields → String → Bool} {filler : Json}

theorem truthy_fill (value : Json) : (fill hidden filler value).truthy = value.truthy := by
  cases value with
  | arr xs => rw [fill_arr, Json.truthy, Json.truthy, List.isEmpty_map]
  | obj fields => rw [fill_obj, Json.truthy, Json.truthy, List.isEmpty_map]
  | null => rfl
  | bool b => rfl
  | int n => rfl
  | float text => rfl
  | str s => rfl

theorem or_fill (left right : Json) :
    fill hidden filler (left.or right) = (fill hidden filler left).or (fill hidden filler right) := by
  rw [Json.or, Json.or, truthy_fill]
  split_ifs
  · rfl
  · rfl

theorem messageText_fill (value : Json) : messageText (fill hidden filler value) = messageText value := by
  cases value <;> rfl

end Filled

/-- A test that none of the keys passes under which the line is looked for. -/
structure SparesReport (test : String → Bool) : Prop where
  detail : test "detail" = false
  msg : test "msg" = false
  message : test "message" = false

theorem isSensitiveKey_sparesReport : SparesReport isSensitiveKey where
  detail := by decide +kernel
  msg := by decide +kernel
  message := by decide +kernel

section Spared

variable {test : String → Bool} {filler : Json}

theorem firstDetail_fillFields (hspares : SparesReport test) (fields : Fields) :
    firstDetail (fillFields (fun _ => test) filler test fields) = fill (fun _ => test) filler (firstDetail fields) := by
  rw [firstDetail, get_fillFields hspares.detail, get_fillFields hspares.msg, get_fillFields hspares.message, ← or_fill,
    ← or_fill, firstDetail]

theorem shownItem_fill (hspares : SparesReport test) (first : Json) :
    shownItem (fill (fun _ => test) filler first) = fill (fun _ => test) filler (shownItem first) := by
  cases first with
  | obj fields =>
    rw [fill, shownItem, shownItem, firstDetail_fillFields hspares, truthy_fill]
    split_ifs
    · rfl
    · rw [fill]
  | null => rfl
  | bool b => rfl
  | int n => rfl
  | float text => rfl
  | str s => rfl
  | arr xs => rfl

theorem renderedPart_fill (hspares : SparesReport test) (body : Json) :
    renderedPart (fill (fun _ => test) filler body) = fill (fun _ => test) filler (renderedPart body) := by
  cases body with
  | obj fields => exact get_fillFields hspares.detail fields
  | arr xs =>
    cases xs with
    | nil => rfl
    | cons first rest => exact shownItem_fill hspares first
  | null => rfl
  | bool b => rfl
  | int n => rfl
  | float text => rfl
  | str s => rfl

/-- The line depends on hidden values through the rendered part only. -/
theorem jsonErrorDetail_fill (hspares : SparesReport test) {body : Json} (h : (renderedPart body).anyKey test = false) :
    jsonErrorDetail (fill (fun _ => test) filler body) = jsonErrorDetail body := by
  have hpart : fill (fun _ => test) filler (renderedPart body) = renderedPart body := fill_of_anyKey_eq_false h
  cases body with
  | obj fields =>
    have hdetail : fill (fun _ => test) filler (Fields.get fields "detail") = Fields.get fields "detail" := hpart
    rw [fill, jsonErrorDetail, jsonErrorDetail, combineBackendMessageAndDetail, combineBackendMessageAndDetail,
      get_fillFields hspares.message, get_fillFields hspares.detail, messageText_fill, hdetail]
  | arr xs =>
    cases xs with
    | nil => rfl
    | cons first rest =>
      have hshown : fill (fun _ => test) filler (shownItem first) = shownItem first := hpart
      rw [fill, fillItems, jsonErrorDetail, jsonErrorDetail, shownItem_fill hspares, hshown]
  | null => rfl
  | bool b => rfl
  | int n => rfl
  | float text => rfl
  | str s => rfl

theorem jsonErrorDetail_eq_of_sameBut (hspares : SparesReport test) {body other : Json}
    (h : (renderedPart body).anyKey test = false) (hsame : SameBut (fun _ => test) body other) :
    jsonErrorDetail body = jsonErrorDetail other := by
  have hview : SameBut (fun _ => test) (renderedPart body) (renderedPart other) := by
    rw [SameBut, ← renderedPart_fill hspares, ← renderedPart_fill hspares, hsame]
  have hother : (renderedPart other).anyKey test = false := by
    rw [← eq_of_sameBut h hview]
    exact h
  rw [← @jsonErrorDetail_fill test .null hspares body h, hsame, jsonErrorDetail_fill hspares hother]

end Spared

/-! ### A secret that is not read as one value -/

variable (n : Nat)

def quoteAndZeros : Json := .arr (.str "'" :: List.replicate n (.int 0))

def zeros : List Char := (List.replicate n [',', ' ', '0']).flatten

theorem count_zeros : (zeros n).count ',' = n := by
  induction n with
  | zero => rfl
  | succ n ih =>
    rw [zeros, List.replicate_succ, List.flatten_cons, List.count_append, ← zeros, ih]
    exact Nat.add_comm 1 n

theorem head?_zeros : ∀ c ∈ (zeros n).head?, c = ',' := by
  intro c hc
  cases n with
  | zero => cases hc
  | succ n => exact (Option.some.inj hc).symm

theorem not_isAssignment_of_mem_zeros {n : Nat} : ∀ c ∈ zeros n, ¬ IsAssignment c := by
  intro c hc
  obtain ⟨part, hpart, hmem⟩ := List.mem_flatten.1 hc
  rw [List.eq_of_mem_replicate hpart] at hmem
  simp only [List.mem_cons, List.not_mem_nil, or_false] at hmem
  rcases hmem with rfl | rfl | rfl
  · decide
  · decide
  · decide

theorem joined_replicate (first : List Char) (n : Nat) :
    joined (first :: List.replicate n ['0']) = first ++ zeros n := by
  induction n generalizing first with
  | zero => rw [List.replicate_zero, joined_singleton, zeros, List.replicate_zero, List.flatten_nil, List.append_nil]
  | succ n ih =>
    rw [List.replicate_succ, joined_cons_cons, ih, zeros, zeros, List.replicate_succ, List.flatten_cons]
    simp

theorem dump_quoteAndZeros (sort : Bool) (n : Nat) : (quoteAndZeros n).dump sort = mixedList (zeros n) [] := by
  have hitems : dumpItems sort (List.replicate n (.int 0)) = List.replicate n ['0'] := by
    induction n with
    | zero => rfl
    | succ n ih => rw [List.replicate_succ, dumpItems, ih, List.replicate_succ]; rfl
  rw [quoteAndZeros, Json.dump, dumpItems, hitems, joined_replicate]
  rfl

theorem repr_quoteAndZeros : (quoteAndZeros n).repr.toList = mixedList (zeros n) [] := by
  have hitems : (List.replicate n (Json.int 0)).map (fun x => x.repr.toList) = List.replicate n ['0'] := by
    rw [List.map_replicate]
    rfl
  have hquote : (Json.str "'").repr.toList = [quoteMark, singleQuote, quoteMark] := by decide +kernel
  rw [quoteAndZeros, Json.repr, String.toList_append, String.toList_append, toList_reprItems, List.map_cons, hitems, hquote,
    joined_replicate]
  simp [mixedList, mixed]

section Shown

variable {test : String → Bool} (filler : Json) {value : Json}

theorem detailText_fill_of_anyKey (h : value.anyKey test = true) : detailText true (fill (fun _ => test) filler value) =
    String.ofList ((fill (fun _ => test) filler value).dump true) := by
  cases value with
  | arr xs =>
    cases xs with
    | nil => cases h
    | cons x rest => rfl
  | obj fields =>
    cases fields with
    | nil => cases h
    | cons field rest => rfl
  | _ => cases h

theorem text_fill_of_anyKey (h : value.anyKey test = true) :
    (fill (fun _ => test) filler value).text = (fill (fun _ => test) filler value).repr := by
  cases value with
  | arr xs => rfl
  | obj fields => rfl
  | _ => cases h

theorem startsStructure_dump_fill (h : value.anyKey test = true) :
    startsStructure (String.ofList ((fill (fun _ => test) filler value).dump true)) = true := by
  rw [startsStructure, String.toList_ofList]
  cases value with
  | arr xs => rfl
  | obj fields => rfl
  | _ => cases h

theorem combine_of_startsStructure {payload : Fields} {renderStructured : Bool}
    (h : startsStructure (detailText renderStructured (payload.get "detail")) = true) :
    combineBackendMessageAndDetail payload renderStructured = some (detailText renderStructured (payload.get "detail")) := by
  have hne : detailText renderStructured (payload.get "detail") ≠ "" := by
    intro hempty
    rw [hempty] at h
    exact absurd h (by decide)
  rw [combineBackendMessageAndDetail, if_neg hne]
  split_ifs
  · rfl
  · rfl

theorem exists_jsonErrorDetail_of_anyKey (hspares : SparesReport test) {body : Json}
    (h : (renderedPart body).anyKey test = true) {shown : List Char} (hdump : filler.dump true = shown)
    (hrepr : filler.repr.toList = shown) :
    ∃ text, jsonErrorDetail (fill (fun _ => test) filler body) = some text ∧ shown <:+: text.toList := by
  cases body with
  | obj fields =>
    have hkey : (Fields.get fields "detail").anyKey test = true := h
    have hinfix : filler.dump true <:+: (fill (fun _ => test) filler (Fields.get fields "detail")).dump true :=
      infix_of_anyKey (Json.dump true) infix_dump_arr infix_dump_obj hkey
    have hdetail := detailText_fill_of_anyKey filler hkey
    have hstart := startsStructure_dump_fill filler hkey
    rw [← hdetail, ← get_fillFields hspares.detail] at hstart
    refine ⟨_, combine_of_startsStructure hstart, ?_⟩
    rw [get_fillFields hspares.detail, hdetail, String.toList_ofList, ← hdump]
    exact hinfix
  | arr xs =>
    cases xs with
    | nil => cases h
    | cons first rest =>
      have hkey : (shownItem first).anyKey test = true := h
      have hinfix : filler.repr.toList <:+: (fill (fun _ => test) filler (shownItem first)).repr.toList :=
        infix_of_anyKey (fun value => value.repr.toList) infix_repr_arr infix_repr_obj hkey
      refine ⟨_, rfl, ?_⟩
      rw [shownItem_fill hspares, text_fill_of_anyKey _ hkey, ← hrepr]
      exact hinfix
  | _ => cases h

end Shown

/-! ### The secrets and the detail -/

section Detail

variable (isAlnum : Char → Bool) (status : Nat)

theorem errorReplyDetail_of_some {payload : Json} {text : String} (h : jsonErrorDetail payload = some text) (hne : text ≠ "") :
    errorReplyDetail isAlnum status payload = redactSensitiveText isAlnum text := by
  rw [errorReplyDetail, h]
  dsimp only
  rw [if_neg hne]
  rfl

/-- The detail is the same for all bodies with one view exactly when no sensitive key is in the part that is
rendered as a structure. -/
theorem streamHttpError_hides_secrets_iff {Context : Type} (body : Json) :
    (∀ other, SameBut secret body other → ∀ attempted (rebind rebind' : Option (Option Context)),
      (streamHttpError isAlnum status (some body) attempted rebind).detail =
        (streamHttpError isAlnum status (some other) attempted rebind').detail) ↔
      (renderedPart body).anyKey isSensitiveKey = false := by
  simp only [detail_streamHttpError]
  constructor
  · intro hall
    by_contra hkey
    rw [Bool.not_eq_false] at hkey
    -- One comma more than the detail of this body has.
    let n := (errorReplyDetail isAlnum status body).toList.count ',' + 1
    obtain ⟨text, hline, front, behind, htext⟩ := exists_jsonErrorDetail_of_anyKey (quoteAndZeros n) isSensitiveKey_sparesReport
      hkey (dump_quoteAndZeros true n) (repr_quoteAndZeros n)
    have hne : text ≠ "" := by
      rintro rfl
      have hlength := congrArg List.length htext
      simp [mixedList, mixed] at hlength
    have hsame : SameBut secret body (fill secret (quoteAndZeros n) body) :=
      (sameBut_fill (stable_of_keys isSensitiveKey) (quoteAndZeros n) body).symm
    have hlist : text.toList = front ++ mixedList (zeros n) behind := by
      rw [← htext]
      simp [mixedList]
    have hcount := count_le_count_redactSensitiveText isAlnum (head?_zeros n) (@not_isAssignment_of_mem_zeros n) hlist
    have hdetail := (hall _ hsame false none none).trans (errorReplyDetail_of_some isAlnum status hline hne)
    rw [← hdetail, count_zeros] at hcount
    omega
  · intro hkey other hsame _ _ _
    rw [errorReplyDetail, errorReplyDetail, jsonErrorDetail_eq_of_sameBut isSensitiveKey_sparesReport hkey hsame]

end Detail

def leakyBody (token : String) : Json := .obj [("detail", .obj [("token", .arr [.str "a b", .str token])])]

def leakyDetail (token : String) : String := "\x7b\"token\": [redacted] b\", \"" ++ token ++ "\"]\x7d"

theorem errorReplyDetail_of_swept (isAlnum : Char → Bool) {status : Nat} {body : Json} {line shown : String} (hne : line ≠ "")
    (hline : jsonErrorDetail body = some line)
    (hassign : redactAssignments line.toList assignmentValue renderRedactedValue isSensitiveOrEchoKey = shown.toList)
    (hnone : (credential.search [] shown.toList).isNone = true) : errorReplyDetail isAlnum status body = shown := by
  have hbearer := search_eq_none_of_ends (bearer_ends isAlnum) (Option.isNone_iff_eq_none.1 hnone)
  rw [errorReplyDetail_of_some isAlnum status hline hne, redactSensitiveText, hassign, sub_of_search_eq_none hbearer,
    String.ofList_toList]

/-- The list is not read as one value: its second item stays in the detail. -/
theorem listed_secret_is_shown : SameBut secret (leakyBody "SECRET") (leakyBody "OTHER") ∧ ∀ isAlnum,
    (@streamHttpError isAlnum Unit 422 (some (leakyBody "SECRET")) false none).detail = leakyDetail "SECRET" ∧
      (@streamHttpError isAlnum Unit 422 (some (leakyBody "OTHER")) false none).detail ≠ leakyDetail "SECRET" := by
  refine ⟨rfl, fun isAlnum => ?_⟩
  have hsecret := @errorReplyDetail_of_swept isAlnum 422 (leakyBody "SECRET") "\x7b\"token\": [\"a b\", \"SECRET\"]\x7d"
    (leakyDetail "SECRET") (by decide)
    (by decide +kernel) (by decide +kernel) (by decide +kernel)
  have hother := @errorReplyDetail_of_swept isAlnum 422 (leakyBody "OTHER") "\x7b\"token\": [\"a b\", \"OTHER\"]\x7d"
    (leakyDetail "OTHER") (by decide)
    (by decide +kernel) (by decide +kernel) (by decide +kernel)
  rw [detail_streamHttpError, detail_streamHttpError, hsecret, hother]
  exact ⟨rfl, by decide⟩

end Proxbox
