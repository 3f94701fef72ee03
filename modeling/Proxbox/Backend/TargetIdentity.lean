import Proxbox.Backend.KeyTarget
/-!
# What a target fingerprint determines

The payload under the digest has six parts between NUL characters. The address of an endpoint comes from the
database, which holds no NUL, so that no part of the payload has one and two endpoints with one fingerprint are
bound to the same target. More is true: a mixture of their fields, as a partial save makes one, is bound to that
target too.
-/

namespace Proxbox.BackendKey

open Python

def schemeOf (useHttps : Bool) : String := if useHttps then "https" else "http"

def targetText (useHttps : Bool) (host : String) (port : Nat) : String :=
  schemeOf useHttps ++ "://" ++ host ++ ":" ++ toString port

def ValidDomain (domain : String) : Prop := domain = "localhost" ∨ isFqdn domain = true ∨ isSimpleHost domain = true

instance (domain : String) : Decidable (ValidDomain domain) := by unfold ValidDomain; infer_instance

/-- The text holds no NUL, as no text of the database does. -/
def NulFree (s : String) : Prop := Char.ofNat 0 ∉ s.toList

def Endpoint.NulFree (endpoint : Endpoint) : Prop := ∀ value, endpoint.ip = some value → BackendKey.NulFree value

/-- What is used of the standard library. A NUL in what a parser returns is one of the text it was given, such as
that of the IPv6 scope in `fe80::1%\x00`. -/
structure Platform.Lawful (platform : Platform) : Prop where
  lower_lower : ∀ s, platform.lower (platform.lower s) = platform.lower s
  lower_scheme : ∀ useHttps, platform.lower (schemeOf useHttps) = schemeOf useHttps
  mem_lower : ∀ s, ∀ c ∈ ['/', '%'], c ∈ s.toList → c ∈ (platform.lower s).toList
  ipAddress_lower : ∀ s, '%' ∉ s.toList → platform.ipAddress (platform.lower s) = platform.ipAddress s
  ipAddress_empty : platform.ipAddress "" = none
  ipAddress_ne_empty : ∀ s address, platform.ipAddress s = some address → address.text ≠ ""
  ipAddress_nulFree : ∀ s address, platform.ipAddress s = some address → NulFree s → NulFree address.text
  urlsplit_target : ∀ useHttps host port parsed,
    platform.urlsplit (strip (targetText useHttps host port)) = some parsed → parsed.plain platform = true →
    parsed.scheme = schemeOf useHttps ∧ parsed.port = some port
  urlsplit_hostname : ∀ useHttps domain port parsed, ValidDomain domain → platform.lower domain = domain →
    platform.urlsplit (strip (targetText useHttps domain port)) = some parsed → parsed.hostname = some domain
  urlsplit_nulFree : ∀ s parsed, platform.urlsplit s = some parsed → NulFree s → NulFree (parsed.hostname.getD "")

/-! ### Texts -/

variable {c : Char}

theorem toString_not_mem (hc : c.isDigit = false) (n : Nat) : c ∉ (toString n).toList := by
  intro hmem
  rw [toString_isDigit hmem] at hc
  cases hc

theorem append_port_inj {first second : String} {n m : Nat}
    (h : first ++ ":" ++ toString n = second ++ ":" ++ toString m) : first = second ∧ n = m := by
  have hreversed : (toString n).toList.reverse ++ ':' :: first.toList.reverse
      = (toString m).toList.reverse ++ ':' :: second.toList.reverse := by
    have hlists := congrArg (fun text : String => text.toList.reverse) h
    simpa using hlists
  obtain ⟨hdigits, hrest⟩ := cut_unique (by simpa using toString_not_mem (by decide) n)
    (by simpa using toString_not_mem (by decide) m) hreversed
  exact ⟨String.toList_inj.mp (List.reverse_injective hrest), toString_toList_inj (List.reverse_injective hdigits)⟩

theorem schemeOf_inj {useHttps useHttps' : Bool} {rest rest' : String}
    (h : schemeOf useHttps ++ "://" ++ rest = schemeOf useHttps' ++ "://" ++ rest') :
    useHttps = useHttps' ∧ rest = rest' := by
  have hlists := congrArg String.toList h
  cases useHttps <;> cases useHttps' <;> simp [schemeOf] at hlists ⊢
  · exact String.toList_inj.mp hlists
  · exact String.toList_inj.mp hlists

/-! ### Parts without a NUL -/

theorem NulFree.strip {s : String} (h : NulFree s) : NulFree (strip s) := by
  unfold NulFree Python.strip
  rw [String.toList_ofList]
  exact fun hmem => h (mem_of_mem_stripChars hmem)

theorem NulFree.splitHead {s : String} (h : NulFree s) : NulFree (splitHead c s) := by
  unfold NulFree Python.splitHead
  rw [String.toList_ofList]
  exact fun hmem => h ((List.takeWhile_prefix _).subset hmem)

theorem isAlnum_of_isDigit (h : c.isDigit = true) : isAlnum c = true := by
  simp only [Char.isDigit, Bool.and_eq_true, decide_eq_true_eq] at h
  simp only [isAlnum, Bool.or_eq_true, Bool.and_eq_true, decide_eq_true_eq, Char.le_def]
  exact .inr h

theorem isLabel_chars {label : List Char} (h : isLabel label = true) : ∀ c ∈ label, isAlnum c = true ∨ c = '-' := by
  simp only [isLabel, Bool.and_eq_true, List.all_eq_true, Bool.or_eq_true, decide_eq_true_eq] at h
  exact h.1.1.2

def HostChar (c : Char) : Prop := isAlnum c = true ∨ c = '-' ∨ c = '.'

variable {domain : String}

theorem isSimpleHost_chars (h : isSimpleHost domain = true) : ∀ c ∈ domain.toList, HostChar c :=
  fun c hc => (isLabel_chars h c hc).imp id .inl

theorem mem_intercalate_cases {c d : Char} {parts : List (List Char)} (h : c ∈ [d].intercalate parts) :
    c = d ∨ ∃ part ∈ parts, c ∈ part := by
  induction parts with
  | nil => simp [List.intercalate] at h
  | cons part rest ih =>
    cases rest with
    | nil => exact .inr ⟨part, by simp, by simpa [List.intercalate] using h⟩
    | cons next rest =>
      have hsplit : c ∈ part ∨ c = d ∨ c ∈ [d].intercalate (next :: rest) := by
        simpa [List.intercalate] using h
      rcases hsplit with hmem | rfl | hmem
      · exact .inr ⟨part, by simp, hmem⟩
      · exact .inl rfl
      · exact (ih hmem).imp id fun ⟨found, hfound, hc⟩ => ⟨found, List.mem_cons_of_mem _ hfound, hc⟩

theorem isFqdn_chars (h : isFqdn domain = true) : ∀ c ∈ domain.toList, HostChar c := by
  simp only [isFqdn, Bool.and_eq_true, List.all_eq_true] at h
  obtain ⟨⟨-, hlabels⟩, htop⟩ := h
  obtain ⟨top, hlast, htop⟩ : ∃ top, (domain.toList.splitOn '.').getLast? = some top ∧
      (2 ≤ top.length ∧ ∀ c ∈ top, isAlnum c = true) := by
    cases hlast : (domain.toList.splitOn '.').getLast? with
    | none => simp [hlast] at htop
    | some top => exact ⟨top, rfl, by simpa [hlast] using htop⟩
  intro c hc
  have hjoined : c ∈ ['.'].intercalate (domain.toList.splitOn '.') := by
    rw [List.intercalate_splitOn]
    exact hc
  rcases mem_intercalate_cases hjoined with rfl | ⟨label, hlabel, hmem⟩
  · exact .inr (.inr rfl)
  · rw [← List.dropLast_append_getLast? top hlast, List.mem_append, List.mem_singleton] at hlabel
    rcases hlabel with hinner | rfl
    · exact (isLabel_chars (hlabels label hinner) c hmem).imp id .inl
    · exact .inl (htop.2 c hmem)

theorem hostChar_of_valid (h : ValidDomain domain) :
    ∀ c ∈ domain.toList, HostChar c := by
  rcases h with rfl | hfqdn | hsimple
  · exact isSimpleHost_chars (by decide +kernel)
  · exact isFqdn_chars hfqdn
  · exact isSimpleHost_chars hsimple

theorem not_mem_of_hostChars (h : ∀ c ∈ domain.toList, HostChar c)
    (hc : isAlnum c = false ∧ c ≠ '-' ∧ c ≠ '.') : c ∉ domain.toList := by
  intro hmem
  rcases h c hmem with halnum | rfl | rfl
  · rw [hc.1] at halnum
    cases halnum
  · exact hc.2.1 rfl
  · exact hc.2.2 rfl

/-! ### The parts of a target -/

section Parts

variable {platform : Platform} {endpoint : Endpoint}

theorem canonicalDomain_eq_ok {value domain : String} : canonicalDomain platform value = .ok domain ↔
    domain = platform.lower (strip value) ∧ domain ≠ "" ∧ domain.length ≤ 253 ∧ ValidDomain domain := by
  unfold canonicalDomain
  constructor
  · intro h
    obtain ⟨_, hvalid, hdomain⟩ := bind_eq_ok.mp h
    obtain rfl := Except.ok.inj hdomain
    exact ⟨rfl, ensure_eq_ok.mp hvalid⟩
  · rintro ⟨rfl, hvalid⟩
    exact bind_eq_ok.mpr ⟨(), ensure_eq_ok.mpr hvalid, rfl⟩

theorem canonicalIpAuthority_some {value authority : String} :
    canonicalIpAuthority platform (some value) = .ok authority ↔
      ∃ address, platform.ipAddress (strip (splitHead '/' value)) = some address ∧ authority = bracketed address := by
  simp only [canonicalIpAuthority]
  cases platform.ipAddress (strip (splitHead '/' value)) with
  | none => simp
  | some address => simp [eq_comm]

def hostOf (platform : Platform) (endpoint : Endpoint) : Except BackendKeyAdoptionError String :=
  if strip endpoint.domain ≠ "" then canonicalDomain platform (strip endpoint.domain)
  else canonicalIpAuthority platform endpoint.ip

theorem backendKeyTarget_eq_ok {target : String × Bool} : backendKeyTarget platform endpoint = .ok target ↔
    ∃ host, hostOf platform endpoint = .ok host ∧ host ≠ "" ∧ (1 ≤ endpoint.port ∧ endpoint.port ≤ 65535) ∧
      normalizeBackendBaseUrl platform (targetText endpoint.useHttps host endpoint.port) = .ok target.1 ∧
      target.2 = endpoint.verifySsl := by
  have hunfold : backendKeyTarget platform endpoint = (hostOf platform endpoint >>= fun host => do
      ensure (host ≠ "") addressMissing
      ensure (1 ≤ endpoint.port ∧ endpoint.port ≤ 65535) portInvalid
      let baseUrl ← normalizeBackendBaseUrl platform (targetText endpoint.useHttps host endpoint.port)
      return (baseUrl, endpoint.verifySsl)) := by
    unfold backendKeyTarget hostOf
    split_ifs <;> rfl
  rw [hunfold]
  simp only [bind_eq_ok, ensure_eq_ok]
  constructor
  · rintro ⟨host, hhost, _, hne, _, hport, url, hurl, htarget⟩
    obtain rfl := Except.ok.inj htarget
    exact ⟨host, hhost, hne, hport, hurl, rfl⟩
  · rintro ⟨host, hhost, hne, hport, hurl, hverify⟩
    exact ⟨host, hhost, (), hne, (), hport, target.1, hurl, by rw [← hverify]; rfl⟩

def authorityOf (platform : Platform) (hostname : String) : Except BackendKeyAdoptionError String :=
  match platform.ipAddress hostname with
  | some address => .ok (bracketed address)
  | none => canonicalDomain platform hostname

variable {address : IpAddress}

theorem bracketed_nulFree (hlawful : platform.Lawful) {s : String}
    (h : platform.ipAddress s = some address) (hs : NulFree s) : NulFree (bracketed address) := by
  have htext := hlawful.ipAddress_nulFree s address h hs
  unfold bracketed
  split_ifs
  · simpa [NulFree] using htext
  · exact htext

theorem bracketed_ne_empty (hlawful : platform.Lawful) {s : String}
    (h : platform.ipAddress s = some address) : bracketed address ≠ "" := by
  have htext := hlawful.ipAddress_ne_empty s address h
  unfold bracketed
  split_ifs
  · intro hempty
    simpa using congrArg String.toList hempty
  · exact htext

theorem ValidDomain.nulFree (h : ValidDomain domain) : NulFree domain :=
  not_mem_of_hostChars (hostChar_of_valid h) (by decide)

theorem authorityOf_nulFree (hlawful : platform.Lawful) {hostname authority : String} (hhostname : NulFree hostname)
    (h : authorityOf platform hostname = .ok authority) : NulFree authority := by
  unfold authorityOf at h
  split at h
  · rename_i address haddress
    obtain rfl := Except.ok.inj h
    exact bracketed_nulFree hlawful haddress hhostname
  · exact (canonicalDomain_eq_ok.mp h).2.2.2.nulFree

theorem normalize_targetText (hlawful : platform.Lawful) {useHttps : Bool} {host url : String} {port : Nat}
    (h : normalizeBackendBaseUrl platform (targetText useHttps host port) = .ok url) :
    ∃ parsed authority, platform.urlsplit (strip (targetText useHttps host port)) = some parsed ∧
      authorityOf platform (parsed.hostname.getD "") = .ok authority ∧ url = targetText useHttps authority port := by
  unfold normalizeBackendBaseUrl at h
  obtain ⟨_, -, h⟩ := bind_eq_ok.mp h
  split at h
  · cases h
  · rename_i parsed hparsed
    obtain ⟨_, hplain, h⟩ := bind_eq_ok.mp h
    obtain ⟨hscheme, hport⟩ := hlawful.urlsplit_target _ _ _ _ hparsed (ensure_eq_ok.mp hplain)
    have hauthority : ∃ authority, authorityOf platform (parsed.hostname.getD "") = .ok authority ∧
        url = platform.lower parsed.scheme ++ "://" ++ authority ++ ":" ++ toString port := by
      unfold authorityOf
      simp only [hport] at h
      cases haddress : platform.ipAddress (parsed.hostname.getD "") with
      | some address =>
        simp only [haddress] at h
        obtain ⟨authority, hauthority, h⟩ := bind_eq_ok.mp h
        obtain ⟨_, -, h⟩ := bind_eq_ok.mp h
        exact ⟨authority, hauthority, (Except.ok.inj h).symm⟩
      | none =>
        simp only [haddress] at h
        obtain ⟨authority, hdomain, h⟩ := bind_eq_ok.mp h
        obtain ⟨_, -, h⟩ := bind_eq_ok.mp h
        exact ⟨authority, hdomain, (Except.ok.inj h).symm⟩
    obtain ⟨authority, hauthority, hurl⟩ := hauthority
    refine ⟨parsed, authority, hparsed, hauthority, ?_⟩
    rw [hurl, hscheme, hlawful.lower_scheme]
    rfl

variable {authority : String}

theorem NulFree.targetText {useHttps : Bool} {port : Nat} (h : NulFree authority) :
    NulFree (targetText useHttps authority port) := by
  have hport := toString_not_mem (show (Char.ofNat 0).isDigit = false by decide) port
  unfold NulFree at h ⊢
  cases useHttps <;> simp [BackendKey.targetText, schemeOf, h] <;> simpa using hport

theorem canonicalIpAuthority_nulFree (hlawful : platform.Lawful) {ip : Option String}
    (hip : ∀ value, ip = some value → NulFree value)
    (h : canonicalIpAuthority platform ip = .ok authority) : NulFree authority := by
  cases ip with
  | none =>
    obtain rfl := Except.ok.inj h
    simp [NulFree]
  | some value =>
    obtain ⟨address, haddress, rfl⟩ := canonicalIpAuthority_some.mp h
    exact bracketed_nulFree hlawful haddress (hip value rfl).splitHead.strip

theorem hostOf_nulFree (hlawful : platform.Lawful) (hendpoint : endpoint.NulFree) {host : String}
    (h : hostOf platform endpoint = .ok host) : NulFree host := by
  unfold hostOf at h
  split_ifs at h
  · exact (canonicalDomain_eq_ok.mp h).2.2.2.nulFree
  · exact canonicalIpAuthority_nulFree hlawful hendpoint h

theorem canonicalIpAuthority_eq_empty (hlawful : platform.Lawful) {ip : Option String}
    (h : canonicalIpAuthority platform ip = .ok "") : ip = none := by
  cases ip with
  | none => rfl
  | some value =>
    obtain ⟨address, haddress, hempty⟩ := canonicalIpAuthority_some.mp h
    exact absurd hempty.symm (bracketed_ne_empty hlawful haddress)

theorem fallbackTarget_eq_ok {fallback : String} : fallbackTarget platform endpoint = .ok fallback ↔
    ∃ authority, canonicalIpAuthority platform endpoint.ip = .ok authority ∧
      fallback = if authority = "" then "" else targetText endpoint.useHttps authority endpoint.port := by
  unfold fallbackTarget
  rw [bind_eq_ok]
  exact exists_congr fun authority => and_congr_right fun _ => ⟨fun h => (Except.ok.inj h).symm, fun h => by rw [h]; rfl⟩

theorem canonicalBackendAuthority_of_ip (hlawful : platform.Lawful) {value authority : String}
    (h : canonicalIpAuthority platform (some value) = .ok authority) :
    canonicalBackendAuthority platform value = .ok authority := by
  obtain ⟨address, haddress, rfl⟩ := canonicalIpAuthority_some.mp h
  have hraw : strip (splitHead '/' value) ≠ "" := by
    intro hempty
    rw [hempty, hlawful.ipAddress_empty] at haddress
    cases haddress
  have hagain : canonicalIpAuthority platform (some (strip (splitHead '/' value))) = .ok (bracketed address) := by
    refine canonicalIpAuthority_some.mpr ⟨address, ?_, rfl⟩
    rw [splitHead_strip_splitHead, strip_strip]
    exact haddress
  unfold canonicalBackendAuthority
  simp only [if_neg hraw, hagain]

theorem websocketTarget_eq_ok (huse : endpoint.useWebsocket = true) {websocket : String} :
    websocketTarget platform endpoint = .ok websocket ↔
      ∃ host, canonicalBackendAuthority platform (websocketSource endpoint) = .ok host ∧ host ≠ "" ∧
        (1 ≤ endpoint.websocketPort.getD endpoint.port ∧ endpoint.websocketPort.getD endpoint.port ≤ 65535) ∧
        websocket = host ++ ":" ++ toString (endpoint.websocketPort.getD endpoint.port) := by
  unfold websocketTarget
  simp only [huse, Bool.not_true, Bool.false_eq_true, if_false, bind_eq_ok, ensure_eq_ok]
  constructor
  · rintro ⟨host, hhost, _, hne, _, hport, h⟩
    exact ⟨host, hhost, hne, hport, (Except.ok.inj h).symm⟩
  · rintro ⟨host, hhost, hne, hport, rfl⟩
    exact ⟨host, hhost, (), hne, (), hport, rfl⟩

theorem websocketTarget_unused (huse : endpoint.useWebsocket = false) : websocketTarget platform endpoint = .ok "" := by
  unfold websocketTarget
  simp only [huse, Bool.not_false, if_true]
  rfl

theorem backendKeyBinding_eq_ok {binding : Binding} : backendKeyBinding platform endpoint = .ok binding ↔
    backendKeyTarget platform endpoint = .ok (binding.baseUrl, binding.verifySsl) ∧
      (!endpoint.serverSideWebsocket || endpoint.useWebsocket) = true ∧
      fallbackTarget platform endpoint = .ok binding.fallback ∧
      websocketTarget platform endpoint = .ok binding.websocket ∧
      binding.useWebsocket = endpoint.useWebsocket ∧ binding.serverSideWebsocket = endpoint.serverSideWebsocket := by
  unfold backendKeyBinding
  simp only [bind_eq_ok, ensure_eq_ok]
  constructor
  · rintro ⟨⟨baseUrl, verifySsl⟩, htarget, _, hpolicy, fallback, hfallback, websocket, hwebsocket, h⟩
    obtain rfl := Except.ok.inj h
    exact ⟨htarget, hpolicy, hfallback, hwebsocket, rfl, rfl⟩
  · rintro ⟨htarget, hpolicy, hfallback, hwebsocket, huse, hserver⟩
    exact ⟨_, htarget, (), hpolicy, _, hfallback, _, hwebsocket, by rw [← huse, ← hserver]; rfl⟩

end Parts

/-! ### The payload -/

section Payload

variable {platform : Platform}

structure Binding.Separated (binding : Binding) : Prop where
  baseUrl : NulFree binding.baseUrl
  fallback : NulFree binding.fallback

theorem bit_nulFree (b : Bool) : NulFree (bit b) := by cases b <;> unfold NulFree <;> decide

theorem bit_injective {b b' : Bool} (h : bit b = bit b') : b = b' := by
  revert h
  cases b <;> cases b' <;> decide

theorem Binding.payload_injective {binding binding' : Binding} (hfirst : binding.Separated)
    (hsecond : binding'.Separated) (h : binding.payload = binding'.payload) : binding = binding' := by
  have hlists := congrArg String.toList h
  simp only [Binding.payload, String.toList_append, List.append_assoc] at hlists
  have hnul : ("\x00" : String).toList = [Char.ofNat 0] := by decide
  simp only [hnul, List.singleton_append] at hlists
  obtain ⟨hbase, hlists⟩ := cut_unique hfirst.baseUrl hsecond.baseUrl hlists
  obtain ⟨hfallback, hlists⟩ := cut_unique hfirst.fallback hsecond.fallback hlists
  obtain ⟨hverify, hlists⟩ := cut_unique (bit_nulFree _) (bit_nulFree _) hlists
  obtain ⟨huse, hlists⟩ := cut_unique (bit_nulFree _) (bit_nulFree _) hlists
  obtain ⟨hserver, hwebsocket⟩ := cut_unique (bit_nulFree _) (bit_nulFree _) hlists
  obtain ⟨baseUrl, fallback, verifySsl, useWebsocket, serverSideWebsocket, websocket⟩ := binding
  simp only [String.toList_inj] at hbase hfallback hverify huse hserver hwebsocket
  rw [hbase, hfallback, bit_injective hverify, bit_injective huse, bit_injective hserver, hwebsocket]

theorem backendKeyBinding_separated (hlawful : platform.Lawful) {endpoint : Endpoint} {binding : Binding}
    (hendpoint : endpoint.NulFree) (h : backendKeyBinding platform endpoint = .ok binding) : binding.Separated := by
  obtain ⟨htarget, -, hfallback, -⟩ := backendKeyBinding_eq_ok.mp h
  constructor
  · obtain ⟨host, hhost, -, -, hurl, -⟩ := backendKeyTarget_eq_ok.mp htarget
    obtain ⟨parsed, authority, hparsed, hauthority, hbase⟩ := normalize_targetText hlawful hurl
    have hname := hlawful.urlsplit_nulFree _ _ hparsed (hostOf_nulFree hlawful hendpoint hhost).targetText.strip
    rw [show binding.baseUrl = _ from hbase]
    exact (authorityOf_nulFree hlawful hname hauthority).targetText
  · obtain ⟨authority, hauthority, htext⟩ := fallbackTarget_eq_ok.mp hfallback
    rw [htext]
    split_ifs
    · simp [NulFree]
    · exact (canonicalIpAuthority_nulFree hlawful hendpoint hauthority).targetText

theorem backendKeyTargetFingerprint_eq_ok {endpoint : Endpoint} {fingerprint : String} :
    backendKeyTargetFingerprint platform endpoint = .ok fingerprint ↔
      ∃ binding, backendKeyBinding platform endpoint = .ok binding ∧ platform.sha256 binding.payload = fingerprint := by
  unfold backendKeyTargetFingerprint
  rw [bind_eq_ok]
  exact exists_congr fun binding => and_congr_right fun _ => ⟨Except.ok.inj, fun h => by rw [← h]; rfl⟩

theorem backendKeyBinding_of_fingerprint (hlawful : platform.Lawful) (hsha : Function.Injective platform.sha256)
    {endpoint : Endpoint} {binding : Binding} (hendpoint : endpoint.NulFree) (hbinding : binding.Separated)
    (h : backendKeyTargetFingerprint platform endpoint = .ok (platform.sha256 binding.payload)) :
    backendKeyBinding platform endpoint = .ok binding := by
  obtain ⟨found, hfound, hdigest⟩ := backendKeyTargetFingerprint_eq_ok.mp h
  rw [hfound, Binding.payload_injective (backendKeyBinding_separated hlawful hendpoint hfound) hbinding
    (hsha hdigest)]

end Payload

/-! ### Mixtures -/

section Mixed

variable {platform : Platform} {first second mixed : Endpoint} {binding : Binding}

structure Mixed (first second mixed : Endpoint) : Prop where
  domain : mixed.domain = first.domain ∨ mixed.domain = second.domain
  ip : mixed.ip = first.ip ∨ mixed.ip = second.ip
  port : mixed.port = first.port ∨ mixed.port = second.port
  useHttps : mixed.useHttps = first.useHttps ∨ mixed.useHttps = second.useHttps
  verifySsl : mixed.verifySsl = first.verifySsl ∨ mixed.verifySsl = second.verifySsl
  useWebsocket : mixed.useWebsocket = first.useWebsocket ∨ mixed.useWebsocket = second.useWebsocket
  websocketDomain : mixed.websocketDomain = first.websocketDomain ∨ mixed.websocketDomain = second.websocketDomain
  websocketPort : mixed.websocketPort = first.websocketPort ∨ mixed.websocketPort = second.websocketPort
  serverSideWebsocket : mixed.serverSideWebsocket = first.serverSideWebsocket ∨
    mixed.serverSideWebsocket = second.serverSideWebsocket

structure Shares (platform : Platform) (binding : Binding) (useHttps : Bool) (port : Nat) (authority : String)
    (endpoint : Endpoint) : Prop where
  bound : backendKeyBinding platform endpoint = .ok binding
  useHttps : endpoint.useHttps = useHttps
  port : endpoint.port = port
  authority : canonicalIpAuthority platform endpoint.ip = .ok authority

theorem targetText_inj {useHttps useHttps' : Bool} {authority authority' : String} {port port' : Nat}
    (h : targetText useHttps authority port = targetText useHttps' authority' port') :
    useHttps = useHttps' ∧ authority = authority' ∧ port = port' := by
  unfold targetText at h
  obtain ⟨hhost, hport⟩ := append_port_inj h
  obtain ⟨hscheme, hauthority⟩ := schemeOf_inj hhost
  exact ⟨hscheme, hauthority, hport⟩

theorem targetText_ne_empty (useHttps : Bool) (authority : String) (port : Nat) :
    targetText useHttps authority port ≠ "" := by
  intro h
  have hlists := congrArg String.toList h
  cases useHttps <;> simp [targetText, schemeOf] at hlists

theorem Shares.of_bound (h : backendKeyBinding platform first = .ok binding) :
    ∃ authority, Shares platform binding first.useHttps first.port authority first := by
  obtain ⟨-, -, hfallback, -⟩ := backendKeyBinding_eq_ok.mp h
  obtain ⟨authority, hauthority, -⟩ := fallbackTarget_eq_ok.mp hfallback
  exact ⟨authority, h, rfl, rfl, hauthority⟩

variable {useHttps : Bool} {port : Nat} {authority : String}

theorem Shares.transfer (hlawful : platform.Lawful)
    (hfirst : Shares platform binding useHttps port authority first)
    (hsecond : backendKeyBinding platform second = .ok binding) :
    Shares platform binding useHttps port authority second := by
  obtain ⟨htarget, -, hfallback, -⟩ := backendKeyBinding_eq_ok.mp hfirst.bound
  obtain ⟨htarget', -, hfallback', -⟩ := backendKeyBinding_eq_ok.mp hsecond
  obtain ⟨host, -, -, -, hurl, -⟩ := backendKeyTarget_eq_ok.mp htarget
  obtain ⟨host', -, -, -, hurl', -⟩ := backendKeyTarget_eq_ok.mp htarget'
  obtain ⟨_, _, -, -, hbase⟩ := normalize_targetText hlawful hurl
  obtain ⟨_, _, -, -, hbase'⟩ := normalize_targetText hlawful hurl'
  obtain ⟨hscheme, -, hport⟩ := targetText_inj (hbase.symm.trans hbase')
  have huse : second.useHttps = useHttps := hscheme.symm.trans hfirst.useHttps
  have hsame : second.port = port := hport.symm.trans hfirst.port
  refine ⟨hsecond, huse, hsame, ?_⟩
  obtain ⟨found, hfound, htext⟩ := fallbackTarget_eq_ok.mp hfallback
  obtain ⟨found', hfound', htext'⟩ := fallbackTarget_eq_ok.mp hfallback'
  obtain rfl : found = authority := Except.ok.inj (hfound.symm.trans hfirst.authority)
  have hequal := htext.symm.trans htext'
  -- the two fallback texts agree, so both are blank or both name one authority
  by_cases hempty : found = ""
  · by_cases hempty' : found' = ""
    · rw [hfound', hempty', hempty]
    · rw [if_pos hempty, if_neg hempty'] at hequal
      exact absurd hequal.symm (targetText_ne_empty _ _ _)
  · by_cases hempty' : found' = ""
    · rw [if_neg hempty, if_pos hempty'] at hequal
      exact absurd hequal (targetText_ne_empty _ _ _)
    · rw [if_neg hempty, if_neg hempty'] at hequal
      rw [hfound', (targetText_inj hequal).2.1]

theorem backendKeyTarget_congr {endpoint endpoint' : Endpoint} (hhost : hostOf platform endpoint = hostOf platform endpoint')
    (huse : endpoint.useHttps = endpoint'.useHttps) (hport : endpoint.port = endpoint'.port)
    (hverify : endpoint.verifySsl = endpoint'.verifySsl) {target : String × Bool}
    (h : backendKeyTarget platform endpoint = .ok target) : backendKeyTarget platform endpoint' = .ok target := by
  rw [backendKeyTarget_eq_ok] at h ⊢
  rw [← hhost, ← huse, ← hport, ← hverify]
  exact h

theorem canonicalDomain_chars (hlawful : platform.Lawful) {domain canonical : String}
    (h : canonicalDomain platform (strip domain) = .ok canonical) :
    '/' ∉ (strip domain).toList ∧ '%' ∉ (strip domain).toList := by
  obtain ⟨hcanonical, -, -, hvalid⟩ := canonicalDomain_eq_ok.mp h
  rw [strip_strip] at hcanonical
  have hchars := hostChar_of_valid hvalid
  rw [hcanonical] at hchars
  exact ⟨fun hmem => not_mem_of_hostChars hchars (by decide) (hlawful.mem_lower _ '/' (by simp) hmem),
    fun hmem => not_mem_of_hostChars hchars (by decide) (hlawful.mem_lower _ '%' (by simp) hmem)⟩

theorem isSpace_of_hostChar (h : HostChar c) : isSpace c = false := by
  rcases h with halnum | rfl | rfl
  · simp only [isAlnum, Bool.or_eq_true, Bool.and_eq_true, decide_eq_true_eq, Char.le_def, UInt32.le_iff_toNat_le] at halnum
    simp only [isSpace, Char.toNat]
    simp at halnum ⊢
    omega
  · decide
  · decide

theorem canonicalDomain_canonical (hlawful : platform.Lawful) {value canonical : String}
    (h : canonicalDomain platform value = .ok canonical) : canonicalDomain platform canonical = .ok canonical := by
  obtain ⟨hcanonical, hvalid⟩ := canonicalDomain_eq_ok.mp h
  refine canonicalDomain_eq_ok.mpr ⟨?_, hvalid⟩
  rw [strip_of_forall_not_isSpace fun c hc => isSpace_of_hostChar (hostChar_of_valid hvalid.2.2 c hc), hcanonical,
    hlawful.lower_lower]

theorem canonicalBackendAuthority_of_domain (hlawful : platform.Lawful) {domain canonical : String}
    (hne : strip domain ≠ "") (h : canonicalDomain platform (strip domain) = .ok canonical) :
    canonicalBackendAuthority platform domain = authorityOf platform canonical := by
  obtain ⟨hslash, hpercent⟩ := canonicalDomain_chars hlawful h
  have hcut : splitHead '/' domain = domain := by
    apply splitHead_of_not_mem
    intro hmem
    unfold strip at hslash
    rw [String.toList_ofList] at hslash
    exact hslash (mem_stripChars hmem (by decide))
  have haddress : platform.ipAddress canonical = platform.ipAddress (strip domain) := by
    rw [(canonicalDomain_eq_ok.mp h).1, strip_strip]
    exact hlawful.ipAddress_lower _ hpercent
  unfold canonicalBackendAuthority authorityOf
  simp only [hcut, if_neg hne, canonicalIpAuthority, splitHead_of_not_mem hslash, strip_strip, haddress]
  cases platform.ipAddress (strip domain) with
  | some address => rfl
  | none => exact h.trans (canonicalDomain_canonical hlawful h).symm

theorem canonicalBackendAuthority_of_target (hlawful : platform.Lawful) {endpoint : Endpoint} {target : String × Bool}
    (hip : endpoint.ip = none) (h : backendKeyTarget platform endpoint = .ok target) :
    ∃ authority, canonicalBackendAuthority platform endpoint.domain = .ok authority ∧
      target.1 = targetText endpoint.useHttps authority endpoint.port := by
  obtain ⟨host, hhost, hne, -, hurl, -⟩ := backendKeyTarget_eq_ok.mp h
  unfold hostOf at hhost
  rw [hip] at hhost
  split_ifs at hhost with hdomain
  · obtain ⟨parsed, authority, hparsed, hauthority, hbase⟩ := normalize_targetText hlawful hurl
    have hvalid := (canonicalDomain_eq_ok.mp hhost).2.2.2
    have hfixed : platform.lower host = host := by
      rw [(canonicalDomain_eq_ok.mp hhost).1, hlawful.lower_lower]
    rw [hlawful.urlsplit_hostname _ _ _ _ hvalid hfixed hparsed] at hauthority
    exact ⟨authority, (canonicalBackendAuthority_of_domain hlawful hdomain hhost).trans hauthority, hbase⟩
  · exact absurd (Except.ok.inj hhost).symm hne

theorem websocketSource_of_ip {endpoint : Endpoint} {value : String} (hdomain : endpoint.websocketDomain = "")
    (hip : endpoint.ip = some value) : websocketSource endpoint = value := by
  simp [websocketSource, hdomain, hip]

theorem websocketSource_of_domain {endpoint : Endpoint} (hdomain : endpoint.websocketDomain = "")
    (hip : endpoint.ip = none) : websocketSource endpoint = endpoint.domain := by
  simp [websocketSource, hdomain, hip]

theorem websocketHost_mixed (hlawful : platform.Lawful)
    {owner other : Endpoint} (howner : Shares platform binding useHttps port authority owner)
    (hother : Shares platform binding useHttps port authority other)
    (hblank : owner.websocketDomain = "") (hmixed : mixed.websocketDomain = "")
    (hauthority : canonicalIpAuthority platform mixed.ip = .ok authority) (hdomain : mixed.domain = other.domain) :
    canonicalBackendAuthority platform (websocketSource mixed) = canonicalBackendAuthority platform
      (websocketSource owner) := by
  cases hip : mixed.ip with
  | some value =>
    rw [hip] at hauthority
    cases hownerIp : owner.ip with
    | none =>
      have hempty := howner.authority
      rw [hownerIp] at hempty
      obtain rfl := Except.ok.inj hempty
      exact absurd (canonicalIpAuthority_eq_empty hlawful hauthority) (by simp)
    | some value' =>
      have hsame := howner.authority
      rw [hownerIp] at hsame
      rw [websocketSource_of_ip hmixed hip, websocketSource_of_ip hblank hownerIp,
        canonicalBackendAuthority_of_ip hlawful hauthority, canonicalBackendAuthority_of_ip hlawful hsame]
  | none =>
    rw [hip] at hauthority
    obtain rfl := Except.ok.inj hauthority
    have hownerIp := canonicalIpAuthority_eq_empty hlawful howner.authority
    have hotherIp := canonicalIpAuthority_eq_empty hlawful hother.authority
    obtain ⟨found, hfound, hbase⟩ :=
      canonicalBackendAuthority_of_target hlawful hownerIp (backendKeyBinding_eq_ok.mp howner.bound).1
    obtain ⟨found', hfound', hbase'⟩ :=
      canonicalBackendAuthority_of_target hlawful hotherIp (backendKeyBinding_eq_ok.mp hother.bound).1
    rw [websocketSource_of_domain hmixed hip, websocketSource_of_domain hblank hownerIp, hdomain, hfound, hfound',
      (targetText_inj (hbase'.symm.trans hbase)).2.1]

theorem Shares.owner {α : Type} {field : Endpoint → α}
    (hfirst : Shares platform binding useHttps port authority first)
    (hsecond : Shares platform binding useHttps port authority second)
    (h : field mixed = field first ∨ field mixed = field second) :
    ∃ owner, Shares platform binding useHttps port authority owner ∧ field mixed = field owner :=
  h.elim (fun h => ⟨first, hfirst, h⟩) fun h => ⟨second, hsecond, h⟩

theorem websocketTarget_mixed (hlawful : platform.Lawful) (hmixed : Mixed first second mixed)
    (hfirst : Shares platform binding useHttps port authority first)
    (hsecond : Shares platform binding useHttps port authority second) (hport : mixed.port = port)
    (hauthority : canonicalIpAuthority platform mixed.ip = .ok authority)
    (hws : mixed.useWebsocket = binding.useWebsocket) :
    websocketTarget platform mixed = .ok binding.websocket := by
  cases huses : binding.useWebsocket with
  | false =>
    obtain ⟨-, -, -, hwebsocket, hownWs, -⟩ := backendKeyBinding_eq_ok.mp hfirst.bound
    rw [websocketTarget_unused (hownWs.symm.trans huses)] at hwebsocket
    rw [websocketTarget_unused (hws.trans huses)]
    exact hwebsocket
  | true =>
    obtain ⟨source, hsource, hwsDomain⟩ := hfirst.owner hsecond hmixed.websocketDomain
    obtain ⟨ported, hported, hwsPort⟩ := hfirst.owner hsecond hmixed.websocketPort
    obtain ⟨other, hother, hdomain⟩ := hfirst.owner hsecond hmixed.domain
    obtain ⟨-, -, -, hwebsocket, hownWs, -⟩ := backendKeyBinding_eq_ok.mp hsource.bound
    obtain ⟨-, -, -, hwebsocket', hownWs', -⟩ := backendKeyBinding_eq_ok.mp hported.bound
    obtain ⟨host, hhost, hne, -, htext⟩ := (websocketTarget_eq_ok (hownWs.symm.trans huses)).mp hwebsocket
    obtain ⟨host', -, -, hrange, htext'⟩ := (websocketTarget_eq_ok (hownWs'.symm.trans huses)).mp hwebsocket'
    obtain ⟨hhosts, -⟩ := append_port_inj (htext.symm.trans htext')
    have hports : mixed.websocketPort.getD mixed.port = ported.websocketPort.getD ported.port := by
      rw [hwsPort, hport, hported.port]
    refine (websocketTarget_eq_ok (hws.trans huses)).mpr ⟨host, ?_, hne, hports ▸ hrange, ?_⟩
    · rw [← hhost]
      by_cases hblank : mixed.websocketDomain = ""
      · exact websocketHost_mixed hlawful hsource hother (hwsDomain.symm.trans hblank) hblank hauthority hdomain
      · unfold websocketSource
        rw [if_pos hblank, if_pos (hwsDomain ▸ hblank), hwsDomain]
    · rw [htext', hports, hhosts]

/-- A mixture of two endpoints with one binding has that binding. -/
theorem backendKeyBinding_mixed (hlawful : platform.Lawful) (hmixed : Mixed first second mixed)
    (hfirst : backendKeyBinding platform first = .ok binding) (hsecond : backendKeyBinding platform second = .ok binding) :
    backendKeyBinding platform mixed = .ok binding := by
  obtain ⟨authority, hshared⟩ := Shares.of_bound hfirst
  have hshared' := hshared.transfer hlawful hsecond
  obtain ⟨owner, howner, huse⟩ := hshared.owner hshared' hmixed.useHttps
  rw [howner.useHttps] at huse
  obtain ⟨owner, howner, hport⟩ := hshared.owner hshared' hmixed.port
  rw [howner.port] at hport
  obtain ⟨owner, howner, hip⟩ := hshared.owner hshared' hmixed.ip
  have hauthority : canonicalIpAuthority platform mixed.ip = .ok authority := by
    rw [hip]
    exact howner.authority
  obtain ⟨owner, howner, hws⟩ := hshared.owner hshared' hmixed.useWebsocket
  rw [← (backendKeyBinding_eq_ok.mp howner.bound).2.2.2.2.1] at hws
  obtain ⟨owner, howner, hserver⟩ := hshared.owner hshared' hmixed.serverSideWebsocket
  obtain ⟨-, hpolicy, -, -, hownerWs, hownerServer⟩ := backendKeyBinding_eq_ok.mp howner.bound
  obtain ⟨owner, howner, hverify⟩ := hshared.owner hshared' hmixed.verifySsl
  obtain ⟨_, -, -, -, -, hownerVerify⟩ := backendKeyTarget_eq_ok.mp (backendKeyBinding_eq_ok.mp howner.bound).1
  refine backendKeyBinding_eq_ok.mpr ⟨?_, ?_, ?_, ?_, hws.symm, hownerServer.trans hserver.symm⟩
  · obtain ⟨owner, howner, hdomain⟩ := hshared.owner hshared' hmixed.domain
    have htarget := (backendKeyBinding_eq_ok.mp howner.bound).1
    obtain ⟨_, -, -, -, -, hsame⟩ := backendKeyTarget_eq_ok.mp htarget
    refine backendKeyTarget_congr ?_ (howner.useHttps.trans huse.symm) (howner.port.trans hport.symm)
      (hsame.symm.trans (hownerVerify.trans hverify.symm)) htarget
    unfold hostOf
    rw [hdomain, hauthority, howner.authority]
  · rw [hserver, hws, hownerWs]
    exact hpolicy
  · obtain ⟨-, -, hfallback, -⟩ := backendKeyBinding_eq_ok.mp hfirst
    obtain ⟨found, hfound, htext⟩ := fallbackTarget_eq_ok.mp hfallback
    refine fallbackTarget_eq_ok.mpr ⟨authority, hauthority, ?_⟩
    rw [htext, Except.ok.inj (hfound.symm.trans hshared.authority), huse, hport]
  · exact websocketTarget_mixed hlawful hmixed hshared hshared' hport hauthority hws

end Mixed

/-! ### A platform -/

def knownHosts : List String := ["192.168.100.100", "192.168.100.200"]

def tablePlatform : Platform where
  lower := id
  ipAddress text := if text ∈ knownHosts then some ⟨text, false⟩ else none
  urlsplit text := (knownHosts.find? fun host => text = targetText false host 8800).map fun host =>
    ⟨"http", host ++ ":8800", some host, none, none, "", "", "", some 8800⟩
  sha256 := id

theorem strip_targetText (useHttps : Bool) (host : String) (port : Nat) :
    strip (targetText useHttps host port) = targetText useHttps host port := by
  obtain ⟨init, d, hdigits⟩ : ∃ init d, (toString port).toList = init ++ [d] :=
    ⟨_, _, (List.dropLast_append_getLast (toString_ne_nil port)).symm⟩
  have hdigit : d.isDigit = true := toString_isDigit (by rw [hdigits]; exact List.mem_append_right _ List.mem_cons_self)
  have hspace : isSpace d = false := isSpace_of_hostChar (.inl (isAlnum_of_isDigit hdigit))
  have hlast : (targetText useHttps host port).toList
      = ((schemeOf useHttps).toList ++ "://".toList ++ host.toList ++ ":".toList ++ init) ++ [d] := by
    simp only [targetText, String.toList_append, hdigits, List.append_assoc]
  have hhead : ∃ rest, (targetText useHttps host port).toList = 'h' :: rest := by
    cases useHttps <;> exact ⟨_, by simp [targetText, schemeOf]; rfl⟩
  obtain ⟨rest, hhead⟩ := hhead
  exact strip_of_ends hhead (by decide) hlast hspace

theorem tablePlatform_urlsplit {useHttps : Bool} {host : String} {port : Nat} {parsed : SplitUrl}
    (h : tablePlatform.urlsplit (strip (targetText useHttps host port)) = some parsed) :
    useHttps = false ∧ port = 8800 ∧ parsed.scheme = "http" ∧ parsed.hostname = some host ∧ parsed.port = some 8800 := by
  rw [strip_targetText] at h
  obtain ⟨found, hfound, rfl⟩ := Option.map_eq_some_iff.mp h
  have hmatches := List.find?_some hfound
  obtain ⟨huse, hhost, hport⟩ := targetText_inj (of_decide_eq_true hmatches)
  exact ⟨huse, hport, rfl, by rw [hhost], rfl⟩

theorem tablePlatform_ipAddress {s : String} {address : IpAddress} (h : tablePlatform.ipAddress s = some address) :
    s ∈ knownHosts ∧ address = ⟨s, false⟩ := by
  simpa [tablePlatform, eq_comm] using h

theorem tablePlatform_lawful : tablePlatform.Lawful where
  lower_lower _ := rfl
  lower_scheme _ := rfl
  mem_lower _ _ _ hmem := hmem
  ipAddress_lower _ _ := rfl
  ipAddress_empty := by decide
  ipAddress_ne_empty s address h := by
    obtain ⟨hmem, rfl⟩ := tablePlatform_ipAddress h
    have hnames : ∀ host ∈ knownHosts, host ≠ "" := by decide
    exact hnames s hmem
  ipAddress_nulFree s address h hs := by
    obtain ⟨-, rfl⟩ := tablePlatform_ipAddress h
    exact hs
  urlsplit_target useHttps host port parsed h _ := by
    obtain ⟨rfl, rfl, hscheme, -, hport⟩ := tablePlatform_urlsplit h
    exact ⟨hscheme, hport⟩
  urlsplit_hostname useHttps domain port parsed _ _ h := (tablePlatform_urlsplit h).2.2.2.1
  urlsplit_nulFree s parsed h _ := by
    obtain ⟨host, hhost, rfl⟩ := Option.map_eq_some_iff.mp h
    have hnames : ∀ host ∈ knownHosts, Char.ofNat 0 ∉ host.toList := by decide
    exact hnames host (List.mem_of_find?_eq_some hhost)

theorem tablePlatform_sha256_injective : Function.Injective tablePlatform.sha256 := Function.injective_id

end Proxbox.BackendKey
