import Proxbox.Library.Json
/-!
# Credential fingerprints

A push records a keyed hash of the credentials it sent, so that a later run can tell whether they were replaced.
The hash is taken of one text, in which each credential stands behind its length: the digits end at the first
colon, and the length says where the credential ends.
-/

namespace Proxbox

open Python

def fingerprintMaterial (values : List String) : String :=
  String.join (values.map fun value => toString value.length ++ ":" ++ value)

def credentialTexts (keys : List String) (payload : Fields) : List String :=
  keys.map fun key => ((Fields.get payload key).or (.str "")).text

def credentialFingerprint (saltedHmac : String → String → String) (salt : String) (keys : List String) (payload : Fields) :
    String :=
  saltedHmac salt (fingerprintMaterial (credentialTexts keys payload))

def proxmoxFingerprintSalt : String := "netbox_proxbox.proxmox_endpoint.pushed_credential"

def netboxFingerprintSalt : String := "netbox_proxbox.netbox_endpoint.pushed_credential"

def proxmoxCredentialKeys : List String := ["password", "token_name", "token_value"]

def netboxCredentialKeys : List String := ["token_version", "token_key", "token"]

variable (saltedHmac : String → String → String)

def proxmoxCredentialFingerprint (payload : Fields) : String :=
  credentialFingerprint saltedHmac proxmoxFingerprintSalt proxmoxCredentialKeys payload

def netboxCredentialFingerprint (payload : Fields) : String :=
  credentialFingerprint saltedHmac netboxFingerprintSalt netboxCredentialKeys payload

theorem toList_fingerprintMaterial_cons (value : String) (values : List String) :
    (fingerprintMaterial (value :: values)).toList =
      (toString value.length).toList ++ ':' :: (value.toList ++ (fingerprintMaterial values).toList) := by
  simp [fingerprintMaterial, String.toList_join]

theorem toString_injective {m n : Nat} (h : toString m = toString n) : m = n := by
  have hdigits := congrArg (fun text : String => Nat.ofDigitChars 10 text.toList 0) h
  simpa only [ofDigitChars_toString] using hdigits

theorem eq_of_append_colon {front front' back back' : List Char} (hfront : ':' ∉ front) (hfront' : ':' ∉ front')
    (h : front ++ ':' :: back = front' ++ ':' :: back') : front = front' ∧ back = back' := by
  induction front generalizing front' with
  | nil =>
    cases front' with
    | nil => exact ⟨rfl, (List.cons.inj h).2⟩
    | cons c rest => exact absurd (List.cons.inj h).1 fun hc => hfront' (hc ▸ List.mem_cons_self)
  | cons c rest ih =>
    cases front' with
    | nil => exact absurd (List.cons.inj h).1 fun hc => hfront (hc ▸ List.mem_cons_self)
    | cons c' rest' =>
      obtain ⟨rfl, htail⟩ := List.cons.inj h
      obtain ⟨rfl, hback⟩ := ih (fun hc => hfront (List.mem_cons_of_mem _ hc)) (fun hc =>
        hfront' (List.mem_cons_of_mem _ hc)) htail
      exact ⟨rfl, hback⟩

theorem colon_not_mem_toString (n : Nat) : ':' ∉ (toString n).toList := by
  intro h
  have hdigit : ':'.isDigit = true := toString_isDigit h
  exact absurd hdigit (by decide)

theorem fingerprintMaterial_injective {values others : List String}
    (h : fingerprintMaterial values = fingerprintMaterial others) :
    values = others := by
  induction values generalizing others with
  | nil =>
    cases others with
    | nil => rfl
    | cons other rest =>
      have htext := congrArg String.toList h
      rw [toList_fingerprintMaterial_cons] at htext
      simp [fingerprintMaterial] at htext
  | cons value values ih =>
    have htext := congrArg String.toList h
    rw [toList_fingerprintMaterial_cons] at htext
    cases others with
    | nil => simp [fingerprintMaterial] at htext
    | cons other others =>
      rw [toList_fingerprintMaterial_cons] at htext
      obtain ⟨hlength, hrest⟩ := eq_of_append_colon (colon_not_mem_toString _) (colon_not_mem_toString _) htext
      have hlength : value.length = other.length := toString_injective (String.toList_inj.1 hlength)
      rw [← String.length_toList, ← String.length_toList] at hlength
      obtain ⟨hvalue, hvalues⟩ := List.append_inj hrest hlength
      rw [String.toList_inj.1 hvalue, ih (String.toList_inj.1 hvalues)]

/-- The material determines the tuple. So, where the keyed hash separates the materials, a fingerprint
determines the credentials. -/
theorem fingerprint_material_eq_iff (values others : List String) (payload replaced : Fields) :
    (fingerprintMaterial values = fingerprintMaterial others ↔ values = others) ∧
      (Function.Injective (saltedHmac proxmoxFingerprintSalt) →
        (proxmoxCredentialFingerprint saltedHmac payload = proxmoxCredentialFingerprint saltedHmac replaced ↔
          credentialTexts proxmoxCredentialKeys payload = credentialTexts proxmoxCredentialKeys replaced)) ∧
      (Function.Injective (saltedHmac netboxFingerprintSalt) →
        (netboxCredentialFingerprint saltedHmac payload = netboxCredentialFingerprint saltedHmac replaced ↔
          credentialTexts netboxCredentialKeys payload = credentialTexts netboxCredentialKeys replaced)) := by
  have hmaterial (values others : List String) : fingerprintMaterial values = fingerprintMaterial others ↔ values = others :=
    ⟨fingerprintMaterial_injective, congrArg fingerprintMaterial⟩
  refine ⟨hmaterial values others, ?_, ?_⟩
  · intro hhmac
    exact hhmac.eq_iff.trans (hmaterial _ _)
  · intro hhmac
    exact hhmac.eq_iff.trans (hmaterial _ _)

end Proxbox
