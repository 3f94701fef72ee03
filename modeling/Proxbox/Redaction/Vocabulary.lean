import Proxbox.Library.JsonTree
import Proxbox.Library.Regex
/-!
# What counts as a credential

`redaction.py`: which names of fields carry a credential, and the one pass over a text that replaces the values
assigned to such names. The pass looks for a name with its separator, asks about the whole name, and only then
reads a value.
-/

namespace Proxbox

open Python Regex

/-! ### Names -/

def markerWords : List (List String) :=
  [["authorization"], ["credential"], ["passphrase"], ["password"], ["passwd"], ["session"], ["sshkeys"], ["secret"],
    ["cookie"], ["ticket"], ["token"], ["auth"], ["pwd"], ["api", "key"], ["private", "key"], ["public", "key"],
    ["encryption", "key"], ["secret", "key"], ["signing", "key"], ["host", "key"], ["ssh", "key"]]

def sensitiveKeyMarkers : List String := markerWords.map String.join

def authSchemes : List String := ["bearer", "basic", "token", "digest", "negotiate", "apikey"]

def schemePattern : Pattern := .any (authSchemes.map .anyCase)

variable (c : Char)

/-- `str.lower` of a character, as far as the result is ASCII. -/
def lowerChar : List Char :=
  if c.toNat = 0x212a then ['k'] else if c.toNat = 0x130 then ['i', Char.ofNat 0x307] else [c.toLower]

def isSeparator : Bool := c == '-' || c == '_' || isSpace c

variable (key : String)

def normalizeKey : String :=
  String.ofList ((key.toList.flatMap lowerChar).filter fun c => !isSeparator c)

def isSensitiveKey : Bool := sensitiveKeyMarkers.any fun marker => contains marker (normalizeKey key)

def valueEchoKeys : List String := ["input", "inputvalue"]

def isSensitiveOrEchoKey : Bool := isSensitiveKey key || valueEchoKeys.contains (normalizeKey key)

/-! ### Assignments in a text -/

def keyChar : Bool := Pattern.anyLetter c || c.isDigit || c == '_' || c == '-'

/-- `_COMPOUND_HEADS`: the first words of the markers of two words, the longest first. -/
def compoundHeads : List String := ["encryption", "private", "signing", "public", "secret", "host", "api", "ssh"]

def singleQuote : Char := Char.ofNat 39

def isQuote : Bool := c == singleQuote || c == quoteMark

def keyPattern : Pattern :=
  .any [.cat [.any (compoundHeads.map .anyCase), .atomic (.plus (Pattern.oneOf " _-")), .anyCase "key",
      .atomic (.star keyChar)],
    .cat [.notBehind keyChar, .atomic (.plus keyChar)]]

def quoteEnd : Pattern := .cat [.optional (.one (· == backslash)), .optional (.one isQuote)]

def separator : Pattern := .cat [.star isSpace, .one (Pattern.oneOf ":="), .star isSpace]

def assignmentKey : Pattern :=
  .cat [.capture "key" keyPattern, .capture "quote_end" quoteEnd, .capture "sep" separator]

def assignedKey (found : Found) : String := String.ofList ((found.group "key").getD [])

/-- The value that the pass replaces after a name, by the position behind it. -/
def replacedValue (value : Pattern) (predicate : String → Bool) (found : Found) : Option Cursor :=
  if !predicate (assignedKey found) then none
  else match value.matchAt found.stop.before found.stop.after with
    | none => none
    | some stop =>
      -- An echo of a structure is entered: the assignments inside it carry names of their own.
      if !isSensitiveKey (assignedKey found) && (found.stop.upTo stop).head?.all fun c => c == openBrace || c == '[' then none
      else some stop

def redactFrom (value : Pattern) (render : List Char → List Char) (predicate : String → Bool) :
    Nat → List Char → List Char → List Char
  | 0, _, after => after
  | fuel + 1, before, after => match assignmentKey.search before after with
      | none => after
      | some found => found.skipped ++ found.text ++ match replacedValue value predicate found with
          | none => redactFrom value render predicate fuel found.stop.before found.stop.after
          | some stop => render (found.stop.upTo stop) ++ redactFrom value render predicate fuel stop.before stop.after

def redactAssignments (text : List Char) (value : Pattern) (render : List Char → List Char)
    (predicate : String → Bool) : List Char := redactFrom value render predicate text.length [] text

theorem replacedValue_eq_some {value : Pattern} {predicate : String → Bool} {found : Found} {stop : Cursor}
    (h : replacedValue value predicate found = some stop) : value.matchAt found.stop.before found.stop.after = some stop := by
  unfold replacedValue at h
  split_ifs at h
  · cases hvalue : value.matchAt found.stop.before found.stop.after with
    | none =>
      rw [hvalue] at h
      cases h
    | some reached =>
      rw [hvalue] at h
      dsimp only at h
      split_ifs at h
      · exact h

/-! ### What a name with its separator reads -/

def IsAssignment : Prop := c = ':' ∨ c = '='

instance : DecidablePred IsAssignment := fun c => inferInstanceAs (Decidable (c = ':' ∨ c = '='))

theorem assignmentKey_shows : assignmentKey.Shows IsAssignment := by
  refine .seq_right _ (.seq_right _ (.capture _ (.seq_right _ (.seq_left (Pattern.shows_one fun c hc => ?_) _))))
  simpa [Pattern.oneOf, IsAssignment] using hc

theorem bracket_not_mem {before after : List Char} {found : Found} (h : Located assignmentKey before after found) {c : Char}
    (hc : c = '[' ∨ c = ']') : c ∉ found.text := by
  intro hmem
  have hread := h.mayRead c hmem
  rcases hc with rfl | rfl
  · exact absurd hread (by decide +kernel)
  · exact absurd hread (by decide +kernel)

end Proxbox
