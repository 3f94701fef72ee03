import Mathlib.Algebra.Order.Ring.Unbundled.Rat
import Proxbox.Library.Calendar
import Proxbox.Library.Json
import Proxbox.Library.Regex
/-!
# Times of metrics

The times a query names and those the sources report, read with the functions of `datetime` and `decimal`. A
time may be refused with the error of the module, or make one of these functions raise an exception of its own.
-/

namespace Proxbox

open Python Calendar Regex

/-- `Decimal(text) * 1_000_000_000`: refused or out of range, or its value, with the integer that it is, if any. -/
inductive DecimalProduct
  | invalidOperation
  | overflow
  | nan
  | infinite
  | finite (nanoseconds : Option Int)

/-- A `datetime`: microseconds from the first day of the calendar, and the offset from UTC if it has one. -/
structure DateTime where
  microseconds : Int
  offset : Option Int

inductive Escape
  | unhashable
  | overflowError
  | valueError
  | decimalOverflow
  | recursionError
  deriving DecidableEq

/-- The library that the queries call. -/
structure MetricsLibrary where
  decimal : String → DecimalProduct
  fromisoformat : String → Option DateTime
  /-- `repr(float(Decimal(nanoseconds) / 1_000_000_000))`. -/
  secondsText : Int → String
  /-- `timedelta(seconds=sum(count * seconds))` in microseconds; the counts are integers, the seconds floats. -/
  timedelta : List (Nat × Rat) → Except Escape Int
  /-- `int(time.timestamp())`. -/
  epoch : DateTime → Except Escape Int
  /-- `datetime.now(UTC)`. -/
  now : Int
  /-- `json.loads` of the text of this value exceeds the recursion limit. -/
  tooDeep : Json → Bool

structure ProxyError where
  message : String
  statusCode : Nat
  deriving DecidableEq

inductive MetricsFailure
  | proxy (error : ProxyError)
  | escape (exception : Escape)
  deriving DecidableEq

def raiseProxy {α : Type} (message : String) (statusCode : Nat) : Except MetricsFailure α :=
  .error (.proxy ⟨message, statusCode⟩)

def invalidResponse : MetricsFailure := .proxy ⟨"The proxbox-api metrics backend returned an invalid payload.", 502⟩

def epochStart : Int := 719162 * 86400

def inCalendar (microseconds : Int) : Prop := 0 ≤ microseconds ∧ microseconds < calendarDays * 86400 * 1000000

instance (microseconds : Int) : Decidable (inCalendar microseconds) := inferInstanceAs (Decidable (_ ∧ _))

/-- `text.replace("Z", "+00:00")`. -/
def zuluOffset (text : String) : String :=
  String.ofList (text.toList.flatMap fun c => if c = 'Z' then "+00:00".toList else [c])

/-! ### Times of a query -/

def durationSeconds : List (String × Rat) :=
  [("ns", 1 / 1000000000), ("us", 1 / 1000000), ("µs", 1 / 1000000), ("ms", 1 / 1000), ("s", 1), ("m", 60),
   ("h", 3600), ("d", 86400), ("w", 604800), ("mo", 2592000), ("y", 31536000)]

def durationPattern : Pattern :=
  .cat [.optional (.one (· == '-')), .times (.seq (.plus isDecimal)
    (.any (["ns", "us", "µs", "ms", "s", "m", "h", "d", "w", "mo", "y"].map .literal))) 1 none]

def durationPart : Pattern :=
  .seq (.capture "count" (.plus isDecimal))
    (.capture "unit" (.any (["ns", "us", "µs", "ms", "mo", "s", "m", "h", "d", "w", "y"].map .literal)))

def durationTerm (part : Found) : Nat × Rat :=
  (natOfDigits (((part.group "count").getD []).map asciiDigit),
    (durationSeconds.lookup (String.ofList ((part.group "unit").getD []))).getD 0)

/-- The terms of a duration, if it has some and nothing else. -/
def durationTerms (text : List Char) : Option (List (Nat × Rat)) :=
  let parts := durationPart.findAll text
  if parts = [] ∨ parts.flatMap (·.text) ≠ text then none else some (parts.map durationTerm)

section Times

variable (library : MetricsLibrary)

/-- `validate_metrics_time(value, allow_now=True)` accepts the text. -/
def validMetricsTime (value : String) : Bool :=
  let value := strip value
  value == "now()" || durationPattern.fullMatch value.toList ||
    (library.fromisoformat (zuluOffset value)).any (·.offset.isSome)

def beforeNow (terms : List (Nat × Rat)) : Except Escape DateTime := do
  let microseconds ← library.timedelta terms
  if inCalendar (library.now - microseconds) then return ⟨library.now - microseconds, some 0⟩
  else throw .overflowError

def timeToEpoch (value : String) : Except MetricsFailure Int :=
  match value.toList with
  | '-' :: duration =>
    match durationTerms duration with
    | none => raiseProxy "The pull metrics start time is invalid." 400
    | some terms => ((beforeNow library terms >>= library.epoch).map (max 0)).mapError .escape
  | _ =>
    match library.fromisoformat (zuluOffset value) with
    | none => raiseProxy "The pull metrics start time is invalid." 400
    | some time => (library.epoch time).mapError .escape

/-! ### Times of a row -/

/-- A text of a shape in which `0` stands for a digit. -/
def hasShape (shape text : List Char) : Bool :=
  shape.length == text.length && (shape.zip text).all fun (mark, c) => if mark = '0' then isDecimal c else c == mark

def rfcMatch (text : List Char) : Option (List Char × List Char × List Char) :=
  let base := text.take 19
  let rest := text.drop 19
  let (fraction, zone) := match rest with
    | '.' :: more => (more.takeWhile isDecimal, more.dropWhile isDecimal)
    | _ => ([], rest)
  if hasShape "0000-00-00T00:00:00".toList base &&
      (rest.head? != some '.' || (1 ≤ fraction.length && fraction.length ≤ 9)) &&
      (zone == ['Z'] || hasShape "+00:00".toList zone || hasShape "-00:00".toList zone)
  then some (base, fraction, zone) else none

/-- The text that `datetime.fromisoformat` reads. -/
def isoText (base zone : List Char) : String :=
  String.ofList (base ++ if zone = ['Z'] then "+00:00".toList else zone)

/-- `parsed.astimezone(UTC)` in seconds from 1970, if the calendar has it. -/
def utcSeconds (time : DateTime) : Except MetricsFailure Int :=
  match time.offset with
  | none => .error invalidResponse
  | some offset =>
    if inCalendar (time.microseconds - offset) then .ok ((time.microseconds - offset) / 1000000 - epochStart)
    else .error (.escape .overflowError)

def timestampText (numeric : String) : Except MetricsFailure Int :=
  match library.decimal numeric with
  | .overflow => .error (.escape .decimalOverflow)
  | .infinite => .error (.escape .overflowError)
  | .nan => .error invalidResponse
  | .finite none => .error invalidResponse
  | .finite (some nanoseconds) => .ok nanoseconds
  | .invalidOperation =>
    match rfcMatch numeric.toList with
    | none => .error invalidResponse
    | some (base, fraction, zone) =>
      match library.fromisoformat (isoText base zone) with
      | none => .error invalidResponse
      | some time => do
        let seconds ← utcSeconds time
        let digits := (fraction ++ List.replicate (9 - fraction.length) '0').map asciiDigit
        return seconds * 1000000000 + natOfDigits digits

def timestampNanoseconds : Json → Except MetricsFailure Int
  | .int n => .ok (n * 1000000000)
  | .float text => match floatLiteral text with
    | some (.finite _ _) => timestampText library (strip text)
    | _ => .error invalidResponse
  | .str text => timestampText library (strip text)
  | _ => .error invalidResponse

def canonicalTimestamp (value : Json) : Except MetricsFailure (Json × Int) := do
  let nanoseconds ← timestampNanoseconds library value
  if nanoseconds % 1000000000 = 0 then return (.int (nanoseconds / 1000000000), nanoseconds)
  return (.float (library.secondsText nanoseconds), nanoseconds)

end Times

/-! ### Times that escape -/

def Escapes {α : Type} (computation : Except MetricsFailure α) : Prop :=
  ∃ exception, computation = .error (.escape exception)

/-- A duration that leads out of the calendar or that no `timedelta` holds, or a time without a zone that the
clock of the platform does not have. -/
def WildTime (library : MetricsLibrary) (value : String) : Prop :=
  match value.toList with
  | '-' :: duration => ∃ terms, durationTerms duration = some terms ∧
      ((∃ e, library.timedelta terms = .error e) ∨
        ∃ microseconds, library.timedelta terms = .ok microseconds ∧ (¬inCalendar (library.now - microseconds) ∨
          ∃ e, library.epoch ⟨library.now - microseconds, some 0⟩ = .error e))
  | _ => ∃ time e, library.fromisoformat (zuluOffset value) = some time ∧ library.epoch time = .error e

/-- The text is a number that is infinite or too large, or a time with an offset that leads out of the calendar. -/
def WildText (library : MetricsLibrary) (numeric : String) : Prop :=
  match library.decimal numeric with
  | .overflow | .infinite => True
  | .invalidOperation => ∃ base fraction zone time offset, rfcMatch numeric.toList = some (base, fraction, zone) ∧
      library.fromisoformat (isoText base zone) = some time ∧ time.offset = some offset ∧
      ¬inCalendar (time.microseconds - offset)
  | _ => False

def WildTimestamp (library : MetricsLibrary) : Json → Prop
  | .str text => WildText library (strip text)
  | .float text => (∃ numerator denominator, floatLiteral text = some (.finite numerator denominator)) ∧
      WildText library (strip text)
  | _ => False

section Escapes

variable {α β : Type} {library : MetricsLibrary}

variable {x : Except MetricsFailure α} {f : α → Except MetricsFailure β}

theorem escapes_bind : Escapes (x >>= f) ↔ Escapes x ∨ ∃ a, x = .ok a ∧ Escapes (f a) := by
  cases x <;> simp [Escapes, bind, Except.bind]

theorem not_escapes_ok (a : α) : ¬ Escapes (.ok a) := fun ⟨_, h⟩ => by cases h

theorem not_escapes_pure (a : α) : ¬ Escapes (pure a) := not_escapes_ok a

theorem not_escapes_proxy (error : ProxyError) : ¬ Escapes (.error (.proxy error) : Except MetricsFailure α) :=
  fun ⟨_, h⟩ => by cases h

theorem not_escapes_invalid : ¬ Escapes (.error invalidResponse : Except MetricsFailure α) := not_escapes_proxy _

theorem escapes_mapError {result : Except Escape α} :
    Escapes (result.mapError .escape) ↔ ∃ e, result = .error e := by
  cases result <;> simp [Escapes, Except.mapError]

theorem escapes_timeToEpoch {value : String} : Escapes (timeToEpoch library value) ↔ WildTime library value := by
  unfold timeToEpoch WildTime
  split
  · rename_i duration _
    cases durationTerms duration with
    | none => exact iff_of_false (not_escapes_proxy _) (by simp)
    | some terms =>
      simp only [escapes_mapError, beforeNow, Option.some.injEq, exists_eq_left']
      cases library.timedelta terms with
      | error e => simp [bind, Except.bind, Except.map]
      | ok microseconds =>
        by_cases hin : inCalendar (library.now - microseconds)
        · cases hepoch : library.epoch ⟨library.now - microseconds, some 0⟩ <;>
            simp [hin, hepoch, bind, Except.bind, pure, Except.pure, Except.map]
        · simp [hin, bind, Except.bind, throw, throwThe, MonadExceptOf.throw, Except.map]
  · cases library.fromisoformat (zuluOffset value) with
    | none => exact iff_of_false (not_escapes_proxy _) (by simp)
    | some time => simp [escapes_mapError]

theorem escapes_timestampText {numeric : String} :
    Escapes (timestampText library numeric) ↔ WildText library numeric := by
  unfold timestampText WildText
  cases library.decimal numeric with
  | overflow => simp [Escapes]
  | infinite => simp [Escapes]
  | nan => simp [not_escapes_invalid]
  | finite nanoseconds => cases nanoseconds <;> simp [not_escapes_invalid, not_escapes_ok]
  | invalidOperation =>
    dsimp only
    cases rfcMatch numeric.toList with
    | none => simp [not_escapes_invalid]
    | some parts =>
      obtain ⟨base, fraction, zone⟩ := parts
      dsimp only
      cases htime : library.fromisoformat (isoText base zone) with
      | none => simp [not_escapes_invalid, htime]
      | some time =>
        have hutc : Escapes (utcSeconds time) ↔
            ∃ offset, time.offset = some offset ∧ ¬inCalendar (time.microseconds - offset) := by
          unfold utcSeconds
          cases time.offset with
          | none => simp [not_escapes_invalid]
          | some offset => by_cases hin : inCalendar (time.microseconds - offset) <;> simp [hin, Escapes]
        rw [escapes_bind, hutc]
        constructor
        · rintro (⟨offset, hoffset, hout⟩ | ⟨_, -, h⟩)
          · exact ⟨base, fraction, zone, time, offset, rfl, htime, hoffset, hout⟩
          · exact absurd h (not_escapes_pure _)
        · rintro ⟨_, _, _, time', offset, hparts, htime', hoffset, hout⟩
          cases hparts
          rw [htime] at htime'
          cases htime'
          exact .inl ⟨offset, hoffset, hout⟩

theorem escapes_canonicalTimestamp {value : Json} :
    Escapes (canonicalTimestamp library value) ↔ WildTimestamp library value := by
  have hrest : Escapes (canonicalTimestamp library value) ↔ Escapes (timestampNanoseconds library value) := by
    unfold canonicalTimestamp
    rw [escapes_bind, or_iff_left]
    rintro ⟨nanoseconds, -, h⟩
    split_ifs at h <;> exact not_escapes_pure _ h
  rw [hrest]
  unfold timestampNanoseconds WildTimestamp
  cases value with
  | str text => exact escapes_timestampText
  | float text =>
    dsimp only
    rcases floatLiteral text with _ | (_ | _ | _) <;> simp [not_escapes_invalid, escapes_timestampText]
  | int n => exact iff_of_false (not_escapes_ok _) id
  | _ => exact iff_of_false not_escapes_invalid id

end Escapes

end Proxbox
