import ChartBoard.Form.Problem
import ChartBoard.Number.Arithmetic

/-!
# Faults

Everything that can end an operation without a result, by cause.

* `Misuse` holds the ways a widget or a request can be incomplete or unsupported.
* `Fault.message` is the wording of every fault.
-/

namespace ChartBoard

/-- What is wrong with the configuration of a widget or the options of a request. -/
inductive Misuse where
  | noTable
  | unsupportedChart (name : String)
  | unsupportedAggregation (name : String)
  | noKpiField
  | noXAxis
  | noYAxis
  | severalMeasuresBySeries
  | severalMeasuresInPivot
  | unsupportedWindowUnit (name : String)
  | noData
  | unsupportedMode (name : String)
  | yearsReversed (first last : String)
deriving DecidableEq, Repr

/-- The wording of a misuse. -/
def Misuse.message : Misuse → String
  | noTable => "Select a table for the widget"
  | unsupportedChart name => s!"Unsupported chart type '{name}'"
  | unsupportedAggregation name => s!"Unsupported aggregation '{name}'"
  | noKpiField => "Select a value field for the KPI"
  | noXAxis => "Select an X axis field"
  | noYAxis => "Select at least one Y axis field"
  | severalMeasuresBySeries =>
    "Series breakdown supports a single Y field; remove extra Y fields"
  | severalMeasuresInPivot => "Series breakdown supports a single Y field"
  | unsupportedWindowUnit name => s!"Unsupported KPI window unit '{name}'"
  | noData => "No data"
  | unsupportedMode name => s!"Unsupported assistant mode '{name}'"
  | yearsReversed first last => s!"start_year {first} is after end_year {last}"

/-- Why a service outside the program cannot answer. -/
inductive Outage where
  | noKey (provider : String)
  | noPackage (provider : String)
  | failed (message : String)
deriving DecidableEq, Repr

/-- The wording of an outage. -/
def Outage.message : Outage → String
  | noKey provider =>
    let key := String.ofList (provider.toList.map Char.toUpper)
    s!"{provider}_api_key is not set.  Set {key}_API_KEY in your .env file or environment."
  | noPackage provider =>
    s!"The '{provider}' package is not installed.  Run: pip install {provider}"
  | failed message => message

/-- The cause that ends an operation. -/
inductive Fault where
  /-- A configuration that cannot be used; found before any statement is sent. -/
  | misuse (cause : Misuse)
  /-- A table that no confirmed edge joins to the base table. -/
  | missingRelationship (base table : String)
  /-- A statement that the engine rejected, with the engine's own words. -/
  | query (sql message : String)
  /-- The engine's own words where no statement of ours is to blame. -/
  | engine (message : String)
  /-- Input of the wrong form. -/
  | form (problems : List Form.Problem)
  /-- A service that cannot answer. -/
  | outage (cause : Outage)
  /-- A language model provider that is not known. -/
  | unknownProvider (name : String)
  /-- An integer beyond the range of doubles where a double is needed. -/
  | numberTooLarge
  /-- A required member that is absent. -/
  | noMember (name : String)
  /-- A value that lacks the operation asked of it. -/
  | noOperation
  /-- A position outside a list. -/
  | noItem
  /-- A text that spells no value of the required kind. -/
  | unreadable
  /-- An integer with too many digits to be read, of which the number is known, or to be written. -/
  | tooManyDigits (count : Option Nat)
  /-- A text in which lists or objects nest too deep. -/
  | tooDeep (object : Bool)
  /-- A value in which lists or objects nest too deep to be copied. -/
  | tooDeepToCopy
  /-- A signalling not-a-number where a double is needed. -/
  | signallingNumber
  /-- An operation on decimals that has no result. -/
  | undefinedResult (cause : Number.Undefined)
  /-- A value of a kind that cannot be used here. -/
  | wrongKind
  | divisionByZero
  /-- A setting that cannot be read. -/
  | unreadableSetting
deriving DecidableEq, Repr

/-- The wording of a fault. -/
def Fault.message : Fault → String
  | misuse cause => cause.message
  | missingRelationship base table => s!"Missing relationship between '{base}' and '{table}'"
  | query _ message => message
  | engine message => message
  | form _ => "invalid form"
  | outage cause => cause.message
  | unknownProvider name =>
    s!"LLM provider '{name}' is not supported.  Choose from: mock, openai, anthropic"
  | numberTooLarge => "int too large to convert to float"
  | noMember name => s!"'{name}'"
  | noOperation => "unsupported operation"
  | noItem => "list index out of range"
  | unreadable => "unreadable value"
  | tooManyDigits count =>
    "Exceeds the limit (4300 digits) for integer string conversion"
      ++ (count.map fun n => s!": value has {n} digits").getD ""
      ++ "; use sys.set_int_max_str_digits() to increase the limit"
  | tooDeep object =>
    "maximum recursion depth exceeded while decoding a JSON "
      ++ (if object then "object" else "array") ++ " from a unicode string"
  | tooDeepToCopy => "maximum recursion depth exceeded while calling a Python object"
  | signallingNumber => "cannot convert signaling NaN to float"
  | undefinedResult _ => "undefined result"
  | wrongKind => "unsupported kind of value"
  | divisionByZero => "integer modulo by zero"
  | unreadableSetting => "unreadable setting"

/-- True of the faults that a widget shows to its user: its own misuse, a missing join and a
rejected statement. -/
def Fault.isShown : Fault → Bool
  | misuse _ | missingRelationship _ _ | query _ _ => true
  | _ => false

end ChartBoard
