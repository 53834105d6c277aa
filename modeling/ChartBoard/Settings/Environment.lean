import ChartBoard.Datum.Items
import ChartBoard.Datum.Reading
import ChartBoard.Form.Reading
import ChartBoard.Json.Reading
import ChartBoard.Settings

/-!
# Settings from the environment

Every setting can be given by an environment variable of its name, in any case.

* `Settings.ofEnvironment` reads the settings, with defaults for those not given.
* `Settings.withValue` changes one of them.
* `Settings.toRecord` describes them.
-/

namespace ChartBoard

open Form (Checked Reader Lookup withDefault)

namespace Settings

/-- The variables by their names in small letters; of names that differ by case the last counts. -/
def byLowerName (environment : List (String × String)) : List (String × String) :=
  Keyed.ofPairs (environment.map fun (name, value) => (Text.lower name, value))

/-- The settings that are lists. -/
def listNames : List String := ["identifier_suffixes", "identifier_infixes"]

/-- The value that a variable gives to a setting.  Lists are written in the interchange format; they
are read before there are settings, so within the usual limits. -/
def valueOf (name value : String) : Except Fault Datum :=
  if name ∈ listNames then
    (Json.read Limits.usual.reading value).mapError fun
      | .tooDeep object => .tooDeep object
      | _ => .unreadableSetting
  else .ok (.text value)

/-- The values that variables give.  A list that is null is not given. -/
def valuesOf (environment : List (String × String)) : Except Fault Record := do
  let values ← (byLowerName environment).mapM fun (name, value) =>
    return (name, ← valueOf name value)
  return values.filter fun (_, v) => !v.isNull

/-- The settings that values spell. -/
def ofRecord (r : Record) : Checked Settings :=
  let part {α : Type} (name : String) (default : α) (read : Reader α) : Checked α :=
    withDefault r (.ofName name) default read
  let word (name default : String) : Checked String := part name default Form.text
  let number (name : String) (default : Int) : Checked Int := part name default Form.integer
  let base : Settings := {}
  Checked.apply (Checked.apply (Checked.apply (Checked.apply (Checked.apply (Checked.apply
  (Checked.apply (Checked.apply (Checked.apply (Checked.apply (Checked.apply (Checked.apply
  (Checked.apply (Checked.apply (Checked.apply (.ok (Settings.mk base.limits))
    (word "duckdb_path" base.databasePath))
    (word "working_schema" base.workingSchema))
    (word "llm_provider" base.provider))
    (word "openai_api_key" base.openaiKey))
    (word "anthropic_api_key" base.anthropicKey))
    (number "assistant_max_retries" base.assistantRetries))
    (number "kpi_default_window_value" base.kpiWindowLength))
    (word "kpi_default_window_unit" base.kpiWindowUnit))
    (number "filter_option_limit" base.optionLimit))
    (number "fallback_top_n" base.fallbackTop))
    (part "identifier_suffixes" base.identifierSuffixes (Form.listOf Form.text)))
    (part "identifier_infixes" base.identifierInfixes (Form.listOf Form.text)))
    (part "relationships_path" none fun v => (Form.text v).map some))
    (number "api_port" base.apiPort))
    (word "log_level" base.logLevel)

/-- The settings under an environment. -/
def ofEnvironment (environment : List (String × String)) : Except Fault Settings := do
  (ofRecord (← valuesOf environment)).mapError .form

/-- The settings with one of them changed.  A value that does not suit leaves the setting as it
is. -/
def withValue (s : Settings) (name : String) (v : Datum) : Settings :=
  let number (old : Int) : Int := v.integer.toOption.getD old
  let words (old : List String) : List String :=
    (v.items.toOption.map fun items => items.map Datum.display).getD old
  match name with
  | "duckdb_path" => { s with databasePath := v.display }
  | "working_schema" => { s with workingSchema := v.display }
  | "llm_provider" => { s with provider := v.display }
  | "openai_api_key" => { s with openaiKey := v.label }
  | "anthropic_api_key" => { s with anthropicKey := v.label }
  | "assistant_max_retries" => { s with assistantRetries := number s.assistantRetries }
  | "kpi_default_window_value" => { s with kpiWindowLength := number s.kpiWindowLength }
  | "kpi_default_window_unit" => { s with kpiWindowUnit := v.display }
  | "filter_option_limit" => { s with optionLimit := number s.optionLimit }
  | "fallback_top_n" => { s with fallbackTop := number s.fallbackTop }
  | "identifier_suffixes" => { s with identifierSuffixes := words s.identifierSuffixes }
  | "identifier_infixes" => { s with identifierInfixes := words s.identifierInfixes }
  | _ => s

/-- The description of the settings. -/
def toRecord (s : Settings) : Record :=
  [("duckdb_path", .text s.databasePath), ("working_schema", .text s.workingSchema),
   ("llm_provider", .text s.provider), ("openai_api_key", .text s.openaiKey),
   ("anthropic_api_key", .text s.anthropicKey),
   ("assistant_max_retries", .int s.assistantRetries),
   ("kpi_default_window_value", .int s.kpiWindowLength),
   ("kpi_default_window_unit", .text s.kpiWindowUnit),
   ("filter_option_limit", .int s.optionLimit), ("fallback_top_n", .int s.fallbackTop),
   ("identifier_suffixes", .texts s.identifierSuffixes),
   ("identifier_infixes", .texts s.identifierInfixes), ("api_port", .int s.apiPort),
   ("log_level", .text s.logLevel)]
    ++ (s.relationshipsPath.map fun path => ("relationships_path", Datum.text path)).toList

end Settings

end ChartBoard
