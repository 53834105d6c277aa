/-!
# Settings

The settings of the application with their defaults.

* `Limits` says how deep values may nest, `Limits.usual` how deep they usually may.
* `Settings.databaseUrl` and `Settings.isInMemory` say where the data lives.
-/

namespace ChartBoard

/-- How deep lists and objects may nest in a text that is read and in a value that is copied.  Both
limits hang on the stack that is left to the caller.  A copy takes more of it for each level, but
what the application itself makes of rows is never too deep. -/
structure Limits where
  reading : Nat
  copying : Nat
  copying_lt_reading : copying < reading
  eight_le_copying : 8 ≤ copying
deriving DecidableEq, Repr

/-- The limits on a stack that is hardly used. -/
def Limits.usual : Limits := ⟨990, 495, by decide, by decide⟩

/-- The settings of the application. -/
structure Settings where
  limits : Limits := .usual
  databasePath : String := ":memory:"
  workingSchema : String := "main"
  provider : String := "mock"
  openaiKey : String := ""
  anthropicKey : String := ""
  assistantRetries : Int := 2
  kpiWindowLength : Int := 30
  kpiWindowUnit : String := "day"
  optionLimit : Int := 1200
  fallbackTop : Int := 24
  identifierSuffixes : List String := ["id"]
  identifierInfixes : List String := ["id_"]
  relationshipsPath : Option String := none
  apiPort : Int := 8000
  logLevel : String := "INFO"
deriving DecidableEq, Repr

instance : Inhabited Settings := ⟨{}⟩

/-- True when the data lives in memory only. -/
def Settings.isInMemory (s : Settings) : Bool :=
  s.databasePath == "" || s.databasePath == ":memory:"

/-- The address of the database. -/
def Settings.databaseUrl (s : Settings) : String := "duckdb:///" ++ s.databasePath

end ChartBoard
