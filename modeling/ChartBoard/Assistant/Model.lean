import ChartBoard.Fault
import ChartBoard.Datum.Basic
import ChartBoard.Settings
import ChartBoard.Text.Case
import ChartBoard.Text.Search

/-!
# Language models

Text in, text out, by one of several providers.

* `echo` is the provider for tests and for work without a network.
* `complete` asks the provider that is chosen; the packages of the vendors may not be there.
-/

namespace ChartBoard.Assistant

/-- A vendor of language models. -/
inductive Vendor where
  | openai
  | anthropic
deriving DecidableEq, Repr

/-- Who answers prompts. -/
inductive Provider where
  | mock
  | vendor (v : Vendor)
deriving DecidableEq, Repr

/-- The word for a vendor. -/
def Vendor.name : Vendor → String
  | openai => "openai"
  | anthropic => "anthropic"

/-- The provider that a word names. -/
def Provider.ofName? (s : String) : Option Provider :=
  if s == "mock" then some mock
  else ([.openai, .anthropic].find? fun v => Vendor.name v == s).map vendor

/-! ## Without a vendor -/

/-- The name of the first table that a prompt shows. -/
def shownTable? : List Char → Option (List Char)
  | [] => none
  | c :: rest =>
    match Text.startsWith? "Table \x22".toList (c :: rest) with
    | some name =>
      match name.takeWhile (· != '\x22'), name.dropWhile (· != '\x22') with
      | n :: ns, _ :: _ => some (n :: ns)
      | _, _ => shownTable? rest
    | none => shownTable? rest

/-- The statement that counts the rows of the first table that a prompt shows. -/
def countStatement (system : String) : String :=
  match shownTable? system.toList with
  | some table => "SELECT COUNT(*) AS row_count FROM \x22" ++ String.ofList table ++ "\x22"
  | none => "SELECT 1 AS value"

/-- A character with round brackets in the place of square ones, which would be taken for tags. -/
def rounded (c : Char) : Char := if c = '[' then '(' else if c = ']' then ')' else c

/-- The answer without a vendor: the start of the prompt and a statement that can be run. -/
def echo (prompt system : String) : String :=
  "[MOCK] " ++ String.ofList ((prompt.toList.take 200).map rounded) ++ "\n[SQL]"
    ++ countStatement system ++ "[/SQL]"

/-! ## Vendors -/

/-- A request to a vendor. -/
structure VendorRequest where
  vendor : Vendor
  key : String
  prompt : String
  system : String
deriving DecidableEq, Repr

/-- The longest answer to ask for. -/
def maxTokens : Int := 4096

/-- A message of a conversation. -/
def message (role content : String) : Datum :=
  .object [("role", .text role), ("content", .text content)]

/-- What a request says. -/
def VendorRequest.body (q : VendorRequest) : Datum :=
  match q.vendor with
  | .openai => .object [("model", .text "gpt-4o-mini"),
      ("messages", .list [message "system" q.system, message "user" q.prompt]),
      ("temperature", .float 0.3), ("max_tokens", .int maxTokens)]
  | .anthropic => .object [("model", .text "claude-3-haiku-20240307"),
      ("max_tokens", .int maxTokens), ("system", .text q.system),
      ("messages", .list [message "user" q.prompt])]

/-- The key for a vendor, empty when none is set. -/
def Vendor.key (settings : Settings) : Vendor → String
  | openai => settings.openaiKey
  | anthropic => settings.anthropicKey

/-- The package of a vendor, which answers a request, perhaps with nothing. -/
abbrev Package := VendorRequest → Option String

/-- What the model is told when nothing else is. -/
def defaultSystem : String :=
  "You are a data assistant for an analytics dashboard backed by DuckDB."

/-- An answer and the request to a vendor behind it, if there was one. -/
structure Completion where
  text : String
  request : Option VendorRequest

/-- The answer of a vendor, which needs a key and a package. -/
def ofVendor (settings : Settings) (package : Option Package) (v : Vendor)
    (prompt system : String) : Except Fault Completion :=
  if (v.key settings).isEmpty then .error (.outage (.noKey v.name))
  else match package with
    | none => .error (.outage (.noPackage v.name))
    | some answer =>
      let request : VendorRequest := ⟨v, v.key settings, prompt, system⟩
      .ok ⟨(answer request).getD "", some request⟩

/-- The answer of a provider to a prompt: of the given one, else of the one in the settings. -/
def complete (settings : Settings) (package : Option Package) (provider : Option String)
    (system : Option String) (prompt : String) : Except Fault Completion :=
  let name := provider.getD (Text.lower settings.provider)
  let told := match system with
    | some s => if s.isEmpty then defaultSystem else s
    | none => defaultSystem
  match Provider.ofName? name with
  | none => .error (.unknownProvider name)
  | some .mock => .ok ⟨echo prompt told, none⟩
  | some (.vendor v) => ofVendor settings package v prompt told

end ChartBoard.Assistant
