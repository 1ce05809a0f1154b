import SqlBridge.Settings.Dotenv
import SqlBridge.Text.Lower
import SqlBridge.Validation

/-!
Settings and their sources. Arguments take precedence over the environment, the environment over a
settings file, and the file over defaults. Every setting has a public and a plain name; outside
arguments, names are matched without regard to case.
-/

namespace SqlBridge

open Validation

structure Settings where
  accountId : String
  databaseId : String
  apiToken : String
  apiBaseUrl : String
  timeoutSeconds : Decimal.Double
  autocreateTables : Bool
  debug : Bool
  raw : Bool
  environment : String
  logLevel : String
  logJson : Bool

namespace Settings

structure Sources where
  arguments : Fields Value
  environment : List (String × String)
  file : List (String × String)

/-- The last value of a name, matched without regard to case. -/
def named? (name : String) (entries : List (String × String)) : Option String :=
  (entries.reverse.find? fun (other, _) => Text.lower other = Text.lower name).map (·.2)

/-- The value of a setting in a source of texts, under its public or its plain name. -/
def textOf? (shown plain : String) (entries : List (String × String)) : Option String :=
  (named? shown entries).or (named? plain entries)

/-- The value of a setting, with the name under which a source has it. -/
def Sources.find? (s : Sources) (shown plain : String) : Option (String × Value) :=
  match s.arguments.get? shown with
  | some v => some (shown, v)
  | none =>
    match s.arguments.get? plain with
    | some v => some (plain, v)
    | none =>
      ((textOf? shown plain s.environment).or (textOf? shown plain s.file)).map fun t =>
        (shown, .text t)

/-- One setting, or its default. -/
def setting {α : Type} (s : Sources) (shown plain : String) (default : α)
    (read : Value → Checked α) : Checked α :=
  match s.find? shown plain with
  | some (name, v) => within (.name name) (read v)
  | none => .ok default

def defaultBaseUrl : String := "https://api.cloudflare.com/client/v4"

def read (s : Sources) : Checked Settings := do
  let (accountId, databaseId, apiToken, apiBaseUrl, timeoutSeconds, autocreateTables, debug, raw,
      environment, logLevel, logJson) ←
    both (setting s "D1_ACCOUNT_ID" "account_id" "" text)
      (both (setting s "D1_DATABASE_ID" "database_id" "" text)
      (both (setting s "D1_API_TOKEN" "api_token" "" text)
      (both (setting s "D1_API_BASE_URL" "api_base_url" defaultBaseUrl text)
      (both (setting s "D1_HTTP_TIMEOUT_SECONDS" "http_timeout_seconds" (Decimal.Double.ofInt 30)
        real)
      (both (setting s "D1_AUTOCREATE_TABLES" "autocreate_tables" true truth)
      (both (setting s "D1_DEBUG" "debug" false truth)
      (both (setting s "D1_RAW" "raw" false truth)
      (both (setting s "APP_ENV" "app_env" "development" text)
      (both (setting s "LOG_LEVEL" "log_level" "INFO" text)
        (setting s "LOG_JSON" "log_json" false truth))))))))))
  return { accountId, databaseId, apiToken, apiBaseUrl, timeoutSeconds, autocreateTables, debug,
           raw, environment, logLevel, logJson }

def isSlash (c : Char) : Bool := c = '/'

def dropLastSlashes (s : String) : String :=
  String.ofList (s.toList.reverse.dropWhile isSlash).reverse

/-- The address of the database, to which statements are posted. -/
def databaseUrl (s : Settings) : String :=
  dropLastSlashes s.apiBaseUrl ++ "/accounts/" ++ s.accountId ++ "/d1/database/" ++ s.databaseId

/-- The text that is shown in place of the token. -/
def maskedToken (s : Settings) : String := if s.apiToken.isEmpty then "" else "**********"

end Settings

end SqlBridge
