import LinkShortener.Settings.Environment
import LinkShortener.Settings.Masking
import LinkShortener.Event
import LinkShortener.Text.Blank

/-!
# Settings

Everything that an operator sets through environment variables: where the database and the cache
are, how the service is published, and its limits.
-/

namespace LinkShortener

structure Settings where
  databaseUrl : String
  redisUrl : Option String
  listenAddress : String
  /-- The address that short URLs begin with. -/
  baseUrl : String
  logLevel : String
  logFormat : String
  /-- Whether a proxy names the clients. -/
  behindProxy : Bool
  cacheTtlSeconds : Nat
  allowRegistration : Bool
  requestTimeoutSeconds : Nat
  maxConnections : Nat
  connectTimeout : Nat
  idleTimeout : Nat
  maxLifetime : Nat

/-- Why settings cannot be used. -/
inductive SettingsError where
  | missing (name : String) (absence : Environment.Absence)
  | logFormat (value : String)
  | listenAddress (value : String)
  | databaseScheme (url : String)
  | redisScheme (url : String)
  | baseUrl (value : String)
  | cacheTtl
  | requestTimeout (seconds : Nat)
  | maxConnections
  | connectTimeout

namespace SettingsError

/-- The message for the operator. Passwords in URLs are masked. -/
def message : SettingsError → String
  | .missing _ _ => "Failed to load database configuration"
  | .logFormat value => "LOG_FORMAT must be 'text' or 'json', got '" ++ value ++ "'"
  | .listenAddress value => "LISTEN must be in format 'host:port', got '" ++ value ++ "'"
  | .databaseScheme url =>
    "DATABASE_URL must start with 'postgres://' or 'postgresql://', got '" ++
      Settings.masked url ++ "'"
  | .redisScheme url =>
    "REDIS_URL must start with 'redis://' or 'rediss://', got '" ++ Settings.masked url ++ "'"
  | .baseUrl value => "BASE_URL must start with 'http://' or 'https://', got '" ++ value ++ "'"
  | .cacheTtl => "CACHE_TTL_SECONDS must be greater than 0"
  | .requestTimeout seconds =>
    "REQUEST_TIMEOUT_SECONDS must be between 1 and 300, got " ++ toString seconds
  | .maxConnections => "DB_MAX_CONNECTIONS must be at least 1"
  | .connectTimeout => "DB_CONNECT_TIMEOUT must be greater than 0"

/-- The causes behind the message, outermost first. -/
def causes : SettingsError → List String
  | .missing name absence =>
    [name ++ " must be set when DATABASE_URL is not provided",
      match absence with
      | .notSet => "environment variable not found"
      | .notText value =>
        "environment variable was not valid unicode: " ++ Text.Quoted.ofBytes value]
  | _ => []

end SettingsError

namespace Settings

/-- A variable that must be set. -/
def required (environment : Environment) (name : String) : Except SettingsError String :=
  match environment.read name with
  | .ok text => .ok text
  | .error absence => .error (.missing name absence)

/-- The database URL: given whole, or put together from its parts. -/
def databaseUrlFrom (environment : Environment) : Except SettingsError String :=
  match environment.text? "DATABASE_URL" with
  | some url => .ok url
  | none => do
    let host := environment.text "DB_HOST" "localhost"
    let port := environment.text "DB_PORT" "5432"
    let user ← required environment "DB_USER"
    let password ← required environment "DB_PASSWORD"
    let name ← required environment "DB_NAME"
    return "postgres://" ++ user ++ ":" ++ password ++ "@" ++ host ++ ":" ++ port ++ "/" ++ name

/-- The cache URL: given whole, put together from its parts, or none. An empty password is none. -/
def redisUrlFrom (environment : Environment) : Option String :=
  match environment.text? "REDIS_URL" with
  | some url => some url
  | none => do
    let host ← environment.text? "REDIS_HOST"
    let port := environment.text "REDIS_PORT" "6379"
    let database := environment.text "REDIS_DB" "0"
    let password := environment.text "REDIS_PASSWORD" ""
    let credentials := if password.isEmpty then "" else ":" ++ password ++ "@"
    return "redis://" ++ credentials ++ host ++ ":" ++ port ++ "/" ++ database

/-- Scheme, domain and port; the usual port of the scheme is left out. -/
def joinBaseUrl (secure : Bool) (domain port : String) : String :=
  let (scheme, usualPort) := if secure then ("https", "443") else ("http", "80")
  if port.isEmpty || port == usualPort then scheme ++ "://" ++ domain
  else scheme ++ "://" ++ domain ++ ":" ++ port

/-- The public address: given whole, without slashes at its end, or put together from its parts. -/
def baseUrlFrom (environment : Environment) : String :=
  match environment.text? "BASE_URL" with
  | some url => String.ofList (Text.dropTrailing (· == '/') url.toList)
  | none =>
    joinBaseUrl (environment.switch "HTTPS_ENABLED" false)
      (environment.text "SERVER_DOMAIN" "localhost") (environment.text "SERVER_PORT" "3000")

def ofEnvironment (environment : Environment) : Except SettingsError Settings := do
  let databaseUrl ← databaseUrlFrom environment
  return {
    databaseUrl
    redisUrl := redisUrlFrom environment
    listenAddress := environment.text "LISTEN" "0.0.0.0:3000"
    baseUrl := baseUrlFrom environment
    logLevel := environment.text "RUST_LOG" "info"
    logFormat := environment.text "LOG_FORMAT" "text"
    behindProxy := environment.switch "BEHIND_PROXY" false
    cacheTtlSeconds := environment.number "CACHE_TTL_SECONDS" Text.largestLong 3600
    allowRegistration := environment.switch "ALLOW_REGISTRATION" true
    requestTimeoutSeconds := environment.number "REQUEST_TIMEOUT_SECONDS" Text.largestLong 10
    maxConnections := environment.number "DB_MAX_CONNECTIONS" Text.largestShort 10
    connectTimeout := environment.number "DB_CONNECT_TIMEOUT" Text.largestLong 30
    idleTimeout := environment.number "DB_IDLE_TIMEOUT" Text.largestLong 600
    maxLifetime := environment.number "DB_MAX_LIFETIME" Text.largestLong 1800 }

def hasScheme (first second text : String) : Bool :=
  first.toList.isPrefixOf text.toList || second.toList.isPrefixOf text.toList

/-- Checks the settings; the first that cannot be used is reported. -/
def validate (settings : Settings) : Except SettingsError Unit := do
  if settings.logFormat ≠ "text" ∧ settings.logFormat ≠ "json" then
    throw (.logFormat settings.logFormat)
  if !settings.listenAddress.toList.contains ':' then
    throw (.listenAddress settings.listenAddress)
  if !hasScheme "postgres://" "postgresql://" settings.databaseUrl then
    throw (.databaseScheme settings.databaseUrl)
  match settings.redisUrl with
  | some url => if !hasScheme "redis://" "rediss://" url then throw (.redisScheme url)
  | none => pure ()
  if !hasScheme "http://" "https://" settings.baseUrl then
    throw (.baseUrl settings.baseUrl)
  if settings.cacheTtlSeconds = 0 then
    throw .cacheTtl
  if settings.requestTimeoutSeconds = 0 ∨ 300 < settings.requestTimeoutSeconds then
    throw (.requestTimeout settings.requestTimeoutSeconds)
  if settings.maxConnections = 0 then
    throw .maxConnections
  if settings.connectTimeout = 0 then
    throw .connectTimeout

/-- Reads and checks the settings. -/
def load (environment : Environment) : Except SettingsError Settings := do
  let settings ← ofEnvironment environment
  settings.validate
  return settings

def isCacheEnabled (settings : Settings) : Bool := settings.redisUrl.isSome

def requestTimeout (settings : Settings) : Duration := .ofSeconds settings.requestTimeoutSeconds

/-- The lines that show the settings when the service starts. Passwords in URLs are masked. -/
def summary (settings : Settings) : List Event :=
  [ .settingsLine "Configuration loaded:",
    .settingsLine ("  Listen address: " ++ settings.listenAddress),
    .settingsLine ("  Base URL: " ++ settings.baseUrl),
    .settingsLine ("  Database: " ++ masked settings.databaseUrl),
    .settingsLine (match settings.redisUrl with
      | some url => "  Redis: " ++ masked url ++ " (enabled)"
      | none => "  Redis: disabled"),
    .settingsLine ("  Log level: " ++ settings.logLevel),
    .settingsLine ("  Log format: " ++ settings.logFormat),
    .settingsLine ("  Registration: " ++ (if settings.allowRegistration then "true" else "false")),
    .settingsLine ("  Request timeout: " ++ toString settings.requestTimeoutSeconds ++ "s") ]

end Settings

/-- The settings that requests are answered with. -/
structure HttpSettings where
  baseUrl : String
  allowRegistration : Bool
  requestTimeout : Duration

/-- The part of the settings that requests are answered with. -/
def Settings.http (settings : Settings) : HttpSettings where
  baseUrl := settings.baseUrl
  allowRegistration := settings.allowRegistration
  requestTimeout := settings.requestTimeout

end LinkShortener
