import SecondFactor.Fault
import SecondFactor.Settings
import SecondFactor.Text

/-!
# Clients of the server

A client knows the server's address, the service account and how it waits between background
polls. It is made from a configuration, which the settings give.
-/
namespace SecondFactor

/-- The service account, in whose name tokens are listed and challenges triggered. -/
structure Account where
  name : Option String
  password : Option String
  realm : Option String
deriving DecidableEq, Repr

structure ClientConfig where
  serverUrl : String
  verifySsl : Bool
  /-- The seconds between background polls; none means one second. -/
  pollingIntervals : List Int
  realm : Option String
  account : Account
  userAgent : String
  timeout : Number
  /-- Whether diagnostics are logged. -/
  logging : Bool
  /-- Whether the client made its own connection and closes it. -/
  ownsSession : Bool
deriving DecidableEq, Repr

namespace ClientConfig

def defaultUserAgent : String := "privacyIDEA-mfabridge"

/-- The configuration for a server's address, all else at its default. -/
def ofUrl (serverUrl : String) : ClientConfig :=
  { serverUrl
    verifySsl := true
    pollingIntervals := []
    realm := none
    account := ⟨none, none, none⟩
    userAgent := defaultUserAgent
    timeout := .float Settings.defaultTimeout
    logging := false
    ownsSession := true }

/-- The configuration that the settings give, if they name a server. An empty password is none. -/
def ofSettings (s : Settings) : Except Fault ClientConfig :=
  if s.serverUrl.isEmpty then .error .noServerUrl
  else .ok
    { serverUrl := s.serverUrl
      verifySsl := s.verifySsl
      pollingIntervals := s.schedule.toList
      realm := s.realm
      account := ⟨s.serviceAccountName, Text.given? s.serviceAccountPassword,
        s.serviceAccountRealm⟩
      userAgent := defaultUserAgent
      timeout := .float s.timeout
      logging := s.doLog
      ownsSession := true }

end ClientConfig

structure Client where
  /-- The address of the server, without slashes at its end. -/
  serverUrl : String
  verifySsl : Bool
  schedule : Schedule
  realm : Option String
  account : Account
  userAgent : String
  timeout : Number
  logging : Bool
  ownsSession : Bool
deriving DecidableEq, Repr

namespace Client

/-- The address without the slashes at its end. -/
def baseUrl (url : String) : String :=
  String.ofList (Text.dropRightWhile (· == '/') url.toList)

/-- A client for a configuration that names a server. -/
def ofConfig (config : ClientConfig) : Except Fault Client :=
  if config.serverUrl.isEmpty then .error .emptyServerUrl
  else .ok
    { serverUrl := baseUrl config.serverUrl
      verifySsl := config.verifySsl
      schedule := (Schedule.ofList? config.pollingIntervals).getD ⟨1, []⟩
      realm := config.realm
      account := config.account
      userAgent := config.userAgent
      timeout := config.timeout
      logging := config.logging
      ownsSession := config.ownsSession }

/-- The client that the settings describe. -/
def ofSettings (s : Settings) : Except Fault Client := do
  ofConfig (← ClientConfig.ofSettings s)

/-- A client is made of settings that name a server. -/
theorem ofSettings_eq (s : Settings) :
    ofSettings s = if s.serverUrl.isEmpty then .error .noServerUrl
      else .ok
        { serverUrl := baseUrl s.serverUrl
          verifySsl := s.verifySsl
          schedule := s.schedule
          realm := s.realm
          account := ⟨s.serviceAccountName, Text.given? s.serviceAccountPassword,
            s.serviceAccountRealm⟩
          userAgent := ClientConfig.defaultUserAgent
          timeout := .float s.timeout
          logging := s.doLog
          ownsSession := true } := by
  unfold ofSettings ClientConfig.ofSettings
  cases hempty : s.serverUrl.isEmpty with
  | true => rfl
  | false =>
    simp only [bind, Except.bind, ofConfig, hempty, Bool.false_eq_true, if_false]
    rfl

/-- The waiting time at an index of the schedule; a negative index counts from the end. -/
def intervalAt (c : Client) (index : Int) : Except Fault Int :=
  match c.schedule.fromEnd? index with
  | some i => .ok i
  | none => .error .outsideSchedule

/-- The fields that go with every request. -/
def sessionHeaders (c : Client) : List (String × String) := [("User-Agent", c.userAgent)]

/-- The name and the password of a service account that has both. -/
def credentials? (c : Client) : Option (String × String) := do
  let name ← Text.given? c.account.name
  let password ← Text.given? c.account.password
  return (name, password)

/-- Fields of a request about a user, with the user's realm if there is one. -/
def withRealm (c : Client) (fields : List (String × String)) : List (String × String) :=
  match Text.given? c.realm with
  | none => fields
  | some realm => fields ++ [("realm", realm)]

end Client

end SecondFactor
