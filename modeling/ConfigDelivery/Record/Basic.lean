import ConfigDelivery.Json.Value
/-!
# Records

What the service stores and what its clients send. Rules and parameter types
keep their written form; they are judged when a request meets them, so that a
bad record fails the request and not the look-up.
-/

namespace ConfigDelivery

/-- What a client says of the device it runs on. -/
structure RequestMeta where
  version : Int64 := 0
  platform : String := ""
  deviceId : String := ""
  deriving DecidableEq, Repr

/-- The code versions that are out for one configuration. -/
structure Config where
  configId : String
  releasedCode : String
  testCode : String := ""
  grayReleaseCode : String := ""
  percentage : UInt32 := 0
  status : String
  secret : String := ""
  deriving DecidableEq, Repr

/-- The one status under which a configuration is served. -/
def Config.activeStatus : String := "valid"

/-- A configuration is served. -/
def Config.isActive (config : Config) : Bool :=
  config.status = Config.activeStatus

/-- One comparison of a request field with a threshold, as written. -/
structure Rule where
  field : String
  compare : String
  value : String
  deriving DecidableEq, Repr

/-- Alternatives of comparison lists for one platform: some list must hold as a whole. -/
structure PlatformRule where
  platform : String
  rules : List (List Rule) := []
  deriving DecidableEq, Repr

/-- A parameter that a code version declares; the type is as written. -/
structure ParamSpec where
  name : String
  type : String
  deriving DecidableEq, Repr

/-- A code version with its error tracking. -/
structure Code where
  codeId : String
  lang : String
  rules : List PlatformRule := []
  params : List ParamSpec := []
  content : String
  isBroken : Bool := false
  errorCount : UInt32 := 0
  deriving DecidableEq, Repr

/-- A stored unit test of a code version: the texts of its input and its expected output. -/
structure TestCase where
  testId : String
  input : String
  output : String
  codeId : String
  deriving DecidableEq, Repr

/-- A failure that a client reports against a code version; time in seconds. -/
structure ErrorReport where
  time : Int64 := 0
  message : String := ""
  deriving DecidableEq, Repr

/-- A client's request for the result of a configuration. -/
structure ConfigRequest where
  requestMeta : RequestMeta := {}
  cached : Bool := false
  params : Json.Members := []

/-- A request to run a piece of code that is not stored. -/
structure PlaygroundRequest where
  code : String
  params : Json.Members := []

/-- The result of a configuration, and the code version that gave it. -/
structure ConfigResponse where
  result : String
  codeId : String
  deriving DecidableEq, Repr

/-- The verdict on a unit test; duration in microseconds. -/
structure TestReport where
  duration : Nat
  succeed : Bool
  message : String
  deriving DecidableEq, Repr

/-- The error tracking of a code version after a report. -/
structure ReportOutcome where
  codeId : String
  errorCount : UInt32
  isBroken : Bool
  deriving DecidableEq, Repr

end ConfigDelivery
