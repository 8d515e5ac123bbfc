import ConfigDelivery.Delivery.Components
import ConfigDelivery.Engine.Installed
import ConfigDelivery.Http.Address
import ConfigDelivery.Http.Server
import ConfigDelivery.Service.CommandLine
import ConfigDelivery.Service.Settings
import ConfigDelivery.Store.Location
import ConfigDelivery.Store.Relational
/-!
# The daemon

What the service does between its start and its first connection: it loads its
settings, opens its records, starts its engines and reads the address that it is
to listen on. The first of these that fails is what it complains of.
-/

namespace ConfigDelivery.Service

open ConfigDelivery.Cache (ClockedCache)
open ConfigDelivery.Delivery (Components World)
open ConfigDelivery.Engine (Engines installed)
open ConfigDelivery.Http (SocketAddress)
open ConfigDelivery.Script (Language)
open ConfigDelivery.Store (Tables)

namespace Settings

/-- What the engines are told. -/
def engines (settings : Settings) : Engine.Settings where
  poolSize := settings.poolSize
  timeout := settings.timeout
  cacheTimeToLive := settings.cacheTimeToLive
  cacheMaxEntries := settings.cacheMaxEntries

/-- What the delivery is told. -/
def delivery (settings : Settings) : Delivery.Settings where
  recordTimeToLive := settings.recordTimeToLive
  breakThreshold := settings.breakThreshold
  testSecret := settings.testSecret

/-- What the server is told. -/
def http (settings : Settings) : Http.Settings where
  allowOrigins := settings.allowOrigins
  maxConnections := settings.maxConnections

end Settings

/-- What the daemon is told. -/
structure DaemonArguments where
  config : Option String
  addr : Option String

namespace DaemonArguments

/-- The options of the daemon. -/
def rules : List OptionRule :=
  [⟨"config", some fun value => !value.isEmpty⟩, ⟨"addr", some fun _ => true⟩]

/-- Read the arguments of the daemon. -/
def read (arguments : List String) : Except Stop DaemonArguments := do
  let given ← readArguments rules none [] arguments
  return ⟨given.find? "config", given.find? "addr"⟩

/-- The help on the daemon. -/
def help : String :=
  purpose ++ "\n\nUsage: configd [OPTIONS]\n\nOptions:\n"
    ++ "      --config <CONFIG>  Path to a JSON or TOML service config file "
    ++ "[env: CONFIGD_CONFIG=]\n"
    ++ "      --addr <ADDR>      Listen address, overriding the config file\n"
    ++ "  -h, --help             Print help\n"
    ++ "  -V, --version          Print version\n"

end DaemonArguments

/-- What the daemon finds around it: its environment, the content of files, and the directories
that are there. -/
structure Surroundings where
  environment : Environment
  contentOf : String → FileContent
  directories : List String

/-- A daemon that is ready to listen. -/
structure Daemon where
  settings : Settings
  address : SocketAddress
  components : Components Tables ClockedCache (Engines installed)
  world : World Tables ClockedCache (Engines installed)

namespace Daemon

/-- The settings of a daemon with its arguments. -/
def loadSettings (surroundings : Surroundings) (arguments : DaemonArguments) :
    Except String Settings := do
  let file := arguments.config.map fun path => (path, surroundings.contentOf path)
  let settings ← Service.loadSettings file surroundings.environment
  return { settings with apiAddr := arguments.addr.getD settings.apiAddr }

/-- Start a daemon whose calendar clock is given. -/
def start (surroundings : Surroundings) (wallClock : Instant → Except Failure Nat)
    (arguments : DaemonArguments) : Except String Daemon := do
  let settings ← loadSettings surroundings arguments
  if (Store.checkOpen surroundings.directories settings.dbPath).toOption.isNone then
    throw ("opening record store " ++ settings.dbPath)
  match Engines.new installed settings.engines 0 with
  | .error failure => throw failure.plain
  | .ok engines =>
    let address ← SocketAddress.read settings.apiAddr
    let components : Components Tables ClockedCache (Engines installed) :=
      { store := Tables.ops
        records := some ClockedCache.ops
        engines := Engines.ops
        wallClock
        settings := settings.delivery }
    return {
      settings, address, components
      world := { stored := .empty, kept := {}, engines, now := 0 } }

/-- What is logged of the workers of a language. -/
def poolReady (settings : Settings) (language : Language) : String :=
  language.name ++ " pool ready: " ++ Text.integerText settings.poolSize ++ " slots, timeout "
    ++ Text.integerText settings.timeout.toMillis ++ "ms"

/-- What a daemon logs until it waits for connections on an address. -/
def startLog (daemon : Daemon) (address : String) : List String :=
  let settings := daemon.settings
  [poolReady settings .javascript, poolReady settings .starlark]
    ++ (if settings.testSecret.isNone then
        ["no test secret configured; unit-test runs will be refused"] else [])
    ++ ["config api listening on " ++ address,
      "configd running. serving " ++ settings.dbPath ++ " on " ++ address,
      "configd waiting for shutdown signal (Ctrl-C)..."]

/-- What a daemon logs when it is told to stop. -/
def stopLog : List String := ["shutdown signal received, stopping API server..."]

/-- A daemon after it has answered what was read from a connection, and its response. -/
def respond (daemon : Daemon) (request : Except Http.Malformed Http.Request) :
    Http.Response × Daemon :=
  let (response, world) :=
    (Http.respond daemon.settings.http daemon.components request).run daemon.world
  (response, { daemon with world })

/-- A daemon at a later time. -/
def later (daemon : Daemon) (now : Instant) : Daemon :=
  { daemon with world := { daemon.world with now := max daemon.world.now now } }

end Daemon

end ConfigDelivery.Service
