import ConfigDelivery.Service.Daemon
import ConfigDelivery.Service.ScriptCommand
import Std.Async.Select
import Std.Async.Signal
import Std.Async.TCP
import Std.Async.Timer
/-!
# The program

The outermost layer: files, the environment, the clocks, the network and the
standard streams. `run_script` as the first argument runs one script; anything
else starts the daemon, which answers one connection after another until it is
interrupted. What is read and what is answered is decided elsewhere.
-/

namespace ConfigDelivery.Program

open ConfigDelivery.Engine (installed)
open ConfigDelivery.Http (SocketAddress)
open ConfigDelivery.Service
open Std.Async
open Std.Async.TCP.Socket (Client Server)

/-- The text of a file, if it can be read. -/
def fileText? (path : String) : IO (Option String) := do
  try return some (← IO.FS.readFile path) catch _ => return none

/-- What can be found at the path of a configuration file. -/
def fileContent (path : String) : IO FileContent := do
  try return .text (← IO.FS.readFile path) catch failure => return .unreadable (toString failure)

/-- A path is that of a directory. -/
def isDirectory (path : String) : IO Bool := do
  try (← IO.FS.realPath path).isDir catch _ => return false

/-- The variables of the environment that the service reads. -/
def environment : IO Environment := do
  return {
    dbPath := ← IO.getEnv "CONFIGD_DB_PATH"
    apiAddr := ← IO.getEnv "CONFIGD_API_ADDR"
    allowOrigins := ← IO.getEnv "CONFIGD_ALLOW_ORIGINS"
    timeoutMillis := ← IO.getEnv "CONFIGD_TIMEOUT_MS"
    poolSize := ← IO.getEnv "CONFIGD_POOL_SIZE"
    testSecret := ← IO.getEnv "CONFIGD_TEST_SECRET" }

/-- The time since the program's start. -/
def clock (startedAt : Nat) : IO Instant := do
  return (← IO.monoNanosNow) / 1000 - startedAt

/-- Write what a command ends with, and answer its exit code. -/
def finish (ending : Ending) : IO UInt32 := do
  IO.print ending.output
  match ending.complaint with
  | some complaint => IO.eprintln ("Error: " ++ complaint)
  | none => if ending.code = 2 then IO.eprintln "error: the arguments are not understood"
  return ending.code.toUInt32

/-- Run a script from a file. -/
def scriptMain (arguments : List String) : IO UInt32 := do
  match ScriptArguments.read arguments with
  | .error stop => finish (stop.ending ScriptArguments.help)
  | .ok arguments =>
    let text ← fileText? arguments.file
    finish (.of (runScript installed (fun _ => text) arguments))

/-- The address to listen on, as the network knows it. -/
def networkAddress (address : SocketAddress) : Std.Net.SocketAddress :=
  let port := address.port.toUInt16
  let octet (octets : List Nat) (index : Nat) : UInt8 := ((octets[index]?).getD 0).toUInt8
  let group (groups : List Nat) (index : Nat) : UInt16 := ((groups[index]?).getD 0).toUInt16
  match address.host with
  | .v4 octets =>
    .v4 ⟨.ofParts (octet octets 0) (octet octets 1) (octet octets 2) (octet octets 3), port⟩
  | .v6 groups =>
    .v6 ⟨.ofParts (group groups 0) (group groups 1) (group groups 2) (group groups 3)
      (group groups 4) (group groups 5) (group groups 6) (group groups 7), port⟩

/-- An address of the network, as the service knows it. -/
def serviceAddress : Std.Net.SocketAddress → SocketAddress
  | .v4 address => ⟨.v4 (address.addr.octets.toList.map UInt8.toNat), address.port.toNat⟩
  | .v6 address => ⟨.v6 (address.addr.segments.toList.map UInt16.toNat), address.port.toNat⟩

/-- How an address of the network is shown. -/
def addressText : Std.Net.SocketAddress → String
  | .v4 address => toString address.addr ++ ":" ++ toString address.port
  | .v6 address => "[" ++ toString address.addr ++ "]:" ++ toString address.port

/-- How long a connection may stay silent, in milliseconds. -/
def silence : Std.Time.Millisecond.Offset := 2000

/-- Read the next piece of a stream, or nothing at its end. -/
def nextPiece (client : Client) : Async (Option ByteArray) := do
  Selectable.one #[
    .case (client.recvSelector Http.pieceBytes.toUInt64) pure,
    .case (← Selector.sleep silence) fun _ => throw (.userError "the connection is silent")]

/-- Read a request from a connection. -/
partial def readRequest (client : Client) (bytes : List UInt8) :
    Async (Except Http.Malformed Http.Request) := do
  match Http.progress bytes with
  | .finished result => return result
  | .unfinished fault =>
    match ← nextPiece client with
    | none => return .error fault
    | some piece => readRequest client (bytes ++ piece.toList)

/-- Answer one connection. -/
def answer (daemon : Daemon) (startedAt : Nat) (client : Client) : Async Daemon := do
  let own := serviceAddress (← client.getSockName)
  let peer := serviceAddress (← client.getPeerName)
  let (response, daemon) ←
    if Http.isStrange own peer then pure (⟨.forbidden, none⟩, daemon)
    else do
      let request ←
        try readRequest client [] catch _ => pure (.error .headersCutShort)
      pure ((daemon.later (← clock startedAt)).respond request)
  try
    client.send response.text.toUTF8
    client.shutdown
  catch failure => IO.eprintln ("config api request rejected: " ++ toString failure)
  return daemon

/-- Answer connections until the program is interrupted. -/
partial def answerAll (daemon : Daemon) (startedAt : Nat) (server : Server)
    (interrupt : Signal.Waiter) : Async Unit := do
  let client? ← Selectable.one #[
    .case server.acceptSelector fun client => pure (some client),
    .case interrupt.selector fun _ => pure none]
  match client? with
  | none => return
  | some client => answerAll (← answer daemon startedAt client) startedAt server interrupt

/-- Start the daemon and run it until it is interrupted. -/
def daemonMain (arguments : List String) : IO UInt32 := do
  match DaemonArguments.read arguments with
  | .error stop => finish (stop.ending DaemonArguments.help)
  | .ok arguments =>
    let startedAt := (← IO.monoNanosNow) / 1000
    let startSecond := (← Std.Time.Timestamp.now).toSecondsSinceUnixEpoch.val.toNat
    let config := arguments.config.or (← IO.getEnv "CONFIGD_CONFIG")
    let content ← (config.map fileContent).getD (pure (.unreadable "no file is named"))
    let surroundings : Surroundings := ⟨← environment, fun _ => content, []⟩
    let arguments := { arguments with config }
    let directories ←
      match Daemon.loadSettings surroundings arguments with
      | .error _ => pure []
      | .ok settings =>
        let directory := (Store.directoryOf? settings.dbPath).getD "."
        [directory, settings.dbPath].filterM isDirectory
    let wallClock (now : Instant) : Except Failure Nat := .ok (startSecond + now / 1000000)
    match Daemon.start { surroundings with directories } wallClock arguments with
    | .error complaint => finish (.of (.error complaint))
    | .ok daemon =>
      let server ← Server.mk
      server.bind (networkAddress daemon.address)
      server.listen daemon.settings.maxConnections.toUInt32
      let interrupt ← Signal.Waiter.mk .sigint false
      (daemon.startLog (addressText (← server.getSockName))).forM IO.eprintln
      (answerAll daemon startedAt server interrupt).block
      Daemon.stopLog.forM IO.eprintln
      return 0

end ConfigDelivery.Program

open ConfigDelivery.Program in
/-- Run a script, or the daemon. -/
def main (arguments : List String) : IO UInt32 := do
  match arguments with
  | "run_script" :: rest => scriptMain rest
  | "configd" :: rest => daemonMain rest
  | rest => daemonMain rest
