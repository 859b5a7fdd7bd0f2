import BearerLogin.Network.Message
import BearerLogin.Network.Transcript
import BearerLogin.Startup
import Std.Http
import Std.Time

/-! The server: it takes its settings from the environment and answers requests over HTTP.  Requests
are answered one after the other.  Whenever an answer needs something of another host, that host is
asked over a plain connection, and the answer is worked out again with the reply; secure connections
are not made. -/

open BearerLogin

namespace Main

open Std.Async Std.Net

/-- The settings in the environment. -/
def readEnvironment : IO (List (String × String)) := do
  let values ← Server.environmentNames.mapM fun name => do
    return (← IO.getEnv name).map (name, ·)
  return values.filterMap id

/-- The present instant. -/
def readClock : IO Instant := do
  let nanos := (← Std.Time.Timestamp.now).toNanosecondsSinceUnixEpoch.val
  return ⟨nanos / 1000000000, (nanos % 1000000000).toNat⟩

/-- A new identifier for a failed login. -/
def drawId : IO ErrorId := do
  let bytes ← IO.getRandomBytes 4
  return ⟨bytes.toList.foldl (fun id b => id * 256 + b.toUInt32) 0⟩

/-- Writes a line of the log. -/
def say (line : String) : IO Unit := do
  let output ← IO.getStdout
  output.putStrLn line
  output.flush

/-- The addresses of the host of a URL. -/
def addressesOf (url : Url) : Async (List SocketAddress) := do
  let some authority := url.authority | return []
  let port := UInt16.ofNat (authority.port.getD 80)
  let addresses ← DNS.getAddrInfo authority.host.render (toString port) (some .ipv4)
  return addresses.toList.filterMap fun
    | .v4 address => some (.v4 ⟨address, port⟩)
    | .v6 _ => none

/-- Everything that comes over a connection until its end. -/
partial def receive (client : TCP.Socket.Client) (taken : ByteArray) : Async ByteArray := do
  match ← client.recv? 65536 with
  | some bytes => receive client (taken ++ bytes)
  | none => return taken

/-- Sends a request to its host. -/
def fetch (request : Request) : Async Reply := do
  if request.url.scheme ≠ "http" then return .lost
  try
    let address :: _ ← addressesOf request.url | return .lost
    let client ← TCP.Socket.Client.mk
    client.connect address
    client.send (ByteArray.mk request.toMessage.toArray)
    return .ofMessage (← receive client .empty).toList
  catch _ => return .lost

/-- The state of the server between two requests. -/
abbrev State := World (Backend Transcript)

/-- Answers a request, as soon as the replies of other hosts that this takes are known. -/
partial def settle (app : Http.App (Backend Transcript)) (now : Instant) (id : ErrorId)
    (incoming : Http.Incoming) (state : State) (replies : List Reply) :
    Async (Http.Outgoing × State) := do
  let start := { state with peers := { state.peers with network := { replies }, now }, log := [] }
  let (outgoing, after) := (app.serve now id incoming).run start
  match after.peers.network.open? with
  | some request => settle app now id incoming state (replies ++ [← fetch request])
  | none => return (outgoing, after)

/-- A server that serves. -/
structure Running where
  server : Server Transcript
  state : IO.Ref State
  /-- Taken while a request is answered. -/
  turn : Std.Semaphore

/-- The request that a connection hands over. -/
def incomingOf (request : Std.Http.Request Std.Http.Body.Stream) :
    Std.Async.ContextAsync Http.Incoming := do
  let body : ByteArray ← request.body.readAll
  return {
    method := toString request.line.method
    target := toString request.line.uri
    headers := request.line.headers.toList.map fun (key, value) =>
      (key.value, Text.utf8 value.value)
    body := body.toList }

/-- The response that a connection takes over. -/
def responseOf (outgoing : Http.Outgoing) :
    Async (Std.Http.Response Std.Http.Body.Any) := do
  let status := (Std.Http.Status.ofCode none (UInt16.ofNat outgoing.status)).getD .ok
  let headers := (outgoing.body.contentType.toList.map (("content-type", ·))) ++
    (outgoing.allow.toList.map (("allow", ·)))
  let builder := headers.foldl
    (fun builder (key, value) => (builder.header? key value).getD builder)
    (Std.Http.Response.withStatus status)
  let response ← builder.fromBytes outgoing.body.render.toUTF8
  return { line := response.line, body := .ofBody response.body }

/-- Logs what happened. -/
def Running.log (running : Running) (events : List Event) : IO Unit :=
  events.forM fun event => do
    if running.server.verbosity.admits event.level then say (Notice.reported event).render

/-- Answers a request when it is its turn. -/
def Running.respond (running : Running) (request : Std.Http.Request Std.Http.Body.Stream) :
    Std.Async.ContextAsync (Std.Http.Response Std.Http.Body.Any) := do
  let incoming ← incomingOf request
  await (← running.turn.acquire)
  try
    let now ← readClock
    let id ← drawId
    let (outgoing, state) ← settle running.server.app now id incoming (← running.state.get) []
    running.state.set state
    running.log state.log
    responseOf outgoing
  finally running.turn.release

instance : Std.Http.Server.Handler Running where
  onRequest running request := running.respond request

/-- Listens and serves. -/
def serve (server : Server Transcript) : IO UInt32 := do
  let now ← readClock
  let state ← IO.mkRef { peers := { network := {}, now } }
  let running : Running := { server, state, turn := ← Std.Semaphore.new 1 }
  let address := SocketAddress.v4 ⟨.ofParts 0 0 0 0, UInt16.ofNat server.port⟩
  match ← (Std.Http.Server.serve address running).block.toBaseIO with
  | .error _ =>
    IO.eprintln StartFault.addressInUse.message
    return 1
  | .ok listening =>
    let notice := Notice.listening s!"0.0.0.0:{server.port}"
    if server.verbosity.admits notice.level then say notice.render
    listening.waitShutdown.block
    return 0

end Main

def main : IO UInt32 := do
  match Server.prepare Transcript.network (← Main.readEnvironment) with
  | .error fault =>
    IO.eprintln fault.message
    return 1
  | .ok server =>
    server.lines.forM Main.say
    Main.serve server
