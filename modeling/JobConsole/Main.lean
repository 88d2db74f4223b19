import JobConsole.Socket.Handshake
import JobConsole.Socket.Reader
import JobConsole.Terminal
import Std.Async.DNS
import Std.Async.Signal
import Std.Async.TCP
import Std.Async.Timer
import Std.Internal.UV.System
import Std.Sync.Channel

/-!
# The program

The terminal program on a real terminal and a real network. Everything is decided elsewhere; here
lines are read, octets are sent and received, and what happens is handed to the event loop in the
order it happens.
-/

open Std.Async

namespace JobConsole.Program

/-- What can happen while the program waits. -/
inductive Happening
  | control (control : Control)
  /-- Items came from the connection with this number. -/
  | arrived (connection : Nat) (items : List Incoming)

abbrev Happenings := Std.CloseableChannel.Sync Happening

/-- A socket that is open: its number, and the last of the writes that were begun on it. -/
structure Link where
  socket : TCP.Socket.Client
  number : Nat
  lastWrite : IO.Ref (Task (Except IO.Error Unit))

structure Running where
  happenings : Happenings
  loop : EventLoop
  link : Option Link
  /-- How many connections were begun. -/
  connections : Nat
  /-- How many entries of the log are on the output. -/
  shown : Nat

def drawMask : IO (List UInt8) := return (← IO.getRandomBytes 4).toList

/-- Begins a write behind those that were begun before. -/
def Link.write (link : Link) (frame : Frame) : IO Unit := do
  let octets := ByteArray.mk frame.encode.toArray
  let before ← link.lastWrite.get
  let next ← IO.bindTask before fun _ => IO.asTask (link.socket.send octets).block
  link.lastWrite.set next

def Link.settle (link : Link) : IO Unit := do
  let last ← link.lastWrite.get
  discard (IO.wait last)

def Link.writeAll (link : Link) (queued : List Outgoing) : IO Unit :=
  queued.forM fun frame => do link.write (frame.frame (← drawMask))

def lookup (host : String) (port : UInt16) : Async (List Std.Net.SocketAddress) := do
  let found ← DNS.getAddrInfo host (toString port)
  return found.toList.map fun
    | .v4 addr => .v4 ⟨addr, port⟩
    | .v6 addr => .v6 ⟨addr, port⟩

/-- A socket that is connected to the first of some addresses that answers. -/
def connectFirst : List Std.Net.SocketAddress → Async TCP.Socket.Client
  | [] => throw (IO.userError "no address")
  | [addr] => do
    let socket ← TCP.Socket.Client.mk
    socket.connect addr
    return socket
  | addr :: rest => do
    try
      let socket ← TCP.Socket.Client.mk
      socket.connect addr
      return socket
    catch _ => connectFirst rest

/-- Receives until the head of an answer is there. -/
partial def receiveHead (socket : TCP.Socket.Client) (received : List UInt8) :
    Async (Option (List UInt8 × List UInt8)) := do
  match Handshake.head? [] received with
  | some found => return some found
  | none =>
    match ← socket.recv? 4096 with
    | none => return none
    | some octets => receiveHead socket (received ++ octets.toList)

/-- Opens a socket; with it come the octets behind the answer. -/
def openSocket (address key : String) :
    Async (Except TransportFault (TCP.Socket.Client × List UInt8)) := do
  let parts := Address.parts Connection.schemeLength address
  let port := parts.port.getD 80
  let socket ← connectFirst (← lookup parts.host port.toUInt16)
  let request := Handshake.request (parts.host ++ ":" ++ toString port) parts.target key
  socket.send request.toUTF8
  match ← receiveHead socket [] with
  | none => return .error (.protocol .handshakeIncomplete)
  | some (head, rest) =>
    match Handshake.readHead? head with
    | none => return .error (.protocol .handshakeIncomplete)
    | some head =>
      match Handshake.check key head with
      | .error fault => return .error fault
      | .ok () => return .ok (socket, rest)

inductive Opened
  | socket (socket : TCP.Socket.Client) (rest : List UInt8)
  | failed (fault : TransportFault)
  | silent

instance : Inhabited Opened := ⟨.silent⟩

/-- Opens a socket within the time that is given for it. -/
def openInTime (settings : Settings) : IO Opened := do
  let key := Base64.encode (← IO.getRandomBytes 16).toList
  let opening : Async Opened := do
    try
      match ← openSocket settings.endpoint key with
      | .ok (socket, rest) => return .socket socket rest
      | .error fault => return .failed fault
    catch e => return .failed (.system (toString e) 0)
  let waiting : Async Opened := do
    sleep (Std.Time.Millisecond.Offset.ofInt (settings.connectTimeoutSecs * 1000))
    return .silent
  (Async.race opening waiting).block

/-- Hands over what a socket receives, up to its end. -/
partial def receiveAll (happenings : Happenings) (socket : TCP.Socket.Client) (number max : Nat)
    (reader : Reader) (octets : List UInt8) : Async Unit := do
  let (reader, items) := reader.feed max octets
  unless items.isEmpty do liftM (m := IO) (happenings.send (.arrived number items))
  unless reader.ended do
    let received ← try socket.recv? 65536 catch _ => pure none
    match received with
    | some octets => receiveAll happenings socket number max reader octets.toList
    | none => liftM (m := IO) (happenings.send (.arrived number reader.finish))

/-- Hands over the controls that are typed, up to a shutdown or the end of the input. -/
partial def readControls (happenings : Happenings) (input : IO.FS.Stream) : IO Unit := do
  let line ← try input.getLine catch _ => pure ""
  unless line.isEmpty do
    let control := Control.ofLine (String.ofList (withoutLineEnd line.toList))
    happenings.send (.control control)
    unless control = .shutdown do readControls happenings input

/-- The first environment file in some folders. -/
def findFile : (folders : List String) → IO (Option (List UInt8))
  | [] => return none
  | folder :: rest => do
    try
      return some (← IO.FS.readBinFile (folder ++ "/.env")).toList
    catch _ => findFile rest

/-- Shows the entries of a log that are not on the output yet, and counts them. -/
def showNew (shown : Nat) (log : Log) : IO Nat := do
  IO.print (Terminal.linesFrom shown log)
  (← IO.getStdout).flush
  return log.length

def dial (happenings : Happenings) (settings : Settings) (number : Nat) :
    IO (Attempt × Option Link) := do
  match Address.check Connection.schemeLength settings.endpoint with
  | .error fault => return (.failed (.address fault), none)
  | .ok () =>
    match ← openInTime settings with
    | .silent => return (.silent, none)
    | .failed fault => return (.failed fault, none)
    | .socket socket rest =>
      let lastWrite ← IO.mkRef (Task.pure (.ok ()))
      let max := settings.maxPayloadBytes
      discard (receiveAll happenings socket number max .start rest).toIO
      return (.accepted, some ⟨socket, number, lastWrite⟩)

/-- Writes what the session queued during a turn, and shows what the turn has logged. -/
def Running.finishTurn (r : Running) (loop : EventLoop) : IO Running := do
  let (queued, client) := loop.client.drain
  if let some link := r.link then link.writeAll queued
  let shown ← showNew r.shown client.log
  return { r with loop := { loop with client }, shown }

/-- Handles a control. Before another session is opened, the current one is parted from. -/
def Running.control (r : Running) (control : Control) : IO Running := do
  let loop := r.loop.enqueue control
  if control = .reconnect then
    if let (some link, some sink) := (r.link, loop.client.abandonedSink?) then
      link.writeAll sink.queue
    let shown ← showNew r.shown loop.client.makeRoom.log
    let number := r.connections + 1
    let (attempt, link) ← dial r.happenings loop.client.settings number
    let r := { r with link, connections := number, shown }
    r.finishTurn (loop.turn .control attempt)
  else r.finishTurn (loop.turn .control .silent)

def handleEvents : (rounds : Nat) → EventLoop → EventLoop
  | 0, loop => loop
  | rounds + 1, loop =>
    if loop.isReady .inbound then handleEvents rounds (loop.turn .inbound .silent) else loop

/-- Handles what came from a connection, unless it is no longer the current one. -/
def Running.arrived (r : Running) (number : Nat) (items : List Incoming) : IO Running := do
  match r.link with
  | none => return r
  | some link =>
    if link.number ≠ number then return r
    for item in items do
      if let some frame := Reader.reply (← drawMask) item then link.write frame
    r.finishTurn (handleEvents items.length (r.loop.deliver items))

partial def Running.toEnd (r : Running) : IO Running := do
  if r.loop.stopped then return r
  match ← r.happenings.recv with
  | none => return r
  | some (.control control) => (← r.control control).toEnd
  | some (.arrived number items) => (← r.arrived number items).toEnd

def run (settings : Settings) : IO UInt32 := do
  let seed := numberOf (← IO.getRandomBytes 16).toList
  match Client.ofSettings settings ⟨seed, 0⟩ with
  | .error fault =>
    IO.eprintln fault.message
    return 101
  | .ok client =>
    let happenings : Happenings ← Std.CloseableChannel.Sync.new
    discard (IO.asTask (readControls happenings (← IO.getStdin)) .dedicated)
    let interrupted ← (← Signal.Waiter.mk .sigint false).wait
    discard (IO.mapTask (fun _ => happenings.send (.control .shutdown)) interrupted)
    let (attempt, link) ← dial happenings settings 1
    let loop := EventLoop.start client attempt
    let r ← Running.finishTurn ⟨happenings, loop, link, 1, 0⟩ loop
    let r ← r.toEnd
    if let some link := r.link then link.settle
    return 0

def environment : IO Environment := do
  let found ← Std.Internal.UV.System.osEnviron
  return ⟨found.toList.map fun (name, value) => (name, value.toUTF8.toList)⟩

end JobConsole.Program

def main : IO UInt32 := do
  let env ← JobConsole.Program.environment
  let folder ← IO.currentDir
  let file ← JobConsole.Program.findFile (JobConsole.Terminal.foldersAbove folder.toString)
  match JobConsole.Settings.load env file with
  | .error u =>
    IO.eprintln u.message
    return 101
  | .ok (.error e) =>
    IO.eprint (JobConsole.Terminal.errorLine e)
    return 1
  | .ok (.ok settings) => JobConsole.Program.run settings
