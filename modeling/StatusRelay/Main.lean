/-
# The command

Starts the program in its surroundings, and stands in for the others of a run: it makes the
requests that the run asks for, and lets the run go on with the replies. Only connections without
encryption can be made; any other request counts as lost.
-/

import StatusRelay.Http.Wire
import StatusRelay.Program.Traffic
import Std.Async.DNS
import Std.Async.Signal
import Std.Async.TCP
import Std.Time.DateTime

namespace StatusRelay
namespace Main

open Program (Ending Inquiry Surroundings Transcript)
open CommandLine (RunOptions)
open Std.Async

/-! ### Surroundings -/

/-- The bytes of a file, if it can be read. -/
def readFile (path : String) : IO (Option (List UInt8)) := do
  try return some (← IO.FS.readBinFile path).toList
  catch _ => return none

/-- What the program finds: the variables that it looks at, and the file that is named. -/
def surroundings (args : List String) : IO Surroundings := do
  let settings ← Settings.environmentNames.mapM fun name => return (name, ← IO.getEnv name)
  let path := match CommandLine.read args with
    | .ok i => i.config
    | .error _ => none
  let content ← match path with
    | some path => readFile path
    | none => pure none
  return {
    lookup := fun name => ((settings.lookup name).join).map fun value => Text.encode value.toList
    file := fun name => if some name = path then content else none }

/-- The time now. -/
def clock : IO Timestamp := do
  let now := (← Std.Time.Timestamp.now).val
  return (Timestamp.ofSeconds? now.second.val now.nano.val.toNat).getD default

/-! ### Requests -/

/-- Where a host can be reached. -/
def addressOf (host : Host) (port : UInt16) : Async (Option Std.Net.SocketAddress) := do
  match (← DNS.getAddrInfo (String.ofList host.shown) "").toList with
  | .v4 addr :: _ => return some (.v4 ⟨addr, port⟩)
  | .v6 addr :: _ => return some (.v6 ⟨addr, port⟩)
  | [] => return none

/-- All that comes over a connection. -/
partial def receive (socket : TCP.Socket.Client) (sofar : ByteArray) : Async ByteArray := do
  match ← socket.recv? 65536 with
  | some bytes => receive socket (sofar ++ bytes)
  | none => return sofar

/-- Sends a request and waits for the reply. -/
def exchange (url : Url) (host : Host) (request : Http.Request) : Async Http.Reply := do
  let port := url.port.getD 80
  match ← addressOf host port.toUInt16 with
  | none => return .lost
  | some address =>
    let socket ← TCP.Socket.Client.mk
    socket.connect address
    let named := match url.port with
      | some n => host.shown ++ ':' :: (toString n).toList
      | none => host.shown
    socket.send (ByteArray.mk (request.bytes named).toArray)
    return Http.Reply.ofBytes (← receive socket .empty).toList

/-- Waits for something up to a moment. The answer is whether it has come. -/
partial def wait (isThere : IO Bool) (deadline : Nat) : IO Bool := do
  if ← isThere then return true
  else if deadline ≤ (← IO.monoMsNow) then return false
  else
    IO.sleep 5
    wait isThere deadline

/-- The reply to a request, which is given up after so many seconds. -/
def ask (seconds : Nat) (url : Url) (request : Http.Request) : IO Http.Reply := do
  match url.host with
  | some host =>
    if url.scheme = "http" then
      let task ← IO.asTask (exchange url host request).block
      let isThere ← wait (IO.hasFinished task) ((← IO.monoMsNow) + seconds * 1000)
      match if isThere then task.get else .ok .lost with
      | .ok reply => return reply
      | .error _ => return .lost
    else return .lost
  | none => return .lost

/-! ### Runs -/

/-- Prints the end of the program, of whose text so many characters have been printed. -/
def finish (ending : Ending) (shown : Nat) : IO UInt32 := do
  IO.print (String.ofList (ending.out.toList.drop shown))
  IO.eprint ending.err
  return ending.code.toUInt32

/-- Follows a run that began at a moment until it is stopped, given the replies so far and how many
characters have been printed. -/
partial def follow (settings : Settings) (o : RunOptions) (stop : IO Bool) (began : Nat)
    (t : Transcript) (shown : Nat) : IO UInt32 := do
  let now := (← IO.monoMsNow) - began
  match Program.begin settings o t.others with
  | .error ending => finish ending shown
  | .ok w =>
    let w := w.settle.advance now
    match t.next? settings o w with
    | some (.poll url request) =>
      let time ← clock
      let reply ← ask settings.requestTimeoutSecs url request
      follow settings o stop began { t with polls := t.polls ++ [(time, reply)] } shown
    | some (.send a) =>
      let seconds := (settings.webhooks[a.webhook]?.map (·.timeoutSecs)).getD 0
      let reply ← ask seconds a.url a.request
      let sent := t.sent ++ [((a.webhook, a.event, a.attempt), reply)]
      follow settings o stop began { t with sent := sent } shown
    | none =>
      let text := Monitor.printed w
      IO.print (String.ofList (text.toList.drop shown))
      (← IO.getStdout).flush
      if (← stop) || Monitor.isOver w then finish (Program.finish o w.stop.settle) text.length
      else
        let pause := (t.nextMoment? settings w).getD (now + 1000) - now
        IO.sleep (min pause 100).toUInt32
        follow settings o stop began t text.length

/-- Relays events until the program is interrupted. -/
def relay (settings : Settings) (o : RunOptions) : IO UInt32 := do
  let interrupt ← (← Signal.Waiter.mk .sigint false).wait
  follow settings o (IO.hasFinished interrupt) (← IO.monoMsNow) {} 0

end Main
end StatusRelay

/-- Starts the program. -/
def main (args : List String) : IO UInt32 := do
  match StatusRelay.Program.start args (← StatusRelay.Main.surroundings args) with
  | .over ending => StatusRelay.Main.finish ending 0
  | .relay settings o => StatusRelay.Main.relay settings o
