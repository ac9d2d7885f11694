import Readiness.Text.Blank
import Readiness.Text.Digit

/-!
The listening ports in the tables of sockets that systems print. Each port is given once, in
ascending order; lines that make no sense are passed over.
-/

namespace Readiness.Ports

/-- A port put into its place, unless it is there. -/
def insert (port : UInt16) : List UInt16 → List UInt16
  | [] => [port]
  | other :: rest =>
    if port = other then other :: rest
    else if port < other then port :: other :: rest
    else other :: insert port rest

def ascending (ports : List UInt16) : List UInt16 := ports.foldr insert []

/-- What follows the last separator. -/
def afterLast? (isSeparator : Char → Bool) (cs : List Char) : Option (List Char) :=
  if cs.any isSeparator then some (cs.reverse.takeWhile fun c => !isSeparator c).reverse
  else none

def port? (radix : Nat) (cs : List Char) : Option UInt16 :=
  (Text.readBounded? radix UInt16.size cs).map UInt16.ofNat

/-- The state of a listening socket in the kernel's table. -/
def kernelListening : List Char := ['0', 'A']

/-- The port of a row in the kernel's table, if its socket is listening. -/
def kernelRow? (line : List Char) : Option UInt16 :=
  match Text.words line with
  | _ :: address :: _ :: state :: _ =>
    if state == kernelListening then (afterLast? (· == ':') address).bind (port? 16) else none
  | _ => none

/-- The listening ports in the kernel's table of sockets, whose first line is a heading. -/
def ofKernelTable (text : String) : List UInt16 :=
  ascending (((Text.lines text.toList).drop 1).filterMap kernelRow?)

def isListening (field : List Char) : Bool :=
  field == "LISTEN".toList || field == "LISTENING".toList

/-- The port of a row in a listing, if it is a listening TCP socket. Where the protocol is written
in capitals the local address comes next; else the lengths of two queues come between. -/
def listingRow? (line : List Char) : Option UInt16 :=
  match Text.words line with
  | [] => none
  | protocol :: fields =>
    if (protocol.map Char.toLower).take 3 == "tcp".toList && (protocol :: fields).any isListening then
      let address? := if protocol.take 3 == "TCP".toList then fields[0]? else fields[2]?
      (address?.bind (afterLast? fun c => c = ':' || c = '.')).bind (port? 10)
    else none

/-- The listening ports in a listing of sockets. -/
def ofListing (text : String) : List UInt16 :=
  ascending ((Text.lines text.toList).filterMap listingRow?)

end Readiness.Ports
