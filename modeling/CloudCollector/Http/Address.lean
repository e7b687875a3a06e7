import CloudCollector.Text.Blank

/-!
# Addresses to listen on

The service listens on a port of an address of this machine. A port alone stands for every
address. Whether the machine can bind an address is for the machine to say.
-/

namespace CloudCollector.Http

/-- A number that a decimal text without sign spells, below a bound. -/
def decimalBelow? (bound : Nat) (cs : List Char) : Option Nat :=
  if cs.isEmpty || !cs.all Char.isDigit then none
  else
    let n := cs.foldl (fun n c => 10 * n + (c.toNat - '0'.toNat)) 0
    if n < bound then some n else none

/-- Whether a text names an address that every machine has. -/
def isLocalHost (host : String) : Bool :=
  let parts := (host.splitOn ".").map fun part => decimalBelow? 256 part.toList
  host == "localhost" || host == "[::1]" || host == "[::]" || parts == List.replicate 4 (some 0) ||
    (parts.length == 4 && parts.all Option.isSome && parts.head? == some (some 127))

/-- The address that the service binds: the standard port if none is given, and every address of
this machine if only a port is. -/
def bindAddress (address : String) : String :=
  let address := if address = "" then ":8242" else address
  if address.startsWith ":" then "0.0.0.0" ++ address else address

/-- Whether an address to bind spells a port of an address that every machine has. A run without a
network goes by this; what else a machine can bind depends on its interfaces, its names and on who
listens already. -/
def isLocalAddress (address : String) : Bool :=
  let port := (address.toList.reverse.takeWhile (· != ':')).reverse
  let host := address.toList.take (address.toList.length - port.length - 1)
  isLocalHost (String.ofList host) && (decimalBelow? 65536 port).isSome

end CloudCollector.Http
