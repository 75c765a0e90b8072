import LuaDebugger.CoreInstances
/-!
# Listen addresses

A listen address is a host and a port joined as `host:port`, with the host in brackets when
it has a colon (an IPv6 literal), so `[::1]:80`. Listening on an address first splits it
again and reads the port; these two steps are where an address fails before any socket is
opened:

* `split` rejects an address with no colon, a bracket out of place or a colon too many,
  each with its own reason;
* a port is read as a signed decimal, saturating far beyond the range, and must lie in
  `0..65535`.

Every reason is reported as `address <what>: <reason>`, where `<what>` is the whole address
for a split and the port text for a port.
-/

namespace LuaDebugger.Server

/-- Joins a host and a port into an address, bracketing a host that has a colon. -/
def joinHostPort (host port : String) : String :=
  if host.toList.contains ':' then "[" ++ host ++ "]:" ++ port else host ++ ":" ++ port

/-- The text of a fault of an address. -/
def addressFault (addr why : String) : String := "address " ++ addr ++ ": " ++ why

/-- The index of the first `c` in `cs`. -/
def firstIndex? (cs : List Char) (c : Char) : Option Nat := cs.idxOf? c

/-- The index of the last `c` in `cs`. -/
def lastIndex? (cs : List Char) (c : Char) : Option Nat :=
  (cs.reverse.idxOf? c).map fun i ↦ cs.length - 1 - i

/-- Splits an address into its host and its port, or gives the fault of the address. -/
def splitHostPort (hostport : String) : Except String (String × String) :=
  let cs := hostport.toList
  let fault (why : String) : Except String (String × String) := .error (addressFault hostport why)
  match lastIndex? cs ':' with
  | none => fault "missing port in address"
  | some i =>
    let parts : Except String (String × Nat × Nat) :=
      if cs.head? = some '[' then
        match firstIndex? cs ']' with
        | none => .error "missing ']' in address"
        | some e =>
          if e + 1 = cs.length then .error "missing port in address"
          else if e + 1 = i then .ok (String.ofList ((cs.take e).drop 1), 1, e + 1)
          else if cs[e + 1]? = some ':' then .error "too many colons in address"
          else .error "missing port in address"
      else
        let host := cs.take i
        if host.contains ':' then .error "too many colons in address"
        else .ok (String.ofList host, 0, 0)
    match parts with
    | .error why => fault why
    | .ok (host, j, k) =>
      if (cs.drop j).contains '[' then fault "unexpected '[' in address"
      else if (cs.drop k).contains ']' then fault "unexpected ']' in address"
      else .ok (host, String.ofList (cs.drop (i + 1)))

/-- Reads the digits of a port, saturating at 2³² - 1: none when a character is not a
digit. -/
def readPortDigits : List Char → Nat → Option Nat
  | [], n => some n
  | d :: ds, n =>
    if d.isDigit then
      if n ≥ 2 ^ 30 then if ds.all Char.isDigit then some (2 ^ 32 - 1) else none
      else
        let nn := n * 10 + (d.toNat - '0'.toNat)
        if nn > 2 ^ 32 - 1 then (if ds.all Char.isDigit then some (2 ^ 32 - 1) else none)
        else readPortDigits ds nn
    else none

/-- The number a port text names, with a sign, saturating at `±2³⁰`; none when it is not a
number and has to be looked up by name. -/
def portNumber (service : String) : Option Int :=
  if service.isEmpty then some 0
  else
    let cs := service.toList
    let (neg, digits) := match cs with
      | '+' :: ds => (false, ds)
      | '-' :: ds => (true, ds)
      | ds => (false, ds)
    (readPortDigits digits 0).map fun n ↦
      let port : Int := if !neg && n ≥ 2 ^ 30 then 2 ^ 30 - 1
        else if neg && n > 2 ^ 30 then 2 ^ 30 else n
      if neg then -port else port

/-- The fault of listening on an address over TCP, before a socket is opened: none when the
address is well formed and its port in range. A port that is not a number is not looked
up here. -/
def listenFault? (addr : String) : Option String :=
  match splitHostPort addr with
  | .error e => some ("listen tcp: " ++ e)
  | .ok (_, port) =>
    match portNumber port with
    | some p =>
      if p < 0 ∨ p > 65535 then some ("listen tcp: " ++ addressFault port "invalid port") else none
    | none => none

end LuaDebugger.Server
