import ChainGauge.Net.Ip

/-!
# Addresses to listen on

A network address with a port. The newer version stands in brackets and may name a scope by its
number.
-/

namespace ChainGauge

/-- A network address with a port. -/
inductive SocketAddress where
  | v4 (ip : Ip4) (port : Nat)
  | v6 (ip : Ip6) (scope port : Nat)
  deriving DecidableEq, Repr, Inhabited

namespace SocketAddress

open Ip

/-- Takes a port behind its colon from the front. -/
def takePort (cs : List Char) : Option (Nat × List Char) :=
  (takeChar ':' cs).bind (takeNumber 10 none true 0x10000)

/-- Takes a scope behind its percent sign from the front, zero where there is none. -/
def takeScope (cs : List Char) : Nat × List Char :=
  ((takeChar '%' cs).bind (takeNumber 10 none true 0x100000000)).getD (0, cs)

/-- Takes an address of the older version with a port. -/
def take4 (cs : List Char) : Option (SocketAddress × List Char) := do
  let (ip, cs) ← Ip4.take cs
  let (port, cs) ← takePort cs
  some (.v4 ip port, cs)

/-- Takes an address of the newer version with a port. -/
def take6 (cs : List Char) : Option (SocketAddress × List Char) := do
  let (ip, cs) ← Ip6.take (← takeChar '[' cs)
  let (scope, cs) := takeScope cs
  let (port, cs) ← takePort (← takeChar ']' cs)
  some (.v6 ip scope port, cs)

/-- Reads an address. -/
def ofText? (s : String) : Option SocketAddress :=
  match take4 s.toList <|> take6 s.toList with
  | some (a, []) => some a
  | _ => none

/-- The text of an address. -/
def text : SocketAddress → String
  | .v4 ip port => s!"{ip.text}:{port}"
  | .v6 ip 0 port => s!"[{ip.text}]:{port}"
  | .v6 ip scope port => s!"[{ip.text}%{scope}]:{port}"

end SocketAddress

end ChainGauge
