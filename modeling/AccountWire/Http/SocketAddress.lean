import AccountWire.Url.Address

/-!
# Socket addresses

An address to listen at: an address of four octets or eight pieces, and a port.  The text puts
pieces between square brackets.  Pieces that only embed an address of four octets show it as such.
-/

namespace AccountWire.Http

/-- The address of a host. -/
inductive IpAddress where
  | v4 (address : Nat)
  | v6 (pieces : List Nat)
deriving DecidableEq, Repr

/-- An address to listen at. -/
structure SocketAddress where
  ip : IpAddress
  port : Nat
deriving DecidableEq, Repr

/-- The address of the local host. -/
def localhost : IpAddress := .v4 0x7F000001

/-- A port of the system's choice on the local host. -/
def SocketAddress.anyLocal : SocketAddress := ⟨localhost, 0⟩

/-- The text of pieces, those that embed an address of four octets apart. -/
def pieceText (pieces : List Nat) : List Char :=
  match pieces with
  | [0, 0, 0, 0, 0, 0xFFFF, a, b] => "::ffff:".toList ++ Url.printIpv4 (0x10000 * a + b)
  | _ => Url.printIpv6 pieces

/-- The text of an address. -/
def IpAddress.text : IpAddress → String
  | .v4 a => String.ofList (Url.printIpv4 a)
  | .v6 pieces => String.ofList (pieceText pieces)

/-- The text of an address to listen at. -/
def SocketAddress.text (a : SocketAddress) : String :=
  match a.ip with
  | .v4 _ => a.ip.text ++ ":" ++ toString a.port
  | .v6 _ => "[" ++ a.ip.text ++ "]:" ++ toString a.port

/-- The number of a port. -/
def port? (cs : List Char) : Option Nat :=
  match cs with
  | [] => none
  | _ =>
    match Url.digitsValue? 10 cs with
    | some n => if n ≤ 65535 then some n else none
    | none => none

/-- Four octets in base ten, without leading zeros. -/
def plainIpv4? (cs : List Char) : Option Nat :=
  match (Split.pieces (· == '.') cs).map Url.ipv6Octet? with
  | [some a, some b, some c, some d] => some (((a * 256 + b) * 256 + c) * 256 + d)
  | _ => none

/-- Reads an address to listen at. -/
def SocketAddress.ofText? (s : String) : Option SocketAddress :=
  match s.toList with
  | '[' :: r => do
    let (ip, rest) ← Split.atFirst? (· == ']') r
    match rest with
    | ':' :: p => return ⟨.v6 (← Url.ipv6? ip), ← port? p⟩
    | _ => none
  | cs => do
    let (ip, p) ← Split.atFirst? (· == ':') cs
    return ⟨.v4 (← plainIpv4? ip), ← port? p⟩

end AccountWire.Http
