/-
# Hosts of the local machine and of private networks

A link to such a host never leaves the user's own network.  Numeric hosts are judged by
the range their address lies in, an IPv4 address written as an IPv6 one by the address
it stands for.
-/
import PlainLink.Host.Address

namespace PlainLink.Host

/-- Names that always mean the machine itself. -/
def localNames : List Text :=
  ["localhost", "localhost.localdomain", "ip6-localhost", "ip6-loopback"].map String.toList

/-- The address lies in a private, loopback, link-local, documentation, benchmarking, reserved
or broadcast range, or in that of "this network". -/
def IPv4.isLocal (x : IPv4) : Bool :=
  let a := x.a.toNat
  let b := x.b.toNat
  let c := x.c.toNat
  a == 0 || a == 10 || a == 127
    || (a == 169 && b == 254)
    || (a == 172 && 16 ≤ b && b ≤ 31)
    || (a == 192 && b == 168)
    || (a == 192 && b == 0 && c == 2)
    || (a == 198 && (b == 18 || b == 19))
    || (a == 198 && b == 51 && c == 100)
    || (a == 203 && b == 0 && c == 113)
    || 240 ≤ a

/-- The IPv4 address that an address of the form `::ffff:a.b.c.d` stands for. -/
def IPv6.mapped? (x : IPv6) : Option IPv4 :=
  match x.groups with
  | [0, 0, 0, 0, 0, 0xFFFF, high, low] =>
    some ⟨(high / 256).toUInt8, (high % 256).toUInt8, (low / 256).toUInt8, (low % 256).toUInt8⟩
  | _ => none

/-- The address is a mapped local IPv4 address, the loopback or unspecified address, or lies in
the unique-local, link-local or documentation range. -/
def IPv6.isLocal (x : IPv6) : Bool :=
  match x.mapped? with
  | some v4 => v4.isLocal
  | none =>
    let first := x.groups.headD 0
    x.groups == [0, 0, 0, 0, 0, 0, 0, 1] || x.groups == [0, 0, 0, 0, 0, 0, 0, 0]
      || (0xFC00 ≤ first && first ≤ 0xFDFF)
      || (0xFE80 ≤ first && first ≤ 0xFEBF)
      || (first == 0x2001 && x.groups[1]? == some 0x0DB8)

/-- A host without the brackets around it, if it has both. -/
def unbracketed (host : Text) : Text :=
  match host with
  | '[' :: inner => if inner.getLast? = some ']' then inner.dropLast else host
  | _ => host

/-- The host is the local machine or lies in a private network. -/
def isLocal (host : Text) : Bool :=
  let bare := unbracketed host
  match readAddress? bare with
  | some (.v4 x) => x.isLocal
  | some (.v6 x) => x.isLocal
  | none => localNames.contains (Text.lower bare)

end PlainLink.Host
