import Mathlib

/-!
# Addresses of the internet protocol

Addresses of both versions and their texts. The text of the newer one is in lower case and leaves
out its longest run of zero segments, the first one of several; an older address mapped into it
is written the older way.
-/

namespace Lib

structure Ipv4Addr where
  octets : Vector UInt8 4
  deriving DecidableEq

structure Ipv6Addr where
  segments : Vector UInt16 8
  deriving DecidableEq

inductive IpAddr where
  | v4 (addr : Ipv4Addr)
  | v6 (addr : Ipv6Addr)
  deriving DecidableEq

def Ipv4Addr.toString (addr : Ipv4Addr) : String :=
  ".".intercalate (addr.octets.toList.map (fun octet => octet.toNat.repr))

namespace Ipv6Addr

/-- The older address that is mapped into the newer one, if there is one. -/
def toIpv4Mapped (addr : Ipv6Addr) : Option Ipv4Addr :=
  let s := addr.segments
  if s.toList.take 6 = [0, 0, 0, 0, 0, 0xffff] then
    some ⟨#v[(s[6] >>> 8).toUInt8, s[6].toUInt8, (s[7] >>> 8).toUInt8, s[7].toUInt8]⟩
  else none

/-- A run of segments. -/
structure Span where
  start : ℕ
  len : ℕ

/-- The longest run of zeros, the first one of several. -/
def zeroes (segments : List UInt16) : Span :=
  let (longest, _) := segments.zipIdx.foldl (fun (longest, current) (segment, i) =>
    if segment = 0 then
      let current : Span := ⟨if current.len = 0 then i else current.start, current.len + 1⟩
      (if current.len > longest.len then current else longest, current)
    else (longest, ⟨0, 0⟩)) ((⟨0, 0⟩, ⟨0, 0⟩) : Span × Span)
  longest

def fmtSubslice (chunk : List UInt16) : String :=
  ":".intercalate (chunk.map (fun segment => String.ofList (Nat.toDigits 16 segment.toNat)))

def toString (addr : Ipv6Addr) : String :=
  match addr.toIpv4Mapped with
  | some ipv4 => "::ffff:" ++ ipv4.toString
  | none =>
    let segments := addr.segments.toList
    let zeroes := zeroes segments
    if zeroes.len > 1 then
      fmtSubslice (segments.take zeroes.start) ++ "::" ++
        fmtSubslice (segments.drop (zeroes.start + zeroes.len))
    else fmtSubslice segments

end Ipv6Addr

namespace IpAddr

def toString : IpAddr → String
  | v4 addr => addr.toString
  | v6 addr => addr.toString

def isIpv4 : IpAddr → Bool
  | v4 _ => true
  | v6 _ => false

example : (v4 ⟨#v[192, 168, 1, 10]⟩).toString = "192.168.1.10" := by decide

example : (v6 ⟨#v[0xfe80, 0, 0, 0, 0, 0, 0, 1]⟩).toString = "fe80::1" := by decide

example : (v6 ⟨#v[0, 0, 0, 0, 0, 0xffff, 0x0a00, 0x0001]⟩).toString = "::ffff:10.0.0.1" := by decide

end IpAddr
end Lib
