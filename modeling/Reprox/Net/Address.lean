import Mathlib.Tactic
import Reprox.Foundations.Text

/-!
# Addresses and their literals

The address types of the standard library with the two things the proxy asks of
them: whether a peer is the local host, and what a `SocketAddr` literal means.
The literal reader follows the standard library's: every `read` function
either consumes a front part of the input or fails without consuming anything.
-/

namespace Reprox.Net

open Foundations

structure Ipv4Addr where
  (a b c d : UInt8)
  deriving DecidableEq, Repr

structure Ipv6Addr where
  (a b c d e f g h : UInt16)
  deriving DecidableEq, Repr

inductive IpAddr where
  | v4 (ip : Ipv4Addr)
  | v6 (ip : Ipv6Addr)
  deriving DecidableEq, Repr

inductive SocketAddr where
  | v4 (ip : Ipv4Addr) (port : UInt16)
  | v6 (ip : Ipv6Addr) (port : UInt16) (flowinfo scopeId : UInt32)
  deriving DecidableEq, Repr

def Ipv6Addr.localhost : Ipv6Addr := ⟨0, 0, 0, 0, 0, 0, 0, 1⟩

def Ipv4Addr.isLoopback (ip : Ipv4Addr) : Bool := ip.a == 127

def Ipv6Addr.isLoopback (ip : Ipv6Addr) : Bool := ip == .localhost

def IpAddr.isLoopback : IpAddr → Bool
  | .v4 ip => ip.isLoopback
  | .v6 ip => ip.isLoopback

/-- `to_ipv4_mapped`: the address in `::ffff:a.b.c.d`. -/
def Ipv6Addr.toIpv4Mapped (ip : Ipv6Addr) : Option Ipv4Addr :=
  if [ip.a, ip.b, ip.c, ip.d, ip.e, ip.f] = [0, 0, 0, 0, 0, 0xffff] then
    some ⟨(ip.g.toNat / 256).toUInt8, (ip.g.toNat % 256).toUInt8, (ip.h.toNat / 256).toUInt8,
      (ip.h.toNat % 256).toUInt8⟩
  else none

/-- A loopback address in the form a dual-stack listener reports. -/
def IpAddr.isMappedLoopback : IpAddr → Bool
  | .v4 _ => false
  | .v6 ip => ip.toIpv4Mapped.any (·.isLoopback)

/-- The address denotes the local host, in one form or the other. -/
def IpAddr.isLocalHost (ip : IpAddr) : Bool := ip.isLoopback || ip.isMappedLoopback

/-- `is_loopback` does not look through the mapping. -/
theorem IpAddr.isLoopback_of_isMappedLoopback {ip : IpAddr} (h : ip.isMappedLoopback = true) :
    ip.isLoopback = false := by
  cases ip with
  | v4 ip => cases h
  | v6 ip =>
    obtain ⟨v4, hmapped, -⟩ := (Option.any_eq_true _ _).mp h
    rw [Ipv6Addr.toIpv4Mapped, Option.ite_none_right_eq_some] at hmapped
    have hf : ip.f = 0xffff := by
      simp only [List.cons.injEq] at hmapped
      exact hmapped.1.2.2.2.2.2.1
    simp only [IpAddr.isLoopback, Ipv6Addr.isLoopback, beq_eq_false_iff_ne]
    intro hlocal
    rw [hlocal] at hf
    exact absurd hf (by decide)

def SocketAddr.ip : SocketAddr → IpAddr
  | .v4 ip _ => .v4 ip
  | .v6 ip _ _ _ => .v6 ip

def SocketAddr.port : SocketAddr → UInt16
  | .v4 _ port => port
  | .v6 _ port _ _ => port

/-! ## Reading numbers -/

def toDigit (radix : ℕ) (c : Char) : Option ℕ :=
  let d :=
    if '0' ≤ c ∧ c ≤ '9' then c.toNat - '0'.toNat
    else if 'a' ≤ c ∧ c ≤ 'z' then c.toNat - 'a'.toNat + 10
    else if 'A' ≤ c ∧ c ≤ 'Z' then c.toNat - 'A'.toNat + 10
    else radix
  if d < radix then some d else none

def readDigits (radix : ℕ) : Text → List ℕ × Text
  | [] => ([], [])
  | c :: s =>
    match toDigit radix c with
    | none => ([], c :: s)
    | some d =>
      let more := readDigits radix s
      (d :: more.1, more.2)

def ofDigits (radix : ℕ) (ds : List ℕ) : ℕ := ds.foldl (fun n d => n * radix + d) 0

/-- `read_number`: a number of at most `maxDigits` digits that fits the type
with the largest value `max`. -/
def readNumber (radix : ℕ) (maxDigits : Option ℕ) (allowZeroPrefix : Bool) (max : ℕ) (s : Text) :
    Option (ℕ × Text) :=
  let (ds, rest) := readDigits radix s
  if ds = [] then none
  else if maxDigits.any (· < ds.length) then none
  else if !allowZeroPrefix && ds.head? == some 0 && 1 < ds.length then none
  else if max < ofDigits radix ds then none
  else some (ofDigits radix ds, rest)

/-- `from_str` of an unsigned integer type with the largest value `max`:
decimal digits after an optional plus sign. -/
def parseUnsigned (max : ℕ) (s : Text) : Option ℕ :=
  let digits := if s.head? = some '+' then s.tail else s
  match readNumber 10 none true max digits with
  | some (n, []) => some n
  | _ => none

def parseU16 (s : Text) : Option UInt16 := (parseUnsigned 65535 s).map Nat.toUInt16

/-- `u64::from_str`, and `usize::from_str` on the 64-bit targets. -/
def parseU64 (s : Text) : Option UInt64 := (parseUnsigned 18446744073709551615 s).map Nat.toUInt64

/-! ## Reading addresses -/

def readGivenChar (c : Char) : Text → Option Text
  | [] => none
  | d :: s => if d = c then some s else none

/-- `read_separator`: every element but the first is preceded by `sep`. -/
def readSeparator {α : Type} (sep : Char) (index : ℕ) (inner : Text → Option (α × Text))
    (s : Text) : Option (α × Text) :=
  if index = 0 then inner s else (readGivenChar sep s).bind inner

def readIpv4Addr (s : Text) : Option (Ipv4Addr × Text) := do
  let octet := readNumber 10 (some 3) false 255
  let (a, s) ← readSeparator '.' 0 octet s
  let (b, s) ← readSeparator '.' 1 octet s
  let (c, s) ← readSeparator '.' 2 octet s
  let (d, s) ← readSeparator '.' 3 octet s
  some (⟨a.toUInt8, b.toUInt8, c.toUInt8, d.toUInt8⟩, s)

/-- `read_groups`: up to `left` more groups after the `groups` already read,
the last two of which may be an embedded IPv4 address (reported by the flag). -/
def readGroups : ℕ → List UInt16 → Text → List UInt16 × Bool × Text
  | 0, groups, s => (groups, false, s)
  | left + 1, groups, s =>
    let embedded :=
      if left = 0 then none else readSeparator ':' groups.length readIpv4Addr s
    match embedded with
    | some (ip, s) =>
      let high := ip.a.toUInt16 * (256 : UInt16) + ip.b.toUInt16
      let low := ip.c.toUInt16 * (256 : UInt16) + ip.d.toUInt16
      (groups ++ [high, low], true, s)
    | none =>
      match readSeparator ':' groups.length (readNumber 16 (some 4) true 65535) s with
      | some (g, s) => readGroups left (groups ++ [g.toUInt16]) s
      | none => (groups, false, s)

def segmentsOf (groups : List UInt16) : Ipv6Addr :=
  let g := fun i => groups.getD i 0
  ⟨g 0, g 1, g 2, g 3, g 4, g 5, g 6, g 7⟩

def readIpv6Addr (s : Text) : Option (Ipv6Addr × Text) :=
  let (head, headIpv4, s) := readGroups 8 [] s
  if head.length = 8 then some (segmentsOf head, s)
  else if headIpv4 then none
  else do
    let s ← readGivenChar ':' s
    let s ← readGivenChar ':' s
    -- the `::` stands for at least one group of zeros
    let (tail, _, s) := readGroups (8 - (head.length + 1)) [] s
    let zeros := List.replicate (8 - head.length - tail.length) 0
    some (segmentsOf (head ++ zeros ++ tail), s)

def readPort (s : Text) : Option (UInt16 × Text) := do
  let s ← readGivenChar ':' s
  let (port, s) ← readNumber 10 none true 65535 s
  some (port.toUInt16, s)

def readScopeId (s : Text) : Option (UInt32 × Text) := do
  let s ← readGivenChar '%' s
  let (id, s) ← readNumber 10 none true 4294967295 s
  some (id.toUInt32, s)

def readSocketAddrV4 (s : Text) : Option (SocketAddr × Text) := do
  let (ip, s) ← readIpv4Addr s
  let (port, s) ← readPort s
  some (.v4 ip port, s)

def readSocketAddrV6 (s : Text) : Option (SocketAddr × Text) := do
  let s ← readGivenChar '[' s
  let (ip, s) ← readIpv6Addr s
  let (scopeId, s) := (readScopeId s).getD (0, s)
  let s ← readGivenChar ']' s
  let (port, s) ← readPort s
  some (.v6 ip port 0 scopeId, s)

/-- `SocketAddr::from_str`: the whole input is one literal. -/
def parseSocketAddr (s : Text) : Option SocketAddr :=
  match (readSocketAddrV4 s).orElse fun _ => readSocketAddrV6 s with
  | some (addr, []) => some addr
  | _ => none

/-! ## Writing addresses -/

def Ipv4Addr.display (ip : Ipv4Addr) : Text :=
  ['.'].intercalate ([ip.a, ip.b, ip.c, ip.d].map fun octet => Text.ofNat octet.toNat)

def Ipv6Addr.segments (ip : Ipv6Addr) : List UInt16 :=
  [ip.a, ip.b, ip.c, ip.d, ip.e, ip.f, ip.g, ip.h]

/-- The start and the length of the first longest run of zeros. -/
def longestZeros (segments : List UInt16) : ℕ × ℕ :=
  let scan := segments.zipIdx.foldl
    (fun (longest, current) (segment, i) =>
      if segment = 0 then
        let current := (if current.2 = 0 then i else current.1, current.2 + 1)
        (if longest.2 < current.2 then current else longest, current)
      else (longest, (0, 0)))
    (((0, 0), (0, 0)) : (ℕ × ℕ) × (ℕ × ℕ))
  scan.1

def fmtSubslice (segments : List UInt16) : Text :=
  [':'].intercalate (segments.map fun segment => Text.ofNatHex segment.toNat)

def Ipv6Addr.display (ip : Ipv6Addr) : Text :=
  if ip.segments.take 6 = [0, 0, 0, 0, 0, 0xffff] then
    let octet (segment : UInt16) : List UInt8 :=
      [(segment.toNat / 256).toUInt8, (segment.toNat % 256).toUInt8]
    let octets := octet ip.g ++ octet ip.h
    let mapped : Ipv4Addr := ⟨octets.getD 0 0, octets.getD 1 0, octets.getD 2 0, octets.getD 3 0⟩
    "::ffff:".toList ++ mapped.display
  else
    let (start, len) := longestZeros ip.segments
    if 1 < len then
      fmtSubslice (ip.segments.take start) ++ "::".toList ++
        fmtSubslice (ip.segments.drop (start + len))
    else fmtSubslice ip.segments

def SocketAddr.display : SocketAddr → Text
  | .v4 ip port => ip.display ++ ':' :: Text.ofNat port.toNat
  | .v6 ip port _ scopeId =>
    let scope := if scopeId = 0 then [] else '%' :: Text.ofNat scopeId.toNat
    '[' :: ip.display ++ scope ++ "]:".toList ++ Text.ofNat port.toNat

example : (SocketAddr.v6 ⟨0x2001, 0xdb8, 0, 0, 1, 0, 0, 1⟩ 443 0 0).display =
    "[2001:db8::1:0:0:1]:443".toList := by decide

example : parseSocketAddr "[::ffff:127.0.0.1%3]:80".toList =
    some (.v6 ⟨0, 0, 0, 0, 0, 65535, 32512, 1⟩ 80 0 3) := by decide

end Reprox.Net
