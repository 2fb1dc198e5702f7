import RouterConf.Decimal.Integer
import RouterConf.Text.Blank

/-!
# IPv4 addresses and netmasks

Addresses are words of 32 bits. A netmask is written as a prefix length or as a dotted quad whose
bits are ones followed by zeros. Host bits of an address are masked off, and offsets are added as
whole numbers over the whole address space, whatever the subnet. The numbers have no bound, so that
no sum overflows.
-/

namespace RouterConf

structure Ipv4 where
  word : UInt32
  deriving DecidableEq, Repr, Inhabited

inductive AddressError where
  | missing (option : String)
  | invalidAddress (text : String)
  | invalidNetmask (text : String)
  | outOfRange (base : Ipv4) (offset : Int)
  deriving DecidableEq, Repr

namespace Ipv4

def ofOctets (a b c d : Nat) : Ipv4 :=
  ⟨UInt32.ofNat (((a * 256 + b) * 256 + c) * 256 + d)⟩

/-- The octet that starts `shift` bits from the right. -/
def octet (a : Ipv4) (shift : Nat) : Nat :=
  a.word.toNat / 2 ^ shift % 256

def text (a : Ipv4) : String :=
  ".".intercalate ([24, 16, 8, 0].map fun shift => toString (a.octet shift))

/-- An octet: one to three digits, without leading zeros, at most 255. -/
def readOctet (cs : List Char) : Option Nat :=
  if 3 < cs.length || (1 < cs.length && cs.head? = some '0') then none
  else (Decimal.readNat 10 cs).filter (· ≤ 255)

/-- An address written as a dotted quad. -/
def read (s : String) : Option Ipv4 :=
  match Text.splitOn '.' s.toList with
  | [a, b, c, d] =>
    return ofOctets (← readOctet a) (← readOctet b) (← readOctet c) (← readOctet d)
  | _ => none

/-- The address at an offset from another, if it is an address. The sum is exact: a sum of 64 bits
that overflows is outside the model, whether it wraps around or ends the program. -/
def offset (base : Ipv4) (offset : Int) : Except AddressError Ipv4 :=
  let value := (base.word.toNat : Int) + offset
  if 0 ≤ value ∧ value < 2 ^ 32 then .ok ⟨UInt32.ofNat value.toNat⟩
  else .error (.outOfRange base offset)

end Ipv4

def AddressError.message : AddressError → String
  | missing option => "missing " ++ option
  | invalidAddress text => "invalid IPv4 address '" ++ text ++ "'"
  | invalidNetmask text => "invalid netmask '" ++ text ++ "'"
  | outOfRange base offset =>
    base.text ++ " + " ++ toString offset ++ " is outside the IPv4 address space"

namespace Netmask

/-- A word shifted to the left, by less than its width. -/
def shiftLeft (word : UInt32) (bits : Fin 32) : UInt32 :=
  word <<< UInt32.ofNat bits

/-- The mask of a prefix length: ones, shifted past the bits of the hosts. The empty prefix leaves
all bits to the hosts, and no word can be shifted that far. -/
def ofPrefix (length : Fin 33) : UInt32 :=
  if h : length = 0 then 0
  else shiftLeft 0xFFFFFFFF ⟨32 - length, by omega⟩

/-- How many ones stand at the left end of a word. -/
def leadingOnes (word : UInt32) : Nat :=
  (~~~word).toBitVec.clz.toNat

/-- How many zeros stand at the right end of a word. -/
def trailingZeros (word : UInt32) : Nat :=
  word.toBitVec.ctz.toNat

/-- Whether the bits of a mask are ones followed by zeros: then there is nothing between the two. -/
def isContiguous (mask : UInt32) : Bool :=
  leadingOnes mask + trailingZeros mask = 32

/-- A prefix length or an address; a number of 8 bits is never tried as an address. -/
def read (s : String) : Except AddressError UInt32 :=
  let invalid := .error (.invalidNetmask s)
  let trimmed := Text.trim s
  match (Decimal.readPlusNat 10 trimmed.toList).filter (· ≤ 255) with
  | some length => if h : length < 33 then .ok (ofPrefix ⟨length, h⟩) else invalid
  | none =>
    match Ipv4.read trimmed with
    | some a => if isContiguous a.word then .ok a.word else invalid
    | none => invalid

end Netmask

/-- The network that an address belongs to under a netmask, both as text. -/
def Ipv4.network (address netmask : String) : Except AddressError Ipv4 :=
  match Ipv4.read (Text.trim address) with
  | none => .error (.invalidAddress address)
  | some a => do
    let mask ← Netmask.read netmask
    return ⟨a.word &&& mask⟩

end RouterConf
