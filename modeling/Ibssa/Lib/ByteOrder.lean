import Mathlib.Order.Basic

/-!
# Network byte order on a little-endian host

A field declared in network order holds the bytes of a number, most
significant first. `Be16`, `Be32` and `Be64` are such fields, represented by the
number they stand for: storing through the host-to-network conversion and
reading through its inverse is then the identity, and a number can only get
in or out through one of the two.

Code that forgets a conversion works on the same bytes as a host number.
`Be64.raw` and `Be64.ofRaw` are that reinterpretation: the bytes in reverse.
-/

namespace ByteOrder

instance uint64LinearOrder : LinearOrder UInt64 where
  le_refl a := UInt64.le_refl a
  le_trans _ _ _ := UInt64.le_trans
  le_antisymm _ _ := UInt64.le_antisymm
  le_total := UInt64.le_total
  lt_iff_le_not_ge a b := by
    rw [UInt64.lt_iff_toNat_lt, UInt64.le_iff_toNat_le, UInt64.le_iff_toNat_le]
    omega
  toDecidableLE := inferInstance
  toDecidableEq := inferInstance
  toDecidableLT := inferInstance

/-- A 16-bit field in network order, by the number it stands for. -/
structure Be16 where
  host : UInt16
deriving DecidableEq, Inhabited, Repr

/-- A 32-bit field in network order, by the number it stands for. -/
structure Be32 where
  host : UInt32
deriving DecidableEq, Inhabited, Repr

/-- A 64-bit field in network order, by the number it stands for. -/
structure Be64 where
  host : Nat
deriving DecidableEq, Inhabited, Repr

def htons (n : UInt16) : Be16 := ⟨n⟩

def ntohs (b : Be16) : UInt16 := b.host

def htonl (n : UInt32) : Be32 := ⟨n⟩

def ntohl (b : Be32) : UInt32 := b.host

def htonll (n : Nat) : Be64 := ⟨n⟩

def ntohll (b : Be64) : Nat := b.host

@[simp] theorem ntohs_htons (n : UInt16) : ntohs (htons n) = n := rfl

@[simp] theorem ntohll_htonll (n : Nat) : ntohll (htonll n) = n := rfl

/-- The low `n` bytes of a number, least significant first. -/
def toBytes : Nat → Nat → List Nat
  | 0, _ => []
  | n + 1, x => x % 256 :: toBytes n (x / 256)

/-- The number a list of bytes spells, least significant first. -/
def ofBytes : List Nat → Nat
  | [] => 0
  | b :: bs => b + 256 * ofBytes bs

/-- A 64-bit number with its bytes in reverse. -/
def bswap64 (x : UInt64) : UInt64 := UInt64.ofNat (ofBytes (toBytes 8 x.toNat).reverse)

/-- The field's bytes read as a host number, without conversion. -/
def Be64.raw (b : Be64) : UInt64 := bswap64 (UInt64.ofNat b.host)

/-- A host number's bytes stored into the field, without conversion. -/
def Be64.ofRaw (x : UInt64) : Be64 := ⟨(bswap64 x).toNat⟩

end ByteOrder
