import Mathlib.Tactic.Ring
import Ibssa.Lib.ByteOrder

/-!
# Reading a record by a description of it

A record is written member by member, and read by somebody who does not know
its members but has been told where a field begins, how long it is, and how
wide its elements are, all in bits. `numbers` is that reader: it cuts the
elements out of the bits it is given and takes each as a number, most
significant bit first.

`numbers_members` says when the reader sees a member: at the sum of the widths
before it, over its own width, in elements of its own size. The values play no
part in that, so a description is right for every record or for none.
-/

namespace ByteOrder

/-! ## Bits -/

/-- The bits of a byte, most significant first. -/
def byteBits (b : UInt8) : List Bool := (List.range 8).map fun i => b.toNat.testBit (7 - i)

def bits (bytes : List UInt8) : List Bool := bytes.flatMap byteBits

/-- `size` bits from bit `off` on. -/
def slice (off size : Nat) (bs : List Bool) : List Bool := (bs.drop off).take size

/-- The number that bits spell, most significant first. -/
def ofBits (bs : List Bool) : Nat := bs.foldl (fun n b => 2 * n + b.toNat) 0

/-- The numbers that bits spell in elements of `w` bits. -/
def numbers (w : Nat) (bs : List Bool) : List Nat :=
  (List.range (bs.length / w)).map fun i => ofBits (slice (w * i) w bs)

@[simp] theorem length_byteBits (b : UInt8) : (byteBits b).length = 8 := by
  rw [byteBits, List.length_map, List.length_range]

theorem bits_cons (b : UInt8) (l : List UInt8) : bits (b :: l) = byteBits b ++ bits l :=
  List.flatMap_cons

theorem bits_append (l l' : List UInt8) : bits (l ++ l') = bits l ++ bits l' :=
  List.flatMap_append

@[simp] theorem length_bits (l : List UInt8) : (bits l).length = 8 * l.length := by
  induction l with
  | nil => rfl
  | cons b rest ih =>
      rw [bits_cons, List.length_append, length_byteBits, ih, List.length_cons]
      omega

/-- Where everything is written in `w` bits, item `i` is `w` bits from bit `w * i` on. -/
theorem slice_flatMap {β : Type} {enc : β → List Bool} {w : Nat} {l : List β}
    (hw : ∀ x ∈ l, (enc x).length = w) {i : Nat} (hi : i < l.length) :
    slice (w * i) w (l.flatMap enc) = enc l[i] := by
  induction l generalizing i with
  | nil => exact absurd hi (Nat.not_lt_zero i)
  | cons x rest ih =>
      have hx := hw x List.mem_cons_self
      cases i with
      | zero =>
          rw [slice, Nat.mul_zero, List.drop_zero, List.flatMap_cons, List.take_left' hx]
          rfl
      | succ i =>
          have hrest := ih (fun y hy => hw y (List.mem_cons_of_mem x hy))
            (Nat.lt_of_succ_lt_succ hi)
          have hdrop : (enc x ++ rest.flatMap enc).drop (w * (i + 1))
              = (rest.flatMap enc).drop (w * i) := by
            rw [Nat.mul_succ, Nat.add_comm, ← List.drop_drop, List.drop_left' hx]
          rw [List.getElem_cons_succ, ← hrest, slice, List.flatMap_cons, hdrop]
          rfl

private theorem foldl_ofBits (bs : List Bool) (n : Nat) :
    bs.foldl (fun n b => 2 * n + b.toNat) n = n * 2 ^ bs.length + ofBits bs := by
  induction bs generalizing n with
  | nil => simp [ofBits]
  | cons b rest ih =>
      have hcons : ofBits (b :: rest) = b.toNat * 2 ^ rest.length + ofBits rest := by
        rw [ofBits, List.foldl_cons, Nat.mul_zero, Nat.zero_add, ih]
      rw [List.foldl_cons, ih, hcons, List.length_cons, pow_succ]
      ring

theorem ofBits_append (xs ys : List Bool) :
    ofBits (xs ++ ys) = ofBits xs * 2 ^ ys.length + ofBits ys := by
  rw [ofBits, List.foldl_append, foldl_ofBits]
  rfl

/-- A byte is spelt by its bits. -/
theorem ofBits_byteBits (b : UInt8) : ofBits (byteBits b) = b.toNat := by
  have hall : ∀ n < 256, ofBits ((List.range 8).map fun i => Nat.testBit n (7 - i)) = n := by
    decide +kernel
  exact hall b.toNat b.toNat_lt

/-! ## Bytes -/

/-- The low `n` bytes of a number, most significant first. -/
def toBytesNet (n x : Nat) : List UInt8 := ((toBytes n x).map UInt8.ofNat).reverse

@[simp] theorem length_toBytes (n x : Nat) : (toBytes n x).length = n := by
  induction n generalizing x with
  | zero => rfl
  | succ n ih => rw [toBytes, List.length_cons, ih]

@[simp] theorem length_toBytesNet (n x : Nat) : (toBytesNet n x).length = n := by
  rw [toBytesNet, List.length_reverse, List.length_map, length_toBytes]

theorem toBytesNet_succ (n x : Nat) :
    toBytesNet (n + 1) x = toBytesNet n (x / 256) ++ [UInt8.ofNat (x % 256)] := by
  rw [toBytesNet, toBytes, List.map_cons, List.reverse_cons]
  rfl

/-- The bits of a number's bytes spell the number. -/
theorem ofBits_toBytesNet (n x : Nat) : ofBits (bits (toBytesNet n x)) = x % 256 ^ n := by
  induction n generalizing x with
  | zero =>
      rw [pow_zero, Nat.mod_one]
      rfl
  | succ n ih =>
      have hlast : bits [UInt8.ofNat (x % 256)] = byteBits (UInt8.ofNat (x % 256)) :=
        List.append_nil _
      have hbyte : (UInt8.ofNat (x % 256)).toNat = x % 256 := by simp
      rw [toBytesNet_succ, bits_append, hlast, ofBits_append, length_byteBits, ofBits_byteBits,
        hbyte, ih, pow_succ' 256 n, Nat.mod_mul]
      omega

/-! ## Bytes in reverse -/

theorem ofBytes_append (l l' : List Nat) :
    ofBytes (l ++ l') = ofBytes l + 256 ^ l.length * ofBytes l' := by
  induction l with
  | nil => simp [ofBytes]
  | cons b rest ih =>
      rw [List.cons_append, ofBytes, ih, ofBytes, List.length_cons, pow_succ]
      ring

theorem ofBytes_lt {l : List Nat} (h : ∀ b ∈ l, b < 256) : ofBytes l < 256 ^ l.length := by
  induction l with
  | nil => exact Nat.one_pos
  | cons b rest ih =>
      have hb := h b List.mem_cons_self
      have hrest := ih fun c hc => h c (List.mem_cons_of_mem b hc)
      rw [ofBytes, List.length_cons, pow_succ]
      omega

theorem toBytes_ofBytes {l : List Nat} (h : ∀ b ∈ l, b < 256) :
    toBytes l.length (ofBytes l) = l := by
  induction l with
  | nil => rfl
  | cons b rest ih =>
      have hb := h b List.mem_cons_self
      have hrest := ih fun c hc => h c (List.mem_cons_of_mem b hc)
      have hmod : (b + 256 * ofBytes rest) % 256 = b := by omega
      have hdiv : (b + 256 * ofBytes rest) / 256 = ofBytes rest := by omega
      rw [List.length_cons, ofBytes, toBytes, hmod, hdiv, hrest]

theorem toBytes_lt {n x y : Nat} (h : y ∈ toBytes n x) : y < 256 := by
  induction n generalizing x with
  | zero => cases h
  | succ n ih =>
      rcases List.mem_cons.mp h with rfl | hmem
      · exact Nat.mod_lt _ (by decide)
      · exact ih hmem

theorem ofBytes_toBytes (n x : Nat) : ofBytes (toBytes n x) = x % 256 ^ n := by
  induction n generalizing x with
  | zero => simp [toBytes, ofBytes, Nat.mod_one]
  | succ n ih => rw [toBytes, ofBytes, ih, pow_succ' 256 n, Nat.mod_mul]

theorem toNat_bswap64 (x : UInt64) :
    (bswap64 x).toNat = ofBytes (toBytes 8 x.toNat).reverse := by
  have hlt := ofBytes_lt (l := (toBytes 8 x.toNat).reverse) fun b hb =>
    toBytes_lt (List.mem_reverse.mp hb)
  rw [List.length_reverse, length_toBytes] at hlt
  rw [bswap64, UInt64.toNat_ofNat']
  exact Nat.mod_eq_of_lt hlt

@[simp] theorem bswap64_bswap64 (x : UInt64) : bswap64 (bswap64 x) = x := by
  have hback : toBytes 8 (ofBytes (toBytes 8 x.toNat).reverse) = (toBytes 8 x.toNat).reverse := by
    have h := toBytes_ofBytes (l := (toBytes 8 x.toNat).reverse) fun b hb =>
      toBytes_lt (List.mem_reverse.mp hb)
    rw [List.length_reverse, length_toBytes] at h
    exact h
  refine UInt64.toNat_inj.mp ?_
  rw [toNat_bswap64, toNat_bswap64, hback, List.reverse_reverse, ofBytes_toBytes]
  exact Nat.mod_eq_of_lt x.toNat_lt

/-- The least significant byte becomes the most significant one. -/
theorem low_byte_le_bswap64 (x : UInt64) : 256 ^ 7 * (x.toNat % 256) ≤ (bswap64 x).toNat := by
  have hlast : (toBytes 8 x.toNat).reverse = (toBytes 7 (x.toNat / 256)).reverse
      ++ [x.toNat % 256] := by
    rw [toBytes, List.reverse_cons]
  rw [toNat_bswap64, hlast, ofBytes_append, List.length_reverse, length_toBytes]
  exact Nat.le_add_left _ _

/-- What lies in a 64-bit field after its bytes were stored. -/
@[simp] theorem raw_ofRaw (x : UInt64) : (Be64.ofRaw x).raw = x := by
  rw [Be64.raw, Be64.ofRaw, UInt64.ofNat_toNat, bswap64_bswap64]

/-! ## Members -/

/-- A member of a record: an array of numbers of `width` bytes each, most
significant byte first. A single number is an array of one, and bytes are
numbers of one byte. -/
structure Member where
  width : Nat
  values : List Nat
  width_pos : 0 < width
  values_lt : ∀ v ∈ values, v < 256 ^ width

namespace Member

def net16 (x : UInt16) : Member where
  width := 2
  values := [x.toNat]
  width_pos := by decide
  values_lt := by
    intro v hv
    rw [List.mem_singleton.mp hv]
    exact x.toNat_lt

def net64 (x : UInt64) : Member where
  width := 8
  values := [x.toNat]
  width_pos := by decide
  values_lt := by
    intro v hv
    rw [List.mem_singleton.mp hv]
    exact x.toNat_lt

def bytes (l : List UInt8) : Member where
  width := 1
  values := l.map UInt8.toNat
  width_pos := by decide
  values_lt := by
    intro v hv
    obtain ⟨b, _, rfl⟩ := List.mem_map.mp hv
    exact b.toNat_lt

def enc (m : Member) : List UInt8 := m.values.flatMap (toBytesNet m.width)

/-- The width of the whole member, in bytes. -/
def size (m : Member) : Nat := m.width * m.values.length

theorem length_enc (m : Member) : m.enc.length = m.size := by
  rw [enc, size]
  induction m.values with
  | nil => rfl
  | cons v rest ih =>
      rw [List.flatMap_cons, List.length_append, length_toBytesNet, ih, List.length_cons,
        Nat.mul_succ, Nat.add_comm]

private theorem bits_enc (m : Member) :
    bits m.enc = m.values.flatMap fun v => bits (toBytesNet m.width v) := by
  rw [enc, bits, List.flatMap_assoc]
  rfl

/-- The bits of a member spell its values. -/
theorem numbers_enc (m : Member) : numbers (8 * m.width) (bits m.enc) = m.values := by
  have hpos := m.width_pos
  have hcount : (bits m.enc).length / (8 * m.width) = m.values.length := by
    rw [length_bits, length_enc, size, ← Nat.mul_assoc, Nat.mul_div_cancel_left _ (by omega)]
  have hw : ∀ v ∈ m.values, (bits (toBytesNet m.width v)).length = 8 * m.width := by
    intro v _
    rw [length_bits, length_toBytesNet]
  refine List.ext_getElem ?_ ?_
  · rw [numbers, List.length_map, List.length_range, hcount]
  · intro i _ hi
    simp only [numbers, List.getElem_map, List.getElem_range]
    rw [bits_enc, slice_flatMap hw hi, ofBits_toBytesNet,
      Nat.mod_eq_of_lt (m.values_lt _ (List.getElem_mem hi))]

end Member

/-- A record, member by member. -/
def encAll (ms : List Member) : List UInt8 := ms.flatMap Member.enc

/-- Where a member begins, in bytes. -/
def memberOffset (ms : List Member) (i : Nat) : Nat := ((ms.take i).map Member.size).sum

theorem length_encAll (ms : List Member) : (encAll ms).length = (ms.map Member.size).sum := by
  rw [encAll, List.length_flatMap]
  simp only [Member.length_enc]

/-- The bits from a member's place on, as many as it has, are its own. -/
theorem slice_members {ms : List Member} {i : Nat} (hi : i < ms.length) :
    slice (8 * memberOffset ms i) (8 * ms[i].size) (bits (encAll ms)) = bits ms[i].enc := by
  have hsplit : encAll ms = encAll (ms.take i) ++ (ms[i].enc ++ encAll (ms.drop (i + 1))) := by
    have hcut : ms = ms.take i ++ ms[i] :: ms.drop (i + 1) := by
      rw [← List.drop_eq_getElem_cons hi, List.take_append_drop]
    conv_lhs => rw [hcut]
    rw [encAll, List.flatMap_append, List.flatMap_cons]
    rfl
  have hpre : (bits (encAll (ms.take i))).length = 8 * memberOffset ms i := by
    rw [length_bits, length_encAll]
    rfl
  have hlen : (bits ms[i].enc).length = 8 * ms[i].size := by
    rw [length_bits, Member.length_enc]
  rw [slice, hsplit, bits_append, bits_append, ← hpre, List.drop_left, ← hlen, List.take_left]

/-- What is read at a member's place is the member. -/
theorem numbers_members {ms : List Member} {i : Nat} (hi : i < ms.length) :
    numbers (8 * ms[i].width)
        (slice (8 * memberOffset ms i) (8 * ms[i].size) (bits (encAll ms)))
      = ms[i].values := by
  rw [slice_members hi, Member.numbers_enc]

end ByteOrder
