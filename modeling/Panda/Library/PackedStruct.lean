import Mathlib.Algebra.BigOperators.Group.List.Basic
import Mathlib.Tactic.Ring

/-!
Packed records of little endian fields: the bytes of a struct without padding, and
how `struct.unpack` reads them with a format string.
-/

namespace Panda.Library

/-! ### One field -/

/-- The lowest bytes of a number, the lowest one first. -/
def littleEndian : Nat → Nat → List UInt8
  | 0, _ => []
  | width + 1, value => UInt8.ofNat value :: littleEndian width (value / 256)

def ofLittleEndian : List UInt8 → Nat
  | [] => 0
  | byte :: bytes => byte.toNat + 256 * ofLittleEndian bytes

@[simp] theorem littleEndian_length (width value : Nat) :
    (littleEndian width value).length = width := by
  induction width generalizing value with
  | zero => rfl
  | succ width ih => rw [littleEndian, List.length_cons, ih]

theorem ofLittleEndian_littleEndian {width value : Nat} (h : value < 256 ^ width) :
    ofLittleEndian (littleEndian width value) = value := by
  induction width generalizing value with
  | zero => exact (Nat.lt_one_iff.mp h).symm
  | succ width ih =>
      have hrest : value / 256 < 256 ^ width := by
        rw [Nat.div_lt_iff_lt_mul (by decide), ← Nat.pow_succ]
        exact h
      rw [littleEndian, ofLittleEndian, ih hrest, UInt8.toNat_ofNat']
      exact Nat.mod_add_div value 256

/-- The characters `B`, `H`, `I` and `f` of a format. -/
inductive FieldType where
  | uchar
  | ushort
  | uint
  | float
deriving DecidableEq

def FieldType.width : FieldType → Nat
  | .uchar => 1
  | .ushort => 2
  | .uint => 4
  | .float => 4

def FieldType.ofChar : Char → Option FieldType
  | 'B' => some .uchar
  | 'H' => some .ushort
  | 'I' => some .uint
  | 'f' => some .float
  | _ => none

/-- A value that was unpacked. A float is its bit pattern. -/
inductive FieldValue where
  | int (value : Nat)
  | float (bits : Nat)
deriving DecidableEq

def FieldType.value : FieldType → Nat → FieldValue
  | .float, bits => .float bits
  | _, value => .int value

/-- A member of a struct: what it holds fits into it. -/
structure Member where
  type : FieldType
  value : Nat
  fits : value < 256 ^ type.width

namespace Member

def uint8 (value : UInt8) : Member := ⟨.uchar, value.toNat, value.toNat_lt⟩

def uint16 (value : UInt16) : Member := ⟨.ushort, value.toNat, value.toNat_lt⟩

def uint32 (value : UInt32) : Member := ⟨.uint, value.toNat, value.toNat_lt⟩

/-- A float with these bits. -/
def float (bits : UInt32) : Member := ⟨.float, bits.toNat, bits.toNat_lt⟩

/-- A member in memory. -/
def bytes (m : Member) : List UInt8 := littleEndian m.type.width m.value

/-- What `struct` reads of it. -/
def read (m : Member) : FieldValue := m.type.value m.value

@[simp] theorem bytes_length (m : Member) : m.bytes.length = m.type.width :=
  littleEndian_length _ _

@[simp] theorem read_uint8 (value : UInt8) : (uint8 value).read = .int value.toNat := rfl

@[simp] theorem read_uint16 (value : UInt16) : (uint16 value).read = .int value.toNat := rfl

@[simp] theorem read_uint32 (value : UInt32) : (uint32 value).read = .int value.toNat := rfl

@[simp] theorem read_float (bits : UInt32) : (float bits).read = .float bits.toNat := rfl

end Member

/-! ### Records -/

/-- A packed struct in memory. -/
def packed (members : List Member) : List UInt8 := members.flatMap Member.bytes

/-- The size of a format, `struct.calcsize`. -/
def calcsize (format : List FieldType) : Nat := (format.map FieldType.width).sum

/-- The values of the fields, each at the end of the field before it. -/
def unpackFields : List FieldType → List UInt8 → List FieldValue
  | [], _ => []
  | type :: format, dat =>
      type.value (ofLittleEndian (dat.take type.width)) :: unpackFields format (dat.drop type.width)

/-- `struct.unpack`: a buffer of another size is an error. -/
def structUnpack (format : List FieldType) (dat : List UInt8) : Option (List FieldValue) :=
  if dat.length = calcsize format then some (unpackFields format dat) else none

/-- A format string of little endian fields. -/
def structFormat (format : String) : Option (List FieldType) :=
  match format.toList with
  | '<' :: fields => fields.mapM FieldType.ofChar
  | _ => none

theorem packed_length (members : List Member) :
    (packed members).length = calcsize (members.map Member.type) := by
  induction members with
  | nil => rfl
  | cons m members ih =>
      have hcons : packed (m :: members) = m.bytes ++ packed members := rfl
      rw [hcons, List.length_append, ih, Member.bytes_length]
      simp only [calcsize, List.map_cons, List.sum_cons]

theorem unpackFields_packed (members : List Member) :
    unpackFields (members.map Member.type) (packed members) = members.map Member.read := by
  induction members with
  | nil => rfl
  | cons m members ih =>
      have hcons : packed (m :: members) = m.bytes ++ packed members := rfl
      have hwidth := m.bytes_length
      rw [List.map_cons, List.map_cons, unpackFields, hcons, List.take_left' hwidth,
        List.drop_left' hwidth, ih, Member.bytes, ofLittleEndian_littleEndian m.fits]
      rfl

/-- A format with the types of the members reads back what the struct holds. -/
theorem structUnpack_packed {format : List FieldType} {members : List Member}
    (h : members.map Member.type = format) :
    structUnpack format (packed members) = some (members.map Member.read) := by
  rw [structUnpack, ← h, if_pos (packed_length members), unpackFields_packed]

end Panda.Library
