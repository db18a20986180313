/-!
# Byte strings

Bytes are lists, so that every law about them is an induction.  Scalars travel as a fixed number
of bytes, least significant first: `Bytes.ofNat` writes one and `Bytes.toNat` reads it back.
-/

namespace SqlClient

/-- A string of bytes. -/
abbrev Bytes := List UInt8

namespace Bytes

/-- The `width` low bytes of `n`, least significant first. -/
def ofNat : (width n : Nat) → Bytes
  | 0, _ => []
  | width + 1, n => UInt8.ofNat n :: ofNat width (n / 256)

/-- The number written least significant byte first. -/
def toNat : Bytes → Nat
  | [] => 0
  | b :: rest => b.toNat + 256 * toNat rest

@[simp] theorem length_ofNat (width n : Nat) : (ofNat width n).length = width := by
  induction width generalizing n with
  | zero => rfl
  | succ width ih => simp [ofNat, ih]

/-- `data` written over `content` from `offset` on.  Bytes outside the written range stay; a gap
before `offset` is filled with zeros. -/
def overwrite (content : Bytes) (offset : Nat) (data : Bytes) : Bytes :=
  content.take offset ++ List.replicate (offset - content.length) 0 ++ data ++
    content.drop (offset + data.length)

@[simp] theorem length_overwrite (content : Bytes) (offset : Nat) (data : Bytes) :
    (content.overwrite offset data).length = max content.length (offset + data.length) := by
  simp only [overwrite, List.length_append, List.length_take, List.length_replicate,
    List.length_drop]
  omega

end Bytes
end SqlClient
