namespace ConstraintTree

abbrev Bytes := List UInt8

namespace Bytes

/-- The lowest `width` base-256 digits of a number, the least significant first. -/
def ofNat : (width value : Nat) → Bytes
  | 0, _ => []
  | width + 1, value => UInt8.ofNat value :: ofNat width (value / 256)

/-- The number whose base-256 digits are given, the least significant first. -/
def toNat : Bytes → Nat
  | [] => 0
  | byte :: rest => byte.toNat + 256 * toNat rest

/-- How many numbers a width can hold. -/
def capacity : (width : Nat) → Nat
  | 0 => 1
  | width + 1 => 256 * capacity width

/-- Splits off exactly `count` bytes, if there are as many. -/
def split? : Nat → Bytes → Option (Bytes × Bytes)
  | 0, bytes => some ([], bytes)
  | _ + 1, [] => none
  | count + 1, byte :: rest =>
    match split? count rest with
    | some (front, back) => some (byte :: front, back)
    | none => none

@[simp] theorem length_ofNat (width value : Nat) : (ofNat width value).length = width := by
  induction width generalizing value with
  | zero => rfl
  | succ width ih => simp [ofNat, ih]

/-- Reading a written number back gives it modulo the capacity of the width. -/
theorem toNat_ofNat (width value : Nat) : toNat (ofNat width value) = value % capacity width := by
  induction width generalizing value with
  | zero => simp [ofNat, toNat, capacity, Nat.mod_one]
  | succ width ih =>
    rw [capacity, Nat.mod_mul, ofNat, toNat, ih, UInt8.toNat_ofNat']

/-- Every byte string is the writing of the number it reads as. -/
theorem ofNat_toNat (bytes : Bytes) : ofNat bytes.length (toNat bytes) = bytes := by
  induction bytes with
  | nil => rfl
  | cons byte rest ih =>
    have low : UInt8.ofNat (byte.toNat + 256 * toNat rest) = byte := by
      apply UInt8.toNat_inj.mp
      have small := byte.toNat_lt
      simp only [UInt8.toNat_ofNat']
      omega
    have high : (byte.toNat + 256 * toNat rest) / 256 = toNat rest := by
      have small := byte.toNat_lt
      omega
    simp [ofNat, toNat, low, high, ih]

theorem toNat_lt (bytes : Bytes) : toNat bytes < capacity bytes.length := by
  induction bytes with
  | nil => decide
  | cons byte rest ih =>
    have small := byte.toNat_lt
    simp only [toNat, List.length_cons, capacity]
    omega

theorem split?_append (front back : Bytes) :
    split? front.length (front ++ back) = some (front, back) := by
  induction front with
  | nil => cases back <;> rfl
  | cons byte rest ih => simp [split?, ih]

theorem eq_append_of_split? {count : Nat} {bytes front back : Bytes}
    (found : split? count bytes = some (front, back)) :
    bytes = front ++ back ∧ front.length = count := by
  induction count generalizing bytes front with
  | zero =>
    cases bytes <;> simp_all [split?]
  | succ count ih =>
    cases bytes with
    | nil => simp [split?] at found
    | cons byte rest =>
      simp only [split?] at found
      split at found
      · rename_i inner outer same
        obtain ⟨rfl, rfl⟩ := Prod.mk.inj (Option.some.inj found)
        obtain ⟨rfl, rfl⟩ := ih same
        exact ⟨rfl, rfl⟩
      · simp at found

/-- Splitting fails exactly when there are too few bytes. -/
theorem split?_eq_none_iff {count : Nat} {bytes : Bytes} :
    split? count bytes = none ↔ bytes.length < count := by
  constructor
  · intro failed
    apply Nat.lt_of_not_le
    intro enough
    have found := split?_append (bytes.take count) (bytes.drop count)
    simp [Nat.min_eq_left enough, failed] at found
  · intro short
    cases found : split? count bytes with
    | none => rfl
    | some parts =>
      obtain ⟨front, back⟩ := parts
      obtain ⟨same, length⟩ := eq_append_of_split? found
      rw [same, List.length_append] at short
      omega

end Bytes
end ConstraintTree
