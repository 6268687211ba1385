import ConstraintTree.TreeError
import ConstraintTree.Snapshot.Bytes

/-!
Text as UTF-8 bytes. Whether bytes are text is decided by the standard encoding; when they are not,
a scan locates the first sequence that no text contains.
-/
namespace ConstraintTree.Utf8

def encode (text : String) : Bytes := text.toUTF8.data.toList

/-- What a sequence still owes: the range of its next byte, and how many bytes follow that one. -/
structure Owed where
  least : UInt8
  greatest : UInt8
  further : Nat
  deriving DecidableEq, Repr

def Owed.any (further : Nat) : Owed := ⟨0x80, 0xBF, further⟩

/-- What a first byte calls for: nothing after a single byte, and `none` for a byte that starts no
sequence. Overlong forms, surrogates and values above the last character are shut out by the range
of the second byte. -/
def afterFirst (byte : UInt8) : Option (Option Owed) :=
  if byte ≤ 0x7F then some none
  else if 0xC2 ≤ byte ∧ byte ≤ 0xDF then some (some (.any 0))
  else if byte = 0xE0 then some (some ⟨0xA0, 0xBF, 1⟩)
  else if byte = 0xED then some (some ⟨0x80, 0x9F, 1⟩)
  else if 0xE1 ≤ byte ∧ byte ≤ 0xEF then some (some (.any 1))
  else if byte = 0xF0 then some (some ⟨0x90, 0xBF, 2⟩)
  else if 0xF1 ≤ byte ∧ byte ≤ 0xF3 then some (some (.any 2))
  else if byte = 0xF4 then some (some ⟨0x80, 0x8F, 2⟩)
  else none

/-- Scans on from a sequence that starts at `start`, has `taken` bytes and owes more, or from
between two sequences when nothing is owed. -/
def scan (start taken : Nat) : Option Owed → Bytes → Option Utf8Fault
  | none, [] => none
  | none, byte :: rest =>
    match afterFirst byte with
    | some none => scan (start + 1) 0 none rest
    | some owed => scan start 1 owed rest
    | none => some ⟨start, some 1⟩
  | some _, [] => some ⟨start, none⟩
  | some owed, byte :: rest =>
    if owed.least ≤ byte ∧ byte ≤ owed.greatest then
      match owed.further with
      | 0 => scan (start + taken + 1) 0 none rest
      | further + 1 => scan start (taken + 1) (some (.any further)) rest
    else some ⟨start, some taken⟩

/-- The first fault of bytes that are no text. -/
def fault (bytes : Bytes) : Utf8Fault :=
  (scan 0 0 none bytes).getD ⟨bytes.length, none⟩

def decode (bytes : Bytes) : Except Utf8Fault String :=
  match String.fromUTF8? bytes.toByteArray with
  | some text => .ok text
  | none => .error (fault bytes)

theorem decode_encode (text : String) : decode (encode text) = .ok text := by
  have same : (encode text).toByteArray = text.toUTF8 := by
    ext1
    simp [encode]
  have valid : text.toUTF8.IsValidUTF8 := text.isValidUTF8
  simp only [decode, same, String.fromUTF8?, valid, ↓reduceDIte]
  rfl

theorem eq_encode_of_decode {bytes : Bytes} {text : String} (found : decode bytes = .ok text) :
    bytes = encode text := by
  simp only [decode, String.fromUTF8?] at found
  split at found
  · rename_i read same
    split at same
    · cases found
      rw [← Option.some.inj same]
      simp [encode, String.fromUTF8]
    · simp at same
  · simp at found

end ConstraintTree.Utf8
