namespace PlatformCatalog

abbrev Bytes := List UInt8

namespace Text

def bytes (s : String) : Bytes :=
  s.toList.flatMap String.utf8EncodeChar

def Before (a b : String) : Prop :=
  bytes a < bytes b

instance : DecidableRel Before :=
  fun a b => inferInstanceAs (Decidable (bytes a < bytes b))

def decode? (bs : Bytes) : Option String :=
  String.fromUTF8? bs.toByteArray

theorem toByteArray_bytes (s : String) : (bytes s).toByteArray = s.toByteArray := by
  have h := String.toByteArray_ofList (l := s.toList)
  rw [String.ofList_toList] at h
  rw [h, bytes, List.utf8Encode]

theorem bytes_injective {a b : String} (h : bytes a = bytes b) : a = b := by
  rw [← String.toByteArray_inj, ← toByteArray_bytes a, ← toByteArray_bytes b, h]

@[simp] theorem bytes_empty : bytes "" = [] := rfl

@[simp] theorem bytes_append (a b : String) : bytes (a ++ b) = bytes a ++ bytes b := by
  simp [bytes]

theorem length_bytes (s : String) : (bytes s).length = s.utf8ByteSize := by
  rw [← String.size_toByteArray, ← toByteArray_bytes, List.size_toByteArray]

@[simp] theorem decode?_bytes (s : String) : decode? (bytes s) = some s := by
  have h : s.toByteArray.IsValidUTF8 := s.isValidUTF8
  rw [decode?, toByteArray_bytes, String.fromUTF8?]
  simp [h, String.fromUTF8]

theorem not_before_self (a : String) : ¬Before a a :=
  List.lt_irrefl _

theorem Before.ne {a b : String} (h : Before a b) : a ≠ b :=
  fun e => not_before_self b (e ▸ h)

theorem Before.trans {a b c : String} (h₁ : Before a b) (h₂ : Before b c) : Before a c :=
  List.lt_trans h₁ h₂

theorem Before.asymm {a b : String} (h : Before a b) : ¬Before b a :=
  fun h' => not_before_self a (h.trans h')

theorem before_of_not_before {a b : String} (h : ¬Before a b) (hne : a ≠ b) : Before b a := by
  have ht := (Std.lt_trichotomy (bytes a) (bytes b)).resolve_left h
  exact ht.resolve_left fun he => hne (bytes_injective he)

def continuation? (b : UInt8) : Option Nat :=
  if 0x80 ≤ b ∧ b ≤ 0xBF then some (b.toNat - 0x80) else none

-- What a leading byte announces: its own bits, how many continuation bytes follow, and the range in
-- which the first of them has to lie.
def lead? (b : UInt8) : Option (Nat × Nat × UInt8 × UInt8) :=
  if b < 0x80 then some (b.toNat, 0, 0, 0)
  else if b < 0xC2 then none
  else if b < 0xE0 then some (b.toNat - 0xC0, 1, 0x80, 0xBF)
  else if b = 0xE0 then some (0, 2, 0xA0, 0xBF)
  else if b = 0xED then some (0xD, 2, 0x80, 0x9F)
  else if b < 0xF0 then some (b.toNat - 0xE0, 2, 0x80, 0xBF)
  else if b = 0xF0 then some (0, 3, 0x90, 0xBF)
  else if b < 0xF4 then some (b.toNat - 0xF0, 3, 0x80, 0xBF)
  else if b = 0xF4 then some (4, 3, 0x80, 0x8F)
  else none

-- Adds up to `n` continuation bytes to `code`: the code point, or `none` when the bytes break off,
-- and how many bytes belong together.
def continued (code taken : Nat) : Nat → Bytes → Option Nat × Nat
  | 0, _ => (some code, taken)
  | _ + 1, [] => (none, taken)
  | n + 1, b :: rest =>
    match continuation? b with
    | some v => continued (code * 64 + v) (taken + 1) n rest
    | none => (none, taken)

-- The character at the head of `b :: rest`, and how many bytes of `rest` it takes up. A broken
-- character takes up all the bytes that could still have been part of it.
def leading (b : UInt8) (rest : Bytes) : Char × Nat :=
  match lead? b with
  | none => ('\uFFFD', 0)
  | some (code, 0, _, _) => (Char.ofNat code, 0)
  | some (code, n + 1, lo, hi) =>
    match rest with
    | [] => ('\uFFFD', 0)
    | c :: _ =>
      if lo ≤ c ∧ c ≤ hi then
        match continued code 0 (n + 1) rest with
        | (some v, taken) => (Char.ofNat v, taken)
        | (none, taken) => ('\uFFFD', taken)
      else ('\uFFFD', 0)

def decodeLossyChars : Bytes → List Char
  | [] => []
  | b :: rest => (leading b rest).1 :: decodeLossyChars (rest.drop (leading b rest).2)
termination_by bs => bs.length
decreasing_by simp only [List.length_drop, List.length_cons]; omega

def decodeLossy (bs : Bytes) : String :=
  String.ofList (decodeLossyChars bs)

end Text
end PlatformCatalog
