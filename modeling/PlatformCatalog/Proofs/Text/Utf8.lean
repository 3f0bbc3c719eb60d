import Mathlib.Data.List.Infix
import Mathlib.Tactic.Common
import PlatformCatalog.Text.Utf8

namespace PlatformCatalog.Text

variable {p s t : String} {i j : Nat} {pattern bs : Bytes}

theorem length_le_length_encoded (cs : List Char) :
    cs.length ≤ (cs.flatMap String.utf8EncodeChar).length := by
  induction cs
  case nil => simp
  case cons c cs hi =>
    have hc := c.utf8Size_pos
    simp only [List.flatMap_cons, List.length_append, String.length_utf8EncodeChar,
      List.length_cons]
    omega

theorem utf8Size_eq_one_iff_ascii {c : Char} : (c.utf8Size = 1) ↔ (c.toNat < 128) := by
  rw [Char.utf8Size_eq_one_iff, UInt32.le_iff_toNat_le]
  exact Nat.lt_succ_iff.symm

theorem length_eq_length_encoded_iff {cs : List Char} :
    (cs.length = (cs.flatMap String.utf8EncodeChar).length) ↔ (∀ c ∈ cs, c.toNat < 128) := by
  induction cs
  case nil => simp
  case cons c cs hi =>
    have hc := c.utf8Size_pos
    have hl := length_le_length_encoded cs
    rw [List.forall_mem_cons, ←hi, ←utf8Size_eq_one_iff_ascii]
    simp only [List.flatMap_cons, List.length_append, String.length_utf8EncodeChar,
      List.length_cons]
    omega

theorem length_le_length_bytes (s : String) : s.length ≤ (bytes s).length := by
  rw [←String.length_toList]
  exact length_le_length_encoded s.toList

theorem length_eq_length_bytes_iff :
    (s.length = (bytes s).length) ↔ (∀ c ∈ s.toList, c.toNat < 128) := by
  rw [←String.length_toList]
  exact length_eq_length_encoded_iff

theorem exists_append_of_bytes_prefix (h : bytes p <+: bytes t) : ∃ b, t = p ++ b := by
  obtain ⟨bs, h⟩ := h
  have he : p.toList.utf8Encode ++ bs.toByteArray = t.toList.utf8Encode := by
    simp only [List.utf8Encode]
    rw [←List.toByteArray_append]
    exact congrArg List.toByteArray h
  obtain ⟨b, hb⟩ := List.isPrefix_of_utf8Encode_append_eq_utf8Encode bs.toByteArray he
  refine ⟨String.ofList b, ?_⟩
  apply String.toList_injective
  simp [hb]

theorem exists_firstByte (h : p ≠ "") : ∃ b bs, bytes p = b :: bs ∧ b.IsUTF8FirstByte := by
  obtain ⟨c, cs, hc⟩ := List.exists_cons_of_ne_nil (String.toList_eq_nil_iff.not.mpr h)
  cases he : String.utf8EncodeChar c
  case nil => exact absurd he String.utf8EncodeChar_ne_nil
  case cons b bs =>
    have hb := UInt8.isUTF8FirstByte_getElem_zero_utf8EncodeChar (c := c)
    simp only [he, List.getElem_cons_zero] at hb
    exact ⟨b, bs ++ cs.flatMap String.utf8EncodeChar, by simp [bytes, hc, he], hb⟩

theorem isValid_of_firstByte {b : UInt8} (h : (bytes s)[i]? = some b) (hb : b.IsUTF8FirstByte) :
    (String.Pos.Raw.mk i).IsValid s := by
  obtain ⟨hi, h⟩ := List.getElem?_eq_some_iff.mp h
  have hl : String.Pos.Raw.mk i < s.rawEndPos := by
    simpa [String.Pos.Raw.lt_iff, length_bytes] using hi
  refine String.Pos.Raw.isValid_iff_isUTF8FirstByte.mpr (.inr ⟨hl, ?_⟩)
  have hg : s.getUTF8Byte ⟨i⟩ hl = b := by
    simp only [String.getUTF8Byte, ←toByteArray_bytes, List.getElem_toByteArray, h]
  rwa [hg]

theorem exists_append_of_occurs (hp : p ≠ "") (h : bytes p <+: (bytes s).drop i) :
    ∃ a b, s = a ++ p ++ b ∧ a.utf8ByteSize = i := by
  obtain ⟨b, bs, hb, hf⟩ := exists_firstByte hp
  have hi : (bytes s)[i]? = some b := by
    obtain ⟨cs, h⟩ := h
    rw [←List.head?_drop, ←h, hb]
    rfl
  obtain ⟨a, t, hs, ha⟩ := String.Pos.Raw.isValid_iff_exists_append.mp (isValid_of_firstByte hi hf)
  have ha : a.utf8ByteSize = i := congrArg String.Pos.Raw.byteIdx ha.symm
  rw [hs, bytes_append, ←ha, ←length_bytes, List.drop_left] at h
  obtain ⟨b, hb⟩ := exists_append_of_bytes_prefix h
  exact ⟨a, b, by rw [hs, hb, String.append_assoc], ha⟩

theorem drop_bytes_append (a b : String) : (bytes (a ++ b)).drop a.utf8ByteSize = bytes b := by
  rw [bytes_append, ←length_bytes, List.drop_left]

theorem occurs_append (a p b : String) :
    bytes p <+: (bytes (a ++ p ++ b)).drop a.utf8ByteSize := by
  rw [String.append_assoc, drop_bytes_append, bytes_append]
  exact List.prefix_append _ _

structure FirstAt (pattern bs : Bytes) (i : Nat) : Prop where
  here  : pattern <+: bs.drop i
  least : ∀ j, pattern <+: bs.drop j → i ≤ j

theorem FirstAt.exists_append (h : FirstAt (bytes p) (bytes s) i) (hp : p ≠ "") :
    ∃ a b, s = a ++ p ++ b ∧ a.utf8ByteSize = i ∧ ¬p.toList <:+: a.toList := by
  obtain ⟨a, b, rfl, rfl⟩ := exists_append_of_occurs hp h.here
  refine ⟨a, b, rfl, rfl, fun ⟨x, y, hxy⟩ => ?_⟩
  have ha : a = String.ofList x ++ p ++ String.ofList y := by
    apply String.toList_injective
    simp [hxy]
  -- What occurs in `a` begins before the end of `a`.
  have hs : a ++ p ++ b = String.ofList x ++ p ++ (String.ofList y ++ p ++ b) := by
    simp only [ha, String.append_assoc]
  have hl := h.least (String.ofList x).utf8ByteSize (hs ▸ occurs_append _ _ _)
  have hn : p.utf8ByteSize ≠ 0 := by simpa [String.utf8ByteSize_eq_zero_iff] using hp
  simp only [ha, String.utf8ByteSize_append] at hl
  omega

def find? (pattern bs : Bytes) : Option Nat :=
  bs.tails.findIdx? fun rest => pattern.isPrefixOf rest

theorem find?_eq_none_iff : (find? pattern bs = none) ↔ (∀ i, ¬pattern <+: bs.drop i) := by
  simp only [find?, List.findIdx?_eq_none_iff, List.mem_tails, Bool.eq_false_iff, ne_eq,
    List.isPrefixOf_iff_prefix]
  constructor
  case mp => exact fun h i => h _ (List.drop_suffix i bs)
  case mpr =>
    intro h t ht
    rw [List.suffix_iff_eq_drop.mp ht]
    exact h _

theorem find?_eq_some_iff : (find? pattern bs = some i) ↔ (FirstAt pattern bs i) := by
  simp only [find?, List.findIdx?_eq_some_iff_getElem, List.getElem_tails,
    List.isPrefixOf_iff_prefix, List.length_tails]
  constructor
  case mp =>
    rintro ⟨_, hh, hl⟩
    exact ⟨hh, fun j hj => Nat.le_of_not_lt fun hi => hl j hi hj⟩
  case mpr =>
    intro h
    have hi : i ≤ bs.length := by
      by_contra hi
      have hd : bs.drop i = bs.drop bs.length := by simp [Nat.le_of_not_le hi]
      exact hi (h.least _ (hd ▸ h.here))
    exact ⟨Nat.lt_succ_of_le hi, h.here, fun j hj hd => Nat.not_lt.mpr (h.least j hd) hj⟩

-- The part of a text between two byte offsets. It can only be taken if they lie between characters.
def slice? (s : String) (i j : Nat) : Option String :=
  if h : i ≤ j ∧ (String.Pos.Raw.mk i).IsValid s ∧ (String.Pos.Raw.mk j).IsValid s then
    some (s.extract (s.pos ⟨i⟩ h.right.left) (s.pos ⟨j⟩ h.right.right))
  else none

theorem isValid_of_eq_append {a b : String} (h : s = a ++ b) :
    (String.Pos.Raw.mk a.utf8ByteSize).IsValid s :=
  String.Pos.Raw.isValid_iff_exists_append.mpr ⟨a, b, h, rfl⟩

theorem slice?_append (a t b : String) :
    slice? (a ++ t ++ b) a.utf8ByteSize (a ++ t).utf8ByteSize = some t := by
  have hij : a.utf8ByteSize ≤ (a ++ t).utf8ByteSize := by simp
  rw [slice?, dif_pos ⟨hij, isValid_of_eq_append String.append_assoc, isValid_of_eq_append rfl⟩]
  congr 1
  apply String.toByteArray_inj.mp
  simp only [String.toByteArray_extract, String.offset_pos, String.toByteArray_append,
    ←String.size_toByteArray]
  rw [ByteArray.extract_append_size_left,
    ByteArray.extract_append_eq_right rfl ByteArray.size_append]

theorem size_slice? (h : slice? s i j = some t) : t.utf8ByteSize + i = j ∧ j ≤ s.utf8ByteSize := by
  rw [slice?] at h
  split_ifs at h with hv
  cases h
  have hj := hv.right.right.le_utf8ByteSize
  simp [←String.size_toByteArray] at hj ⊢
  omega

end PlatformCatalog.Text
