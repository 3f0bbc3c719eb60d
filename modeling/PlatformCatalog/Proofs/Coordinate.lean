import Mathlib.Tactic.Common
import PlatformCatalog.Coordinate

namespace PlatformCatalog.Coordinate

variable {s : String} {c d : Coordinate}

theorem intercalate_fields (s : String) :
    [':'].intercalate ((fields s).map String.toList) = s.toList := by
  have h : (fields s).map String.toList = s.toList.splitOn ':' := by
    simp [fields, Function.comp_def]
  rw [h, List.intercalate_splitOn]

theorem toList_text (c : Coordinate) :
    c.text.toList = [':'].intercalate [c.group.toList, c.artifact.toList, c.version.toList] := by
  simp [text, List.intercalate_cons_cons]

theorem parse_eq_ok_iff :
    (parse s = .ok c) ↔ (fields s = [c.group, c.artifact, c.version]) ∧
      (c.group ≠ "") ∧ (c.artifact ≠ "") ∧ (c.version ≠ "") := by
  constructor
  case mp =>
    intro h
    simp only [parse] at h
    split at h
    case h_1 group artifact version hf =>
      split_ifs at h with hg ha hv
      cases h
      exact ⟨hf, hg, ha, hv⟩
    case h_2 => contradiction
  case mpr =>
    intro ⟨hf, hg, ha, hv⟩
    simp [parse, hf, hg, ha, hv]

theorem text_of_parse (h : parse s = .ok c) : c.text = s := by
  have hf := (parse_eq_ok_iff.mp h).left
  have hs := intercalate_fields s
  rw [hf] at hs
  apply String.toList_injective
  rw [toList_text, ←hs]
  rfl

structure IsField (s : String) : Prop where
  nonempty : s ≠ ""
  no_colon : ':' ∉ s.toList

structure WellFormed (c : Coordinate) : Prop where
  group    : IsField c.group
  artifact : IsField c.artifact
  version  : IsField c.version

theorem length_fields (s : String) : (fields s).length = s.toList.count ':' + 1 := by
  rw [fields, List.length_map, List.splitOn_eq_splitOnP]
  induction s.toList
  case nil => rfl
  case cons x xs hi =>
    rw [List.splitOnP_cons_eq_if_modifyHead]
    by_cases h : x = ':'
    case pos => simp [h, hi]
    case neg => simp [h, hi]

theorem count_colon_text (c : Coordinate) :
    c.text.toList.count ':' =
      c.group.toList.count ':' + c.artifact.toList.count ':' + c.version.toList.count ':' + 2 := by
  simp [text]
  omega

-- No field has a colon, so that the fields can be told apart in the text.
def NoColon (c : Coordinate) : Prop :=
  ':' ∉ c.group.toList ∧ ':' ∉ c.artifact.toList ∧ ':' ∉ c.version.toList

theorem NoColon.fields_text (h : c.NoColon) :
    fields c.text = [c.group, c.artifact, c.version] := by
  have hf : ∀ f ∈ [c.group.toList, c.artifact.toList, c.version.toList], ':' ∉ f := by
    simpa [NoColon] using h
  rw [fields, toList_text, List.splitOn_intercalate ':' hf (by simp)]
  simp

theorem noColon_of_parse_text (h : parse c.text = .ok d) : c.NoColon := by
  have hl := length_fields c.text
  rw [(parse_eq_ok_iff.mp h).left, count_colon_text] at hl
  simp only [List.length_cons, List.length_nil] at hl
  simp only [NoColon, ←List.count_eq_zero]
  omega

theorem parse_text_eq_ok_iff : (parse c.text = .ok d) ↔ (d = c ∧ c.WellFormed) := by
  constructor
  case mp =>
    intro h
    have hn := noColon_of_parse_text h
    have ⟨hf, hg, ha, hv⟩ := parse_eq_ok_iff.mp h
    rw [hn.fields_text] at hf
    have hd : d = c := by
      cases c; cases d
      simp_all
    subst hd
    exact ⟨rfl, ⟨hg, hn.left⟩, ⟨ha, hn.right.left⟩, ⟨hv, hn.right.right⟩⟩
  case mpr =>
    intro ⟨hd, h⟩
    subst hd
    have hn : d.NoColon := ⟨h.group.no_colon, h.artifact.no_colon, h.version.no_colon⟩
    exact parse_eq_ok_iff.mpr
      ⟨hn.fields_text, h.group.nonempty, h.artifact.nonempty, h.version.nonempty⟩

theorem wellFormed_of_parse (h : parse s = .ok c) : c.WellFormed := by
  rw [←text_of_parse h] at h
  exact (parse_text_eq_ok_iff.mp h).right

end PlatformCatalog.Coordinate
