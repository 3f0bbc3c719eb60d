import PlatformCatalog.Proofs.Platform.Report

namespace PlatformCatalog.Coordinate

variable {s : String} {c d : Coordinate} {f : Field}

def get (c : Coordinate) : Field → String
  | .group => c.group
  | .artifact => c.artifact
  | .version => c.version

def emptyField? (c : Coordinate) : Option Field :=
  [.group, .artifact, .version].find? (c.get · = "")

def colons (c : Coordinate) : Nat :=
  c.group.toList.count ':' + c.artifact.toList.count ':' + c.version.toList.count ':'

structure Pieces (s : String) (c : Coordinate) : Prop where
  joined   : c.group ++ ":" ++ c.artifact ++ ":" ++ c.version = s
  no_colon : c.NoColon

theorem emptyField?_eq_none_iff :
    (c.emptyField? = none) ↔ (c.group ≠ "") ∧ (c.artifact ≠ "") ∧ (c.version ≠ "") := by
  simp only [emptyField?, List.find?_eq_none, decide_eq_true_eq]
  simp [get]

theorem colons_eq_zero_iff : (c.colons = 0) ↔ c.NoColon := by
  simp only [colons, NoColon, ←List.count_eq_zero]
  omega

theorem wellFormed_iff : c.WellFormed ↔ c.NoColon ∧ (c.emptyField? = none) := by
  rw [emptyField?_eq_none_iff]
  constructor
  case mp =>
    intro ⟨⟨hg, hg'⟩, ⟨ha, ha'⟩, ⟨hv, hv'⟩⟩
    exact ⟨⟨hg', ha', hv'⟩, hg, ha, hv⟩
  case mpr =>
    intro ⟨⟨hg', ha', hv'⟩, hg, ha, hv⟩
    exact ⟨⟨hg, hg'⟩, ⟨ha, ha'⟩, ⟨hv, hv'⟩⟩

theorem parse_of_count_ne (h : s.toList.count ':' ≠ 2) :
    parse s = .error (.fieldCount (s.toList.count ':' + 1)) := by
  have hl := length_fields s
  unfold parse
  split
  case h_1 hf =>
    rw [hf] at hl
    simp only [List.length_cons, List.length_nil] at hl
    omega
  case h_2 => rw [hl]

theorem NoColon.parse_text_of_empty (h : c.NoColon) (he : c.emptyField? = some f) :
    parse c.text = .error (.emptyField f) := by
  -- Both look at the fields in the same order.
  simp only [emptyField?, List.find?_cons, get] at he
  rw [parse, h.fields_text]
  grind

theorem exists_pieces (h : s.toList.count ':' = 2) : ∃ c, Pieces s c := by
  have hl := length_fields s
  rw [h] at hl
  obtain ⟨g, a, v, hf⟩ := List.length_eq_three.mp hl
  have ht : text ⟨g, a, v⟩ = s := by
    apply String.toList_injective
    rw [toList_text, ←intercalate_fields s, hf]
    rfl
  have hc := count_colon_text ⟨g, a, v⟩
  rw [ht, h] at hc
  have h₀ : colons ⟨g, a, v⟩ = 0 := by
    rw [colons]
    omega
  exact ⟨⟨g, a, v⟩, ht, colons_eq_zero_iff.mp h₀⟩

theorem Pieces.unique (hc : Pieces s c) (hd : Pieces s d) : d = c := by
  have ht : d.text = c.text := hd.joined.trans hc.joined.symm
  have hf := hd.no_colon.fields_text
  rw [ht, hc.no_colon.fields_text] at hf
  cases c
  cases d
  simp_all

-- The number of colons decides first, then the first piece that is empty. What is left are the texts
-- of coordinates, each of which is the text of one coordinate only.
theorem parse_grammar (s : String) :
    (s.toList.count ':' ≠ 2 → parse s = .error (.fieldCount (s.toList.count ':' + 1))) ∧
    (s.toList.count ':' = 2 → ∃ c, (∀ d, Pieces s d ↔ d = c) ∧
      (∀ f, c.emptyField? = some f → parse s = .error (.emptyField f)) ∧
      (c.emptyField? = none → parse s = .ok c ∧ c.WellFormed ∧ c.text = s)) ∧
    ∀ t c, parse s = .ok c → parse t = .ok c → s = t := by
  refine ⟨parse_of_count_ne, ?pieces, ?injective⟩
  case pieces =>
    intro h
    obtain ⟨c, hc⟩ := exists_pieces h
    have ht : c.text = s := hc.joined
    refine ⟨c, fun d => ⟨hc.unique, fun hd => hd ▸ hc⟩, ?empty, ?full⟩
    case empty => exact fun f he => ht ▸ hc.no_colon.parse_text_of_empty he
    case full =>
      intro he
      have hw := wellFormed_iff.mpr ⟨hc.no_colon, he⟩
      exact ⟨ht ▸ hw.parse_text, hw, ht⟩
  case injective =>
    intro t c hs ht
    rw [←text_of_parse hs, ←text_of_parse ht]

structure Rereading {ε : Type} (report : ParseError → ε) (c : Coordinate)
    (result : Except ε Coordinate) : Prop where
  same_iff    : (result = .ok c) ↔ c.WellFormed
  colons      : 0 < c.colons → result = .error (report (.fieldCount (3 + c.colons)))
  empty       : c.colons = 0 → ∀ f, c.emptyField? = some f →
    result = .error (report (.emptyField f))
  never_other : ∀ d, result = .ok d → d = c

theorem rereading_parse (c : Coordinate) : c.Rereading id (parse c.text) where
  same_iff := by simp [parse_text_eq_ok_iff]
  colons h := by
    have hc : c.text.toList.count ':' = c.colons + 2 := count_colon_text c
    have hp := parse_of_count_ne (s := c.text) (by omega)
    rw [hp, hc, id, Nat.add_comm 3, Nat.add_assoc]
  empty h f he := (colons_eq_zero_iff.mp h).parse_text_of_empty he
  never_other d hd := (parse_text_eq_ok_iff.mp hd).left

theorem Rereading.mapError {ε ε' : Type} {report : ParseError → ε} {result : Except ε Coordinate}
    (h : c.Rereading report result) (g : ε → ε') :
    c.Rereading (fun e => g (report e)) (result.mapError g) where
  same_iff := mapError_eq_ok_iff.trans h.same_iff
  colons hc := by rw [h.colons hc]; rfl
  empty hc f he := by rw [h.empty hc f he]; rfl
  never_other d hd := h.never_other d (mapError_eq_ok_iff.mp hd)

theorem text_never_misread (c : Coordinate) :
    c.Rereading id (parse c.text) ∧
    (∃ v, Json.parse? (Json.compact c.toValue) = some v ∧
      c.Rereading (fun e => .refused e.message) (ofValue v)) ∧
    ∀ d ≠ c, d.text = c.text → ¬(parse c.text = .ok c ∧ parse d.text = .ok d) := by
  refine ⟨rereading_parse c, ?serialised, ?distinct⟩
  case serialised =>
    refine ⟨c.toValue, parse?_compact c, ?_⟩
    rw [ofValue_toValue]
    exact (rereading_parse c).mapError fun e => Misfit.refused e.message
  case distinct =>
    intro d hn ht ⟨_, hd⟩
    rw [ht] at hd
    exact hn ((rereading_parse c).never_other d hd)

-- Colons can move from one field to another without a trace in the text, which is then refused.
example : text ⟨"a:b", "c", "1"⟩ = text ⟨"a", "b:c", "1"⟩ ∧
    parse (text ⟨"a:b", "c", "1"⟩) = .error (.fieldCount 4) := by
  decide +kernel

end PlatformCatalog.Coordinate
