import PlatformCatalog.Platform
import PlatformCatalog.Proofs.Text.Utf8

namespace PlatformCatalog.Platform

variable {catalog : VersionTable} {e : String × String} {width : Nat}

theorem catalogWidth_eq (catalog : VersionTable) :
    catalogWidth catalog =
      (catalog.entries.map fun e => (Text.bytes e.1).length).max?.getD 0 := by
  rw [catalogWidth, List.foldl_max, Nat.zero_max]

theorem length_bytes_le_catalogWidth (h : e ∈ catalog.entries) :
    (Text.bytes e.1).length ≤ catalogWidth catalog := by
  rw [catalogWidth_eq]
  exact List.le_max?_getD_of_mem (List.mem_map_of_mem h)

theorem exists_length_bytes_eq_catalogWidth (h : catalog.entries ≠ []) :
    ∃ e ∈ catalog.entries, (Text.bytes e.1).length = catalogWidth catalog := by
  rw [catalogWidth_eq]
  cases hm : (catalog.entries.map fun e => (Text.bytes e.1).length).max?
  case none => exact absurd (List.map_eq_nil_iff.mp (List.max?_eq_none_iff.mp hm)) h
  case some m => exact List.mem_map.mp (List.max?_eq_some_iff.mp hm).left

theorem catalogWidth_of_entries_nil (h : catalog.entries = []) : catalogWidth catalog = 0 := by
  rw [catalogWidth, h]
  rfl

structure Row where
  group : String
  blanks : Nat
  version : String
  deriving DecidableEq, Repr

namespace Row

variable {r : Row}

def cell (r : Row) : String :=
  r.group ++ String.ofList (List.replicate r.blanks ' ')

def text (r : Row) : String :=
  "  " ++ r.cell ++ " = " ++ r.version ++ "\n"

def ofEntry (width : Nat) (e : String × String) : Row :=
  ⟨e.1, width - e.1.length, e.2⟩

theorem text_ofEntry (width : Nat) (e : String × String) :
    (ofEntry width e).text = catalogLine width e :=
  rfl

theorem length_cell (r : Row) : r.cell.length = r.group.length + r.blanks := by
  simp [cell]

theorem newline_mem_cell_iff : ('\n' ∈ r.cell.toList) ↔ ('\n' ∈ r.group.toList) := by
  simp [cell]

theorem toList_text (r : Row) :
    r.text.toList =
      (' ' :: ' ' :: r.cell.toList ++ [' ']) ++ ('=' :: ' ' :: r.version.toList ++ ['\n']) := by
  simp [text]

theorem getElem?_text (h : r.cell.length = width) : r.text.toList[width + 3]? = some '=' := by
  rw [←String.length_toList] at h
  simp [toList_text, ←h]

theorem newline_mem_take_text_iff (h : r.cell.length = width) :
    ('\n' ∈ r.text.toList.take (width + 3)) ↔ ('\n' ∈ r.group.toList) := by
  rw [←String.length_toList] at h
  have hl : (' ' :: ' ' :: r.cell.toList ++ [' ']).length = width + 3 := by simp [h]
  rw [toList_text, ←hl, List.take_left, ←newline_mem_cell_iff]
  simp

-- A column that has room for the bytes of a group has room for its characters.
theorem length_cell_ofEntry (h : (Text.bytes e.1).length ≤ width) :
    (ofEntry width e).cell.length = width := by
  have hl := Text.length_le_length_bytes e.1
  simp only [length_cell, ofEntry]
  omega

theorem blanks_ofEntry_eq_zero_iff (h : (Text.bytes e.1).length ≤ width) :
    ((ofEntry width e).blanks = 0) ↔
      ((Text.bytes e.1).length = width ∧ ∀ c ∈ e.1.toList, c.toNat < 128) := by
  have hl := Text.length_le_length_bytes e.1
  rw [←Text.length_eq_length_bytes_iff]
  simp only [ofEntry]
  omega

end Row

-- Rows that list a catalog in columns, the first of which has some width. There is a row for each
-- group, in the order of the groups' bytes; the width is the largest number of bytes of a group, and
-- is made up in characters. Places are counted from the beginning of a row: two blanks, the first
-- column and one more blank stand in front of the equals sign, and no line break does but those of
-- the group itself. A row can do without blanks only if its group is a longest one and plain ASCII.
structure Aligned (rows : List Row) (catalog : VersionTable) (width : Nat) : Prop where
  complete  : rows.map (fun r => (r.group, r.version)) = catalog.entries
  ascending : rows.Pairwise fun a b => Text.bytes a.group < Text.bytes b.group
  bound     : ∀ r ∈ rows, (Text.bytes r.group).length ≤ width
  attained  : rows ≠ [] → ∃ r ∈ rows, (Text.bytes r.group).length = width
  zero      : rows = [] → width = 0
  filled    : ∀ r ∈ rows, r.cell.length = width
  column    : ∀ r ∈ rows, r.text.toList[width + 3]? = some '='
  unbroken  : ∀ r ∈ rows, ('\n' ∈ r.text.toList.take (width + 3)) ↔ ('\n' ∈ r.group.toList)
  tight     : (∃ r ∈ rows, r.blanks = 0) ↔
    (∃ r ∈ rows, (Text.bytes r.group).length = width ∧ ∀ c ∈ r.group.toList, c.toNat < 128)

def rows (catalog : VersionTable) : List Row :=
  catalog.entries.map (Row.ofEntry (catalogWidth catalog))

theorem exists_mem_rows_iff {P : Row → Prop} :
    (∃ r ∈ rows catalog, P r) ↔
      (∃ e ∈ catalog.entries, P (Row.ofEntry (catalogWidth catalog) e)) := by
  simp [rows]

theorem forall_mem_rows_iff {P : Row → Prop} :
    (∀ r ∈ rows catalog, P r) ↔
      (∀ e ∈ catalog.entries, P (Row.ofEntry (catalogWidth catalog) e)) :=
  List.forall_mem_map

theorem rows_eq_nil_iff : (rows catalog = []) ↔ (catalog.entries = []) :=
  List.map_eq_nil_iff

theorem aligned_rows (catalog : VersionTable) :
    Aligned (rows catalog) catalog (catalogWidth catalog) := by
  have hf : ∀ r ∈ rows catalog, r.cell.length = catalogWidth catalog :=
    forall_mem_rows_iff.mpr fun e he => Row.length_cell_ofEntry (length_bytes_le_catalogWidth he)
  constructor
  case complete =>
    rw [rows, List.map_map]
    exact List.map_id catalog.entries
  case ascending => exact List.pairwise_map.mpr catalog.ascending
  case bound => exact forall_mem_rows_iff.mpr fun e => length_bytes_le_catalogWidth
  case attained =>
    intro h
    rw [exists_mem_rows_iff]
    exact exists_length_bytes_eq_catalogWidth (mt rows_eq_nil_iff.mpr h)
  case zero => exact fun h => catalogWidth_of_entries_nil (rows_eq_nil_iff.mp h)
  case filled => exact hf
  case column => exact fun r hr => Row.getElem?_text (hf r hr)
  case unbroken => exact fun r hr => Row.newline_mem_take_text_iff (hf r hr)
  case tight =>
    simp only [exists_mem_rows_iff]
    apply exists_congr
    intro e
    apply and_congr_right
    exact fun he => Row.blanks_ofEntry_eq_zero_iff (length_bytes_le_catalogWidth he)

def counted (color : Bool) (before after : String) (texts : List String) : String :=
  "\n" ++ heading color (before ++ toString texts.length ++ after) ++ "\n" ++ String.join texts

theorem counted_map {α : Type} (color : Bool) (before after : String) (f : α → String)
    (l : List α) :
    counted color before after (l.map f) =
      listing color (before ++ toString l.length ++ after) (l.map f) := by
  rw [counted, listing, List.length_map]

theorem map_text_rows (catalog : VersionTable) :
    (rows catalog).map Row.text =
      catalog.entries.map (catalogLine (catalogWidth catalog)) := by
  rw [rows, List.map_map]
  exact List.map_congr_left fun e _ => Row.text_ofEntry _ e

theorem reportText_in_columns (color : Bool) (p : Platform) :
    ∃ rows width,
      p.reportText color = heading color ("Platform " ++ p.name) ++ "\n"
        ++ (p.manifest.platform.description.elim "" fun d => "  " ++ d ++ "\n")
        ++ counted color "Enforced imports (" "):"
          (p.publication.imports.map fun c => "  " ++ c.text ++ "\n")
        ++ counted color "Constraints (" "):"
          (p.publication.constraints.map fun c => "  " ++ c.text ++ "\n")
        ++ counted color "Catalog (" " groups):" (rows.map Row.text) ∧
      Aligned rows p.publication.catalog width := by
  refine ⟨rows p.publication.catalog, _, ?_, aligned_rows p.publication.catalog⟩
  rw [map_text_rows, counted_map, counted_map, counted_map, reportText]
  cases p.manifest.platform.description <;> rfl

example :
    catalogWidth ⟨[("a", "1"), ("é", "2")], by decide⟩ = 2 ∧
    catalogLine 2 ("a", "1") = "  a  = 1\n" ∧ catalogLine 2 ("é", "2") = "  é  = 2\n" := by
  decide

end PlatformCatalog.Platform
