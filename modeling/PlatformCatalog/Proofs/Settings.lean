import PlatformCatalog.Proofs.Schema
import PlatformCatalog.Settings

namespace PlatformCatalog

variable {es : List (String × Value)} {v : Value}

namespace Format

inductive Spelled (f : Format) : Value → Prop
  | name  : Spelled f (.string f.name)
  | table : Spelled f (.table [(f.name, .table [])])
  | array : Spelled f (.table [(f.name, .array [])])

theorem ofVariant_eq_ok_iff {name : String} {f : Format} :
    (ofVariant name = .ok f) ↔ (name = f.name) := by
  have hn : (ofName? name = some f) ↔ (name = f.name) := by
    unfold ofName?
    split
    case h_1 => cases f <;> simp [Format.name]
    case h_2 => cases f <;> simp [Format.name]
    case h_3 ht hj => cases f <;> simp_all [Format.name]
  rw [←hn, ofVariant]
  split <;> simp_all

theorem ofValue_eq_ok_iff {f : Format} : (ofValue v = .ok f) ↔ (f.Spelled v) := by
  constructor
  case mp =>
    intro h
    unfold ofValue at h
    split at h
    case h_1 =>
      cases ofVariant_eq_ok_iff.mp h
      exact .name
    case h_2 =>
      obtain ⟨g, hg, hr⟩ := bind_eq_ok_iff.mp h
      cases ofVariant_eq_ok_iff.mp hg
      split at hr
      case h_1 =>
        cases hr
        exact .table
      case h_2 =>
        cases hr
        exact .array
      case h_3 => cases hr
    case h_3 => cases h
  case mpr =>
    have hv : ofVariant f.name = .ok f := ofVariant_eq_ok_iff.mpr rfl
    rintro (_ | _ | _) <;> simp [ofValue, hv, bind, Except.bind, pure, Except.pure]

end Format

namespace Value

def IsBoolean (b : Bool) (v : Value) : Prop :=
  v = .boolean b

def IsText (t : String) (v : Value) : Prop :=
  v = .string t

end Value

namespace CatalogSettings

theorem sets_denyDynamic : schema.Sets "deny-dynamic" Value.toBool? denyDynamic :=
  .of_field rfl (fun _ _ _ h => h) (by simp [schema, Field.optional])

theorem exists_read_iff (v : Value) :
    (∃ c, schema.read .ignored v = .ok c) ↔
      (∃ fields, v.fields? ["deny-dynamic"] = some fields ∧
        ∀ x, ("deny-dynamic", x) ∈ fields → ∃ b, x.IsBoolean b) := by
  have hk : schema.keys = ["deny-dynamic"] := rfl
  rw [Schema.exists_read_iff (by decide) (by decide), hk]
  simp [schema, Field.fits_optional_iff, Value.toBool?_eq_ok_iff, Value.IsBoolean]

end CatalogSettings

namespace OutputSettings

theorem sets_format : schema.Sets "format" Format.ofValue format :=
  .of_field rfl (fun _ _ _ h => h) (by simp [schema, Field.optional, Field.spares_of_set])

theorem sets_exportFile : schema.Sets "export-file" Value.toString? exportFile :=
  .of_field rfl (fun _ _ _ h => h) (by simp [schema, Field.optional, Field.spares_of_set])

theorem exists_read_iff (v : Value) :
    (∃ o, schema.read .ignored v = .ok o) ↔
      (∃ fields, v.fields? ["format", "export-file"] = some fields ∧
        (∀ x, ("format", x) ∈ fields → ∃ f, Format.Spelled f x) ∧
        ∀ x, ("export-file", x) ∈ fields → ∃ t, x.IsText t) := by
  have hk : schema.keys = ["format", "export-file"] := rfl
  rw [Schema.exists_read_iff (by decide) (by decide), hk]
  simp [schema, Field.fits_optional_iff, Value.toString?_eq_ok_iff, Format.ofValue_eq_ok_iff,
    Value.IsText]

end OutputSettings

namespace Settings

theorem sets_catalog : schema.Sets "catalog" (CatalogSettings.schema.read .ignored) catalog :=
  .of_field rfl (fun _ _ _ h => h) (by simp [schema, Field.optional, Field.spares_of_set])

theorem sets_output : schema.Sets "output" (OutputSettings.schema.read .ignored) output :=
  .of_field rfl (fun _ _ _ h => h) (by simp [schema, Field.optional, Field.spares_of_set])

-- The value that a document gives for a setting. A section is a table or an array of its settings in
-- order, and the last value counts.
def given? (es : List (String × Value)) (table : String) (keys : List String) (key : String) :
    Option Value := do
  let v ← es.reverse.lookup table
  let fields ← v.fields? keys
  fields.reverse.lookup key

theorem stands_given? {ρ α : Type} {section_ : Schema ρ} {read : Value → Except Misfit α}
    {Spells : α → Value → Prop} {get : ρ → α} {table key : String} {r : ρ}
    (hk : section_.Sets key read get) (hs : ∀ v x, read v = .ok x → Spells x v)
    (hn : section_.keys.Nodup) (hq : ∀ f ∈ section_.fields, f.required = false)
    (h : Schema.Stands (es.reverse.lookup table) (fun r v => section_.read .ignored v = .ok r)
      section_.blank r) :
    Schema.Stands (given? es table section_.keys key) Spells (get section_.blank) (get r) := by
  unfold given?
  cases hl : es.reverse.lookup table
  case none =>
    rw [hl] at h
    cases h
    rfl
  case some v =>
    rw [hl] at h
    obtain ⟨fields, hf, hr⟩ := (Schema.read_eq_ok_iff hn hq).mp h
    have hk := hk.ofEntries hr
    simp only [Option.bind_eq_bind, Option.bind_some, hf]
    cases hx : fields.reverse.lookup key <;> rw [hx] at hk
    case none => exact hk
    case some x => exact hs x _ hk

structure Fits (es : List (String × Value)) : Prop where
  catalog : ∀ v, ("catalog", v) ∈ es → ∃ fields, v.fields? ["deny-dynamic"] = some fields ∧
    ∀ x, ("deny-dynamic", x) ∈ fields → ∃ b, x.IsBoolean b
  output : ∀ v, ("output", v) ∈ es → ∃ fields, v.fields? ["format", "export-file"] = some fields ∧
    (∀ x, ("format", x) ∈ fields → ∃ f, Format.Spelled f x) ∧
    ∀ x, ("export-file", x) ∈ fields → ∃ t, x.IsText t

structure Stated (es : List (String × Value)) (s : Settings) : Prop where
  denyDynamic : Schema.Stands (given? es "catalog" ["deny-dynamic"] "deny-dynamic") Value.IsBoolean
    false s.catalog.denyDynamic
  format : Schema.Stands (given? es "output" ["format", "export-file"] "format") Format.Spelled
    .text s.output.format
  exportFile : Schema.Stands (given? es "output" ["format", "export-file"] "export-file") Value.IsText
    "versions.json" s.output.exportFile

theorem exists_ofEntries_iff : (∃ s, schema.ofEntries es = .ok s) ↔ (Fits es) := by
  rw [Schema.exists_ofEntries_iff (by decide)]
  simp only [schema, List.forall_mem_cons, Field.fits_optional_iff,
    CatalogSettings.exists_read_iff, OutputSettings.exists_read_iff]
  constructor
  case mp => exact fun h => ⟨h.left, h.right.left⟩
  case mpr => exact fun h => ⟨h.catalog, h.output, List.forall_mem_nil _⟩

theorem stated_of_ofEntries {s : Settings} (h : schema.ofEntries es = .ok s) : Stated es s where
  denyDynamic := stands_given? CatalogSettings.sets_denyDynamic
    (fun _ _ => Value.toBool?_eq_ok_iff.mp) (by decide) (by decide) (sets_catalog.ofEntries h)
  format := stands_given? OutputSettings.sets_format
    (fun _ _ => Format.ofValue_eq_ok_iff.mp) (by decide) (by decide) (sets_output.ofEntries h)
  exportFile := stands_given? OutputSettings.sets_exportFile
    (fun _ _ => Value.toString?_eq_ok_iff.mp) (by decide) (by decide) (sets_output.ofEntries h)

end Settings

end PlatformCatalog
