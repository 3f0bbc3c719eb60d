import Mathlib.Data.List.Perm.Basic
import PlatformCatalog.Manifest
import PlatformCatalog.Proofs.Settings
import PlatformCatalog.Proofs.VersionTable

namespace PlatformCatalog

structure Part where
  key     : String
  Spells  : Value → Prop
  MayDrop : Prop

inductive Given : List Part → List (String × Value) → Prop
  | nil : Given [] []
  | keep {p : Part} {parts es} {v : Value} (hv : p.Spells v) (h : Given parts es) :
    Given (p :: parts) ((p.key, v) :: es)
  | drop {p : Part} {parts es} (hd : p.MayDrop) (h : Given parts es) : Given (p :: parts) es

def Spelling (parts : List Part) (es : List (String × Value)) : Prop :=
  ∃ given extra, Given parts given ∧ (∀ e ∈ extra, ∀ p ∈ parts, e.1 ≠ p.key) ∧
    es.Perm (given ++ extra)

variable {ε α β ρ : Type} {es : List (String × Value)} {v : Value} {p : Part} {ps : List Part}

namespace Part

-- All entries under the key of the part spell it, and there are some if it may not be left out.
structure HeldBy (p : Part) (es : List (String × Value)) : Prop where
  spells : ∀ v, (p.key, v) ∈ es → p.Spells v
  given  : p.MayDrop ∨ ∃ v, (p.key, v) ∈ es

theorem HeldBy.fits_optional {read : Value → Except Misfit α} {set : α → ρ → ρ} (h : p.HeldBy es)
    (hr : ∀ v, p.Spells v → ∃ x, read v = .ok x) : (Field.optional p.key read set).Fits es :=
  Field.fits_optional_iff.mpr fun v hv => hr v (h.spells v hv)

theorem HeldBy.fits_mandatory {read : Value → Except Misfit α} {set : α → ρ → ρ} (h : p.HeldBy es)
    (hd : ¬p.MayDrop) (hr : ∀ v, p.Spells v → ∃ x, read v = .ok x) :
    (Field.mandatory p.key read set).Fits es :=
  Field.fits_mandatory_iff.mpr ⟨fun v hv => hr v (h.spells v hv), h.given.resolve_left hd⟩

end Part

theorem Given.mem_keys (h : Given ps es) : ∀ e ∈ es, e.1 ∈ ps.map Part.key := by
  induction h
  case nil => exact List.forall_mem_nil _
  case keep hi =>
    rw [List.map_cons, List.forall_mem_cons]
    exact ⟨.head _, fun e he => .tail _ (hi e he)⟩
  case drop hi => exact fun e he => .tail _ (hi e he)

theorem Given.heldBy (h : Given ps es) (hn : (ps.map Part.key).Nodup) (hp : p ∈ ps) :
    p.HeldBy es := by
  induction h
  case nil => cases hp
  case keep q ps es u hu h hi =>
    -- No later entry has the key of the first part.
    have ⟨hq, hn⟩ := List.nodup_cons.mp hn
    cases List.mem_cons.mp hp
    case inl hp =>
      subst hp
      refine ⟨fun v hv => ?_, .inr ⟨u, .head _⟩⟩
      cases List.mem_cons.mp hv
      case inl hv =>
        cases hv
        exact hu
      case inr hv => exact absurd (h.mem_keys _ hv) hq
    case inr hp =>
      have ⟨hs, hg⟩ := hi hn hp
      have hk : p.key ≠ q.key := fun hk => hq (hk ▸ List.mem_map_of_mem hp)
      refine ⟨fun v hv => ?_, hg.imp_right fun ⟨v, hv⟩ => ⟨v, .tail _ hv⟩⟩
      cases List.mem_cons.mp hv
      case inl hv => exact absurd (congrArg Prod.fst hv) hk
      case inr hv => exact hs v hv
  case drop q ps es hd h hi =>
    have ⟨hq, hn⟩ := List.nodup_cons.mp hn
    cases List.mem_cons.mp hp
    case inl hp =>
      subst hp
      exact ⟨fun v hv => absurd (h.mem_keys _ hv) hq, .inl hd⟩
    case inr hp => exact hi hn hp

theorem Spelling.heldBy (h : Spelling ps es) (hn : (ps.map Part.key).Nodup) :
    ∀ p ∈ ps, p.HeldBy es := by
  intro p hp
  obtain ⟨given, extra, hg, hx, hes⟩ := h
  have hm (v : Value) : ((p.key, v) ∈ es) ↔ ((p.key, v) ∈ given) := by
    rw [hes.mem_iff, List.mem_append, or_iff_left]
    exact fun hv => hx _ hv p hp rfl
  obtain ⟨hs, hg⟩ := hg.heldBy hn hp
  simp only [←hm] at hs hg
  exact ⟨hs, hg⟩

theorem Schema.Sets.eq_of_heldBy {s : Schema ρ} {read : Value → Except Misfit α} {get : ρ → α}
    {r : ρ} {x : α} (h : s.Sets p.key read get) (hp : p.HeldBy es) (hr : s.ofEntries es = .ok r)
    (hv : ∀ v, p.Spells v → read v = .ok x) (hd : p.MayDrop → get s.blank = x) : get r = x := by
  have hs := h.ofEntries hr
  cases hl : es.reverse.lookup p.key
  case none =>
    rw [hl] at hs
    rw [hs]
    apply hd
    refine hp.given.resolve_right ?_
    rintro ⟨v, hm⟩
    simpa using List.lookup_eq_none_iff.mp hl (p.key, v) (List.mem_reverse.mpr hm)
  case some v =>
    rw [hl] at hs
    have hm : (p.key, v) ∈ es := by
      obtain ⟨before, after, he, _⟩ := List.lookup_eq_some_iff.mp hl
      rw [←List.mem_reverse, he]
      simp
    exact Except.ok.inj (hs.symm.trans (hv v (hp.spells v hm)))

theorem mapM_eq_ok {f : α → Except ε β} {xs : List α} {ys : List β}
    (h : List.Forall₂ (fun x y => f x = .ok y) xs ys) : xs.mapM f = .ok ys := by
  induction h
  case nil => rfl
  case cons x y xs ys hx _ hi =>
    rw [List.mapM_cons, hx, ok_bind, hi]
    rfl

namespace Value

def IsTable (parts : List Part) (v : Value) : Prop :=
  ∃ es, v = .table es ∧ Spelling parts es

def IsTexts (ts : List String) (v : Value) : Prop :=
  v = .array (ts.map .string)

def IsTables (records : List (List Part)) (v : Value) : Prop :=
  ∃ items, v = .array items ∧ List.Forall₂ (fun item parts => item.IsTable parts) items records

def IsVersions (t : VersionTable) (v : Value) : Prop :=
  ∃ es, v = .table es ∧ es.Perm (t.entries.map fun e => (e.1, .string e.2))

theorem toList?_of_isTexts {ts : List String} (h : v.IsTexts ts) :
    v.toList? toString? = .ok ts := by
  cases h
  apply mapM_eq_ok
  rw [List.forall₂_map_left_iff, List.forall₂_same]
  exact fun t _ => rfl

theorem toVersionTable?_of_isVersions {t : VersionTable} (h : v.IsVersions t) :
    v.toVersionTable? = .ok t := by
  obtain ⟨es, rfl, hp⟩ := h
  have hr : List.Forall₂ (fun (e : String × Value) (p : String × String) =>
      (do return (e.1, ← e.2.toString?)) = (.ok p : Except Misfit _))
      (t.entries.map fun e => (e.1, .string e.2)) t.entries := by
    rw [List.forall₂_map_left_iff, List.forall₂_same]
    exact fun e _ => rfl
  -- Entries in another order are read in that order.
  obtain ⟨pairs, hm, ht⟩ := List.perm_comp_forall₂ hp hr
  simp only [toVersionTable?, entries?, mapM_eq_ok hm, ok_bind, VersionTable.ofList_of_perm ht]
  rfl

end Value

theorem Schema.read_of_isTable {s : Schema ρ} {r : ρ} {surplus : Surplus}
    (hs : ∀ {es}, Spelling ps es → s.ofEntries es = .ok r) (h : v.IsTable ps) :
    s.read surplus v = .ok r := by
  obtain ⟨es, rfl, he⟩ := h
  exact hs he

namespace Metadata

variable {m : Metadata}

def parts (m : Metadata) : List Part :=
  [⟨"name", Value.IsText m.name, False⟩,
    ⟨"description", fun v => ∃ d, m.description = some d ∧ v.IsText d, m.description = none⟩]

theorem sets_name : schema.Sets "name" Value.toString? name :=
  .of_field rfl (fun _ _ _ h => h)
    (by simp [schema, Field.mandatory, Field.optional, Field.spares_of_set])

theorem sets_description :
    schema.Sets "description" (fun v => some <$> v.toString?) description :=
  .of_field rfl (fun _ x _ h => map_eq_ok_iff.mpr ⟨x, h, rfl⟩)
    (by simp [schema, Field.mandatory, Field.optional, Field.spares_of_set])

theorem ofEntries_of_spelling (h : Spelling m.parts es) : schema.ofEntries es = .ok m := by
  have hp := h.heldBy (show ["name", "description"].Nodup by decide)
  simp only [parts, List.forall_mem_cons] at hp
  obtain ⟨hname, hdesc, _⟩ := hp
  have hf : ∀ f ∈ schema.fields, f.Fits es := by
    simp only [schema, List.forall_mem_cons]
    refine ⟨hname.fits_mandatory id ?name, hdesc.fits_optional ?description, List.forall_mem_nil _⟩
    case name => exact fun v hv => ⟨m.name, Value.toString?_eq_ok_iff.mpr hv⟩
    case description => exact fun v hv => hv.imp fun d hd => Value.toString?_eq_ok_iff.mpr hd.right
  obtain ⟨r, hr⟩ := (Schema.exists_ofEntries_iff (by decide) es).mpr hf
  have h₁ : r.name = m.name := by
    refine sets_name.eq_of_heldBy hname hr (fun v hv => ?_) False.elim
    exact Value.toString?_eq_ok_iff.mpr hv
  have h₂ : r.description = m.description := by
    refine sets_description.eq_of_heldBy hdesc hr ?_ Eq.symm
    rintro v ⟨d, hd, hv⟩
    rw [hd]
    exact map_eq_ok_iff.mpr ⟨d, Value.toString?_eq_ok_iff.mpr hv, rfl⟩
  obtain ⟨name, description⟩ := r
  subst h₁ h₂
  exact hr

theorem read_of_isTable (h : v.IsTable m.parts) : schema.read .ignored v = .ok m :=
  Schema.read_of_isTable ofEntries_of_spelling h

end Metadata

namespace DependencySet

variable {s : DependencySet}

def parts (s : DependencySet) : List Part :=
  [⟨"group", Value.IsText s.group, False⟩, ⟨"version", Value.IsText s.version, False⟩,
    ⟨"modules", Value.IsTexts s.modules, False⟩]

theorem sets_group : schema.Sets "group" Value.toString? group :=
  .of_field rfl (fun _ _ _ h => h) (by simp [schema, Field.mandatory, Field.spares_of_set])

theorem sets_version : schema.Sets "version" Value.toString? version :=
  .of_field rfl (fun _ _ _ h => h) (by simp [schema, Field.mandatory, Field.spares_of_set])

theorem sets_modules : schema.Sets "modules" (Value.toList? Value.toString?) modules :=
  .of_field rfl (fun _ _ _ h => h) (by simp [schema, Field.mandatory, Field.spares_of_set])

theorem ofEntries_of_spelling (h : Spelling s.parts es) : schema.ofEntries es = .ok s := by
  have hp := h.heldBy (show ["group", "version", "modules"].Nodup by decide)
  simp only [parts, List.forall_mem_cons] at hp
  obtain ⟨hg, hv, hm, _⟩ := hp
  have hf : ∀ f ∈ schema.fields, f.Fits es := by
    simp only [schema, List.forall_mem_cons]
    exact ⟨hg.fits_mandatory id fun v hv => ⟨_, Value.toString?_eq_ok_iff.mpr hv⟩,
      hv.fits_mandatory id fun v hv => ⟨_, Value.toString?_eq_ok_iff.mpr hv⟩,
      hm.fits_mandatory id fun v hv => ⟨_, Value.toList?_of_isTexts hv⟩, List.forall_mem_nil _⟩
  obtain ⟨r, hr⟩ := (Schema.exists_ofEntries_iff (by decide) es).mpr hf
  have h₁ : r.group = s.group :=
    sets_group.eq_of_heldBy hg hr (fun v => Value.toString?_eq_ok_iff.mpr) False.elim
  have h₂ : r.version = s.version :=
    sets_version.eq_of_heldBy hv hr (fun v => Value.toString?_eq_ok_iff.mpr) False.elim
  have h₃ : r.modules = s.modules :=
    sets_modules.eq_of_heldBy hm hr (fun v => Value.toList?_of_isTexts) False.elim
  obtain ⟨group, version, modules⟩ := r
  subst h₁ h₂ h₃
  exact hr

theorem toList?_of_isTables {sets : List DependencySet} (h : v.IsTables (sets.map parts)) :
    v.toList? (ofValue .ignored) = .ok sets := by
  obtain ⟨items, rfl, h⟩ := h
  rw [List.forall₂_map_right_iff] at h
  exact mapM_eq_ok (h.imp fun _ _ => Schema.read_of_isTable ofEntries_of_spelling)

end DependencySet

namespace Manifest

variable {m : Manifest}

def parts (m : Manifest) : List Part :=
  [⟨"platform", Value.IsTable m.platform.parts, False⟩,
    ⟨"versions", Value.IsVersions m.versions, m.versions = .empty⟩,
    ⟨"enforced-imports", Value.IsTexts m.enforcedImports, m.enforcedImports = []⟩,
    ⟨"dependency-sets", Value.IsTables (m.dependencySets.map DependencySet.parts),
      m.dependencySets = []⟩,
    ⟨"dependencies", Value.IsTexts m.dependencies, m.dependencies = []⟩]

theorem sets_platform : schema.Sets "platform" (Metadata.schema.read .ignored) platform :=
  .of_field rfl (fun _ _ _ h => h)
    (by simp [schema, Field.mandatory, Field.optional, Field.spares_of_set])

theorem sets_versions : schema.Sets "versions" Value.toVersionTable? versions :=
  .of_field rfl (fun _ _ _ h => h)
    (by simp [schema, Field.mandatory, Field.optional, Field.spares_of_set])

theorem sets_enforcedImports :
    schema.Sets "enforced-imports" (Value.toList? Value.toString?) enforcedImports :=
  .of_field rfl (fun _ _ _ h => h)
    (by simp [schema, Field.mandatory, Field.optional, Field.spares_of_set])

theorem sets_dependencySets :
    schema.Sets "dependency-sets" (Value.toList? (DependencySet.ofValue .ignored)) dependencySets :=
  .of_field rfl (fun _ _ _ h => h)
    (by simp [schema, Field.mandatory, Field.optional, Field.spares_of_set])

theorem sets_dependencies :
    schema.Sets "dependencies" (Value.toList? Value.toString?) dependencies :=
  .of_field rfl (fun _ _ _ h => h)
    (by simp [schema, Field.mandatory, Field.optional, Field.spares_of_set])

theorem ofEntries_of_spelling (h : Spelling m.parts es) : schema.ofEntries es = .ok m := by
  have hp := h.heldBy (show ["platform", "versions", "enforced-imports", "dependency-sets",
    "dependencies"].Nodup by decide)
  simp only [parts, List.forall_mem_cons] at hp
  obtain ⟨hplatform, hversions, himports, hsets, hdependencies, _⟩ := hp
  have hf : ∀ f ∈ schema.fields, f.Fits es := by
    simp only [schema, List.forall_mem_cons]
    exact ⟨hplatform.fits_mandatory id fun v hv => ⟨_, Metadata.read_of_isTable hv⟩,
      hversions.fits_optional fun v hv => ⟨_, Value.toVersionTable?_of_isVersions hv⟩,
      himports.fits_optional fun v hv => ⟨_, Value.toList?_of_isTexts hv⟩,
      hsets.fits_optional fun v hv => ⟨_, DependencySet.toList?_of_isTables hv⟩,
      hdependencies.fits_optional fun v hv => ⟨_, Value.toList?_of_isTexts hv⟩,
      List.forall_mem_nil _⟩
  obtain ⟨r, hr⟩ := (Schema.exists_ofEntries_iff (by decide) es).mpr hf
  have h₁ : r.platform = m.platform :=
    sets_platform.eq_of_heldBy hplatform hr (fun v => Metadata.read_of_isTable) False.elim
  have h₂ : r.versions = m.versions :=
    sets_versions.eq_of_heldBy hversions hr (fun v => Value.toVersionTable?_of_isVersions) Eq.symm
  have h₃ : r.enforcedImports = m.enforcedImports :=
    sets_enforcedImports.eq_of_heldBy himports hr (fun v => Value.toList?_of_isTexts) Eq.symm
  have h₄ : r.dependencySets = m.dependencySets :=
    sets_dependencySets.eq_of_heldBy hsets hr (fun v => DependencySet.toList?_of_isTables) Eq.symm
  have h₅ : r.dependencies = m.dependencies :=
    sets_dependencies.eq_of_heldBy hdependencies hr (fun v => Value.toList?_of_isTexts) Eq.symm
  obtain ⟨platform, versions, enforcedImports, dependencySets, dependencies⟩ := r
  subst h₁ h₂ h₃ h₄ h₅
  exact hr

end Manifest

namespace CatalogSettings

variable {c : CatalogSettings}

def parts (c : CatalogSettings) : List Part :=
  [⟨"deny-dynamic", Value.IsBoolean c.denyDynamic, c.denyDynamic = false⟩]

theorem ofEntries_of_spelling (h : Spelling c.parts es) : schema.ofEntries es = .ok c := by
  have hp := h.heldBy (show ["deny-dynamic"].Nodup by decide)
  simp only [parts, List.forall_mem_cons] at hp
  obtain ⟨hd, _⟩ := hp
  have hf : ∀ f ∈ schema.fields, f.Fits es := by
    simp only [schema, List.forall_mem_cons]
    exact ⟨hd.fits_optional fun v hv => ⟨_, Value.toBool?_eq_ok_iff.mpr hv⟩, List.forall_mem_nil _⟩
  obtain ⟨r, hr⟩ := (Schema.exists_ofEntries_iff (by decide) es).mpr hf
  have h₁ : r.denyDynamic = c.denyDynamic :=
    sets_denyDynamic.eq_of_heldBy hd hr (fun v => Value.toBool?_eq_ok_iff.mpr) Eq.symm
  obtain ⟨denyDynamic⟩ := r
  subst h₁
  exact hr

end CatalogSettings

namespace OutputSettings

variable {o : OutputSettings}

def parts (o : OutputSettings) : List Part :=
  [⟨"format", Value.IsText o.format.name, o.format = .text⟩,
    ⟨"export-file", Value.IsText o.exportFile, o.exportFile = "versions.json"⟩]

theorem ofEntries_of_spelling (h : Spelling o.parts es) : schema.ofEntries es = .ok o := by
  have hp := h.heldBy (show ["format", "export-file"].Nodup by decide)
  simp only [parts, List.forall_mem_cons] at hp
  obtain ⟨hformat, hfile, _⟩ := hp
  have hs (v : Value) (hv : v.IsText o.format.name) : Format.ofValue v = .ok o.format :=
    Format.ofValue_eq_ok_iff.mpr (hv ▸ .name)
  have hf : ∀ f ∈ schema.fields, f.Fits es := by
    simp only [schema, List.forall_mem_cons]
    exact ⟨hformat.fits_optional fun v hv => ⟨_, hs v hv⟩,
      hfile.fits_optional fun v hv => ⟨_, Value.toString?_eq_ok_iff.mpr hv⟩, List.forall_mem_nil _⟩
  obtain ⟨r, hr⟩ := (Schema.exists_ofEntries_iff (by decide) es).mpr hf
  have h₁ : r.format = o.format := sets_format.eq_of_heldBy hformat hr hs Eq.symm
  have h₂ : r.exportFile = o.exportFile :=
    sets_exportFile.eq_of_heldBy hfile hr (fun v => Value.toString?_eq_ok_iff.mpr) Eq.symm
  obtain ⟨format, exportFile⟩ := r
  subst h₁ h₂
  exact hr

end OutputSettings

namespace Settings

variable {s : Settings}

def parts (s : Settings) : List Part :=
  [⟨"catalog", Value.IsTable s.catalog.parts, s.catalog = {}⟩,
    ⟨"output", Value.IsTable s.output.parts, s.output = {}⟩]

theorem ofEntries_of_spelling (h : Spelling s.parts es) : schema.ofEntries es = .ok s := by
  have hp := h.heldBy (show ["catalog", "output"].Nodup by decide)
  simp only [parts, List.forall_mem_cons] at hp
  obtain ⟨hcatalog, houtput, _⟩ := hp
  have hc (v : Value) (hv : v.IsTable s.catalog.parts) :
      CatalogSettings.schema.read .ignored v = .ok s.catalog :=
    Schema.read_of_isTable CatalogSettings.ofEntries_of_spelling hv
  have ho (v : Value) (hv : v.IsTable s.output.parts) :
      OutputSettings.schema.read .ignored v = .ok s.output :=
    Schema.read_of_isTable OutputSettings.ofEntries_of_spelling hv
  have hf : ∀ f ∈ schema.fields, f.Fits es := by
    simp only [schema, List.forall_mem_cons]
    exact ⟨hcatalog.fits_optional fun v hv => ⟨_, hc v hv⟩,
      houtput.fits_optional fun v hv => ⟨_, ho v hv⟩, List.forall_mem_nil _⟩
  obtain ⟨r, hr⟩ := (Schema.exists_ofEntries_iff (by decide) es).mpr hf
  have h₁ : r.catalog = s.catalog := sets_catalog.eq_of_heldBy hcatalog hr hc Eq.symm
  have h₂ : r.output = s.output := sets_output.eq_of_heldBy houtput hr ho Eq.symm
  obtain ⟨catalog, output⟩ := r
  subst h₁ h₂
  exact hr

end Settings

mutual

def Value.withoutNulls : Value → Value
  | .array items => .array (itemsWithoutNulls items)
  | .table entries => .table (entriesWithoutNulls entries)
  | v => v

def itemsWithoutNulls : List Value → List Value
  | [] => []
  | v :: vs => v.withoutNulls :: itemsWithoutNulls vs

def entriesWithoutNulls : List (String × Value) → List (String × Value)
  | [] => []
  | (_, .null) :: es => entriesWithoutNulls es
  | (k, v) :: es => (k, v.withoutNulls) :: entriesWithoutNulls es

end

theorem itemsWithoutNulls_eq_map (vs : List Value) :
    itemsWithoutNulls vs = vs.map Value.withoutNulls := by
  induction vs
  case nil => rfl
  case cons v vs hi => rw [itemsWithoutNulls, hi, List.map_cons]

theorem itemsWithoutNulls_strings (ts : List String) :
    itemsWithoutNulls (ts.map .string) = ts.map .string := by
  rw [itemsWithoutNulls_eq_map, List.map_map]
  rfl

theorem entriesWithoutNulls_strings (l : List (String × String)) :
    entriesWithoutNulls (l.map fun e => (e.1, .string e.2)) =
      l.map fun e => (e.1, .string e.2) := by
  induction l
  case nil => rfl
  case cons e l hi => simp [entriesWithoutNulls, Value.withoutNulls, hi]

theorem Given.spelling (h : Given ps es) : Spelling ps es :=
  ⟨es, [], h, List.forall_mem_nil _, by rw [List.append_nil]⟩

theorem Metadata.isTable_toValue (m : Metadata) : m.toValue.withoutNulls.IsTable m.parts := by
  obtain ⟨name, description⟩ := m
  cases description
  case none => exact ⟨_, rfl, Given.spelling (.keep rfl (.drop rfl .nil))⟩
  case some d => exact ⟨_, rfl, Given.spelling (.keep rfl (.keep ⟨d, rfl, rfl⟩ .nil))⟩

theorem DependencySet.isTable_toValue (s : DependencySet) :
    s.toValue.withoutNulls.IsTable s.parts := by
  refine ⟨_, rfl, Given.spelling (.keep rfl (.keep rfl (.keep ?_ .nil)))⟩
  rw [Value.withoutNulls, itemsWithoutNulls_strings]
  rfl

theorem Manifest.isTable_toValue (m : Manifest) : m.toValue.withoutNulls.IsTable m.parts := by
  have hv : m.versions.toValue.withoutNulls.IsVersions m.versions :=
    ⟨_, rfl, by rw [entriesWithoutNulls_strings]⟩
  have ht (ts : List String) : (Value.array (ts.map .string)).withoutNulls.IsTexts ts := by
    rw [Value.withoutNulls, itemsWithoutNulls_strings]
    rfl
  have hs : (Value.array (m.dependencySets.map DependencySet.toValue)).withoutNulls.IsTables
      (m.dependencySets.map DependencySet.parts) := by
    refine ⟨_, rfl, ?_⟩
    rw [itemsWithoutNulls_eq_map, List.forall₂_map_left_iff, List.forall₂_map_left_iff,
      List.forall₂_map_right_iff, List.forall₂_same]
    exact fun s _ => s.isTable_toValue
  exact ⟨_, rfl, Given.spelling (.keep m.platform.isTable_toValue
    (.keep hv (.keep (ht _) (.keep hs (.keep (ht _) .nil)))))⟩

theorem Settings.isTable_toValue (s : Settings) : s.toValue.IsTable s.parts :=
  ⟨_, rfl, Given.spelling (.keep ⟨_, rfl, Given.spelling (.keep rfl .nil)⟩
    (.keep ⟨_, rfl, Given.spelling (.keep rfl (.keep rfl .nil))⟩ .nil))⟩

-- The tree of a manifest or of settings is a way to spell them, and so are all that differ from it in
-- the order of entries, in unknown keys and in what may be left out.
theorem Spelling.reads_back :
    (∀ m : Manifest, m.toValue.withoutNulls.IsTable m.parts ∧
      ∀ es, Spelling m.parts es → Manifest.schema.ofEntries es = .ok m ∧
        ∀ text, Toml.parse? text = some es → Manifest.parse text = .ok m) ∧
    ∀ s : Settings, s.toValue.IsTable s.parts ∧
      ∀ es, Spelling s.parts es → Settings.schema.ofEntries es = .ok s ∧
        ∀ text, Toml.parse? text = some es → Toml.readRecord Settings.schema text = .ok s := by
  constructor
  case left =>
    intro m
    refine ⟨m.isTable_toValue, fun es h => ?_⟩
    have hm := Manifest.ofEntries_of_spelling h
    refine ⟨hm, fun text ht => ?_⟩
    rw [Manifest.parse, mapError_eq_ok_iff, Toml.readRecord_eq_ok_iff]
    exact ⟨es, ht, hm⟩
  case right =>
    intro s
    refine ⟨s.isTable_toValue, fun es h => ?_⟩
    have hs := Settings.ofEntries_of_spelling h
    exact ⟨hs, fun text ht => Toml.readRecord_eq_ok_iff.mpr ⟨es, ht, hs⟩⟩

theorem Spelling.reads_back_shuffled :
    let m : Manifest :=
      ⟨⟨"p", none⟩, .ofList [("a", "1"), ("b", "2")], [], [⟨"g", "3", ["x"]⟩], []⟩
    Manifest.schema.ofEntries [
        ("versions", .table [("b", .string "2"), ("a", .string "1")]),
        ("dependency-sets", .array [.table [("modules", .array [.string "x"]),
          ("group", .string "g"), ("version", .string "3")]]),
        ("note", .boolean true), ("platform", .table [("name", .string "p")])] = .ok m ∧
    Settings.schema.ofEntries [("output", .table [("x", .null), ("format", .string "json")])] =
      .ok ⟨⟨false⟩, ⟨.json, "versions.json"⟩⟩ := by
  intro m
  constructor
  case left =>
    have hp : Spelling m.platform.parts [("name", .string "p")] :=
      Given.spelling (.keep rfl (.drop rfl .nil))
    have hd : Spelling (DependencySet.parts ⟨"g", "3", ["x"]⟩)
        [("modules", .array [.string "x"]), ("group", .string "g"), ("version", .string "3")] :=
      ⟨_, [], .keep rfl (.keep rfl (.keep rfl .nil)), List.forall_mem_nil _,
        (List.perm_append_singleton _ [_, _]).symm⟩
    have hs : Value.IsTables (m.dependencySets.map DependencySet.parts) (.array [.table _]) :=
      ⟨_, rfl, .cons ⟨_, rfl, hd⟩ .nil⟩
    exact ((Spelling.reads_back.left m).right _ ⟨_, [("note", .boolean true)],
      .keep ⟨_, rfl, hp⟩ (.keep ⟨_, rfl, .swap _ _ _⟩ (.drop rfl (.keep hs (.drop rfl .nil)))),
      by simp [Manifest.parts], List.perm_append_singleton _ [_, _, _]⟩).left
  case right =>
    have ho : Spelling (OutputSettings.parts ⟨.json, "versions.json"⟩)
        [("x", .null), ("format", .string "json")] :=
      ⟨_, [("x", .null)], .keep rfl (.drop rfl .nil), by simp [OutputSettings.parts], .swap _ _ _⟩
    refine ((Spelling.reads_back.right _).right _ (Given.spelling ?_)).left
    exact .drop rfl (.keep ⟨_, rfl, ho⟩ .nil)

end PlatformCatalog
