import Mathlib.Data.List.Basic
import Mathlib.Data.List.Induction
import Mathlib.Data.List.Nodup
import PlatformCatalog.Proofs.Logged
import PlatformCatalog.Toml.Record

namespace PlatformCatalog

variable {ε α β ρ : Type} {es : List (String × Value)} {v : Value}

theorem map_eq_ok_iff {x : Except ε α} {f : α → β} {b : β} :
    (f <$> x = .ok b) ↔ (∃ a, x = .ok a ∧ f a = b) := by
  cases x <;> simp [Functor.map, Except.map]

namespace Value

theorem toString?_eq_ok_iff {t : String} : (v.toString? = .ok t) ↔ (v = .string t) := by
  cases v <;> simp [toString?, wrongType]

theorem toBool?_eq_ok_iff {b : Bool} : (v.toBool? = .ok b) ↔ (v = .boolean b) := by
  cases v <;> simp [toBool?, wrongType]

def fields? (keys : List String) : Value → Option (List (String × Value))
  | .array items => some (keys.zip items)
  | v => v.entries?

end Value

namespace Field

variable {f : Field ρ} {key : String} {required : Bool} {read : Value → Except Misfit α}
variable {set : α → ρ → ρ} {get : ρ → β}

def Reads (f : Field ρ) (v : Value) : Prop :=
  ∃ change, f.read v = .ok change

def Spares (f : Field ρ) (get : ρ → β) : Prop :=
  ∀ v change r, f.read v = .ok change → get (change r) = get r

theorem reads_iff :
    ((Field.mk key required fun v => set <$> read v).Reads v) ↔ (∃ x, read v = .ok x) := by
  simp [Reads, map_eq_ok_iff]

theorem spares_of_set (h : ∀ x r, get (set x r) = get r) :
    (Field.mk key required fun v => set <$> read v).Spares get := by
  intro v change r hc
  obtain ⟨x, _, rfl⟩ := map_eq_ok_iff.mp hc
  exact h x r

structure Fits (f : Field ρ) (es : List (String × Value)) : Prop where
  reads : ∀ v, (f.key, v) ∈ es → f.Reads v
  given : f.required = true → ∃ v, (f.key, v) ∈ es

theorem fits_optional_iff :
    ((optional key read set).Fits es) ↔ (∀ v, (key, v) ∈ es → ∃ x, read v = .ok x) := by
  constructor
  case mp => exact fun h v hv => reads_iff.mp (h.reads v hv)
  case mpr => exact fun h => ⟨fun v hv => reads_iff.mpr (h v hv), by simp [optional]⟩

theorem fits_mandatory_iff :
    ((mandatory key read set).Fits es) ↔
      ((∀ v, (key, v) ∈ es → ∃ x, read v = .ok x) ∧ ∃ v, (key, v) ∈ es) := by
  constructor
  case mp => exact fun h => ⟨fun v hv => reads_iff.mp (h.reads v hv), h.given rfl⟩
  case mpr => exact fun h => ⟨fun v hv => reads_iff.mpr (h.left v hv), fun _ => h.right⟩

end Field

namespace Schema

variable {s : Schema ρ} {r r' : ρ} {e : String × Value} {key : String}

def keys (s : Schema ρ) : List String :=
  s.fields.map Field.key

theorem find?_fields (hn : s.keys.Nodup) {f : Field ρ} (hf : f ∈ s.fields) :
    s.fields.find? (·.key == f.key) = some f := by
  cases hg : s.fields.find? (·.key == f.key)
  case none => exact absurd (beq_self_eq_true f.key) (List.find?_eq_none.mp hg f hf)
  case some g =>
    have hk : g.key = f.key := by simpa using List.find?_some hg
    rw [List.inj_on_of_nodup_map hn (List.mem_of_find?_eq_some hg) hf hk]

theorem readEntry_of_field {f : Field ρ} (h : s.fields.find? (·.key == e.1) = some f) (r : ρ) :
    s.readEntry r e = (fun change => change r) <$> f.read e.2 := by
  rw [readEntry, h]
  rfl

theorem readEntry_of_unknown (h : s.fields.find? (·.key == e.1) = none) (r : ρ) :
    s.readEntry r e = .ok r := by
  rw [readEntry, h]

theorem readEntry_cases (h : s.readEntry r e = .ok r') :
    (r' = r ∧ ∀ f ∈ s.fields, f.key ≠ e.1) ∨
      ∃ f ∈ s.fields, f.key = e.1 ∧ s.fields.find? (·.key == e.1) = some f ∧
        ∃ change, f.read e.2 = .ok change ∧ r' = change r := by
  cases hf : s.fields.find? (·.key == e.1)
  case none =>
    rw [readEntry_of_unknown hf] at h
    cases h
    exact .inl ⟨rfl, by simpa using hf⟩
  case some f =>
    rw [readEntry_of_field hf] at h
    obtain ⟨change, hc, rfl⟩ := map_eq_ok_iff.mp h
    have hk : f.key = e.1 := by simpa using List.find?_some hf
    exact .inr ⟨f, List.mem_of_find?_eq_some hf, hk, rfl, change, hc, rfl⟩

theorem exists_readEntry_iff (hn : s.keys.Nodup) (r : ρ) (e : String × Value) :
    (∃ r', s.readEntry r e = .ok r') ↔ (∀ f ∈ s.fields, f.key = e.1 → f.Reads e.2) := by
  constructor
  case mp =>
    rintro ⟨r', h⟩ f hf hk
    cases readEntry_cases h
    case inl hu => exact absurd hk (hu.right f hf)
    case inr hk' =>
      obtain ⟨g, _, _, hg, change, hc, _⟩ := hk'
      rw [←hk, find?_fields hn hf] at hg
      cases hg
      exact ⟨change, hc⟩
  case mpr =>
    intro h
    cases hf : s.fields.find? (·.key == e.1)
    case none => exact ⟨r, readEntry_of_unknown hf r⟩
    case some f =>
      have hk : f.key = e.1 := by simpa using List.find?_some hf
      obtain ⟨change, hc⟩ := h f (List.mem_of_find?_eq_some hf) hk
      exact ⟨change r, by rw [readEntry_of_field hf, hc]; rfl⟩

theorem exists_foldlM_iff (hn : s.keys.Nodup) (r : ρ) (es : List (String × Value)) :
    (∃ r', es.foldlM s.readEntry r = .ok r') ↔
      (∀ e ∈ es, ∀ f ∈ s.fields, f.key = e.1 → f.Reads e.2) := by
  induction es generalizing r
  case nil => simp [pure, Except.pure]
  case cons e es hi =>
    simp only [List.foldlM_cons, bind_eq_ok_iff, List.forall_mem_cons]
    constructor
    case mp =>
      rintro ⟨r', r₁, he, hes⟩
      exact ⟨(exists_readEntry_iff hn r e).mp ⟨r₁, he⟩, (hi r₁).mp ⟨r', hes⟩⟩
    case mpr =>
      rintro ⟨he, hes⟩
      obtain ⟨r₁, he⟩ := (exists_readEntry_iff hn r e).mpr he
      obtain ⟨r', hes⟩ := (hi r₁).mpr hes
      exact ⟨r', r₁, he, hes⟩

theorem ofEntries_eq_ok_iff :
    (s.ofEntries es = .ok r) ↔
      (es.foldlM s.readEntry s.blank = .ok r ∧
        ∀ f ∈ s.fields, f.required = true → ∃ v, (f.key, v) ∈ es) := by
  have hm : (s.missing? es = none) ↔
      (∀ f ∈ s.fields, f.required = true → ∃ v, (f.key, v) ∈ es) := by
    simp [missing?, List.find?_eq_none]
  rw [ofEntries, bind_eq_ok_iff, ←hm]
  constructor
  case mp =>
    rintro ⟨r', hr, h⟩
    split at h
    case h_1 => cases h
    case h_2 hn =>
      cases h
      exact ⟨hr, hn⟩
  case mpr =>
    rintro ⟨hr, hn⟩
    exact ⟨r, hr, by rw [hn]; rfl⟩

theorem exists_ofEntries_iff (hn : s.keys.Nodup) (es : List (String × Value)) :
    (∃ r, s.ofEntries es = .ok r) ↔ (∀ f ∈ s.fields, f.Fits es) := by
  simp only [ofEntries_eq_ok_iff, exists_and_right, exists_foldlM_iff hn]
  constructor
  case mp =>
    rintro ⟨hr, hg⟩ f hf
    exact ⟨fun v hv => hr (f.key, v) hv f hf rfl, hg f hf⟩
  case mpr =>
    intro h
    refine ⟨?_, fun f hf => (h f hf).given⟩
    rintro ⟨k, v⟩ he f hf rfl
    exact (h f hf).reads v he

-- A part of the record that entries under `key` set to what is read from them, and that no other
-- entry changes.
structure Sets (s : Schema ρ) (key : String) (read : Value → Except Misfit α) (get : ρ → α) :
    Prop where
  own   : ∀ {r v r'}, s.readEntry r (key, v) = .ok r' → read v = .ok (get r')
  other : ∀ {r e r'}, e.1 ≠ key → s.readEntry r e = .ok r' → get r' = get r

def Stands (given : Option Value) (Spells : α → Value → Prop) (default x : α) : Prop :=
  match given with
  | some v => Spells x v
  | none => x = default

variable {read : Value → Except Misfit α} {get : ρ → α}

theorem Sets.of_field {required : Bool} {readField : Value → Except Misfit β} {set : β → ρ → ρ}
    (hf : s.fields.find? (·.key == key) = some ⟨key, required, fun v => set <$> readField v⟩)
    (hs : ∀ v x r, readField v = .ok x → read v = .ok (get (set x r)))
    (ho : ∀ f ∈ s.fields, f.key ≠ key → f.Spares get) : s.Sets key read get where
  own h := by
    rw [readEntry_of_field hf] at h
    obtain ⟨change, hc, rfl⟩ := map_eq_ok_iff.mp h
    obtain ⟨x, hx, rfl⟩ := map_eq_ok_iff.mp hc
    exact hs _ x _ hx
  other hne h := by
    cases readEntry_cases h
    case inl hu => rw [hu.left]
    case inr hk =>
      obtain ⟨f, hm, hk, _, change, hc, rfl⟩ := hk
      exact ho f hm (hk ▸ hne) _ change _ hc

-- The last of the entries under a key decides.
theorem Sets.foldlM (h : s.Sets key read get) (hr : es.foldlM s.readEntry r = .ok r') :
    Stands (es.reverse.lookup key) (fun x v => read v = .ok x) (get r) (get r') := by
  induction es using List.reverseRecOn generalizing r'
  case nil =>
    cases hr
    rfl
  case append_singleton es e hi =>
    simp only [List.foldlM_append, List.foldlM_cons, List.foldlM_nil, bind_pure,
      bind_eq_ok_iff] at hr
    obtain ⟨r₁, hr₁, he⟩ := hr
    obtain ⟨k, v⟩ := e
    rw [List.reverse_concat, List.lookup_cons]
    by_cases hk : k = key
    case pos =>
      subst hk
      rw [beq_self_eq_true]
      exact h.own he
    case neg =>
      rw [beq_false_of_ne (Ne.symm hk), h.other hk he]
      exact hi hr₁

theorem Sets.ofEntries (h : s.Sets key read get) (hr : s.ofEntries es = .ok r) :
    Stands (es.reverse.lookup key) (fun x v => read v = .ok x) (get s.blank) (get r) :=
  h.foldlM (ofEntries_eq_ok_iff.mp hr).left

theorem readItems_eq_foldlM {total : Nat} {fs : List (Field ρ)}
    (hf : ∀ f ∈ fs, s.fields.find? (·.key == f.key) = some f ∧ f.required = false)
    (items : List Value) (r : ρ) :
    s.readItems .ignored total fs items r =
      ((fs.map Field.key).zip items).foldlM s.readEntry r := by
  induction fs generalizing items r
  case nil => cases items <;> rfl
  case cons f fs hi =>
    have ⟨⟨hk, hq⟩, hfs⟩ := List.forall_mem_cons.mp hf
    cases items
    case nil =>
      rw [readItems, hq, if_neg Bool.false_ne_true, hi hfs]
      simp
    case cons v vs =>
      have he : s.readEntry r (f.key, v) = (fun change => change r) <$> f.read v :=
        readEntry_of_field hk r
      rw [readItems, List.map_cons, List.zip_cons_cons, List.foldlM_cons, he]
      cases f.read v
      case error => rfl
      case ok change => exact hi hfs vs (change r)

theorem read_eq_ok_iff (hn : s.keys.Nodup) (hq : ∀ f ∈ s.fields, f.required = false) :
    (s.read .ignored v = .ok r) ↔ (∃ es, v.fields? s.keys = some es ∧ s.ofEntries es = .ok r) := by
  have ha (items : List Value) :
      (s.read .ignored (.array items) = .ok r) ↔ (s.ofEntries (s.keys.zip items) = .ok r) := by
    have hg : ∀ f ∈ s.fields, f.required = true → ∃ v, (f.key, v) ∈ s.keys.zip items := by
      intro f hf hr
      cases (hq f hf).symm.trans hr
    rw [ofEntries_eq_ok_iff, and_iff_left hg, read]
    exact iff_of_eq (congrArg (· = _)
      (readItems_eq_foldlM (fun f hf => ⟨find?_fields hn hf, hq f hf⟩) items s.blank))
  cases v
  case array items => simp [Value.fields?, ha]
  all_goals simp [read, Value.fields?, Value.entries?, Value.wrongType]

theorem exists_read_iff (hn : s.keys.Nodup) (hq : ∀ f ∈ s.fields, f.required = false) (v : Value) :
    (∃ r, s.read .ignored v = .ok r) ↔
      (∃ es, v.fields? s.keys = some es ∧ ∀ f ∈ s.fields, f.Fits es) := by
  simp only [read_eq_ok_iff hn hq, ←exists_ofEntries_iff hn]
  constructor
  case mp =>
    rintro ⟨r, es, he, hr⟩
    exact ⟨es, he, r, hr⟩
  case mpr =>
    rintro ⟨es, he, r, hr⟩
    exact ⟨r, es, he, hr⟩

end Schema

theorem Toml.readRecord_eq_ok_iff {s : Schema ρ} {text : String} {r : ρ} :
    (readRecord s text = .ok r) ↔ (∃ es, parse? text = some es ∧ s.ofEntries es = .ok r) := by
  unfold readRecord
  cases parse? text
  case none => simp
  case some es => simp [mapError_eq_ok_iff]

end PlatformCatalog
