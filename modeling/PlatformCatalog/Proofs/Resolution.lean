import PlatformCatalog.Proofs.Platform.Load
import PlatformCatalog.Proofs.Reference

namespace PlatformCatalog

open Reference

namespace Reference.Reading

def keys (r : Reading) : List String :=
  r.segments.map Segment.key

end Reference.Reading

namespace Manifest

variable {m : Manifest} {α β : Type}

def texts (m : Manifest) : List (Place × String) :=
  m.enforcedImports.zipIdx.map (fun e => (⟨.enforcedImports, e.2⟩, e.1))
    ++ m.dependencySets.zipIdx.map (fun e => (⟨.dependencySets, e.2⟩, e.1.version))
    ++ m.dependencies.zipIdx.map (fun e => (⟨.dependencies, e.2⟩, e.1))

def referencesIn (e : Place × String) : List (Place × String) :=
  (Reading.of e.2).keys.map fun key => (e.1, key)

def references (m : Manifest) : List (Place × String) :=
  m.texts.flatMap referencesIn

def filled (m : Manifest) (s : String) : String :=
  (Reading.of s).filled m.versions.get?

def filledSet (m : Manifest) (s : DependencySet) : DependencySet :=
  ⟨s.group, m.filled s.version, s.modules⟩

def resolved (m : Manifest) : Inputs where
  enforcedImports := m.enforcedImports.map m.filled
  dependencySets := m.dependencySets.map m.filledSet
  dependencies := m.dependencies.map m.filled

def unknown? (m : Manifest) (rs : List (Place × String)) : Option Failure :=
  (rs.find? fun r => (m.versions.get? r.2).isNone).map fun r => .unknownReference r.2 r.1

theorem unknown?_append (m : Manifest) (rs ss : List (Place × String)) :
    m.unknown? (rs ++ ss) = (m.unknown? rs).or (m.unknown? ss) := by
  simp [unknown?, List.find?_append, Option.map_or]

theorem unknown?_eq_none_iff {rs : List (Place × String)} :
    (m.unknown? rs = none) ↔ (∀ r ∈ rs, (m.versions.get? r.2).isSome) := by
  simp [unknown?, Option.isSome_iff_ne_none]

-- A result, unless there is a failure.
def unlessFailed (e : Option Failure) (a : α) : Except Failure α :=
  match e with
  | some e => .error e
  | none => .ok a

theorem unlessFailed_bind {e e' : Option Failure} {a : α} {b : β} {f : α → Except Failure β}
    (h : f a = unlessFailed e' b) : unlessFailed e a >>= f = unlessFailed (e.or e') b := by
  cases e
  case none => exact h
  case some => rfl

theorem expand_eq (m : Manifest) (place : Place) (s : String) :
    m.expand place s = unlessFailed (m.unknown? (referencesIn (place, s))) (m.filled s) := by
  have hp := Reading.proper_of s
  have ht := Reading.text_of s
  have hu : m.unknown? (referencesIn (place, s)) =
      ((Reading.of s).segments.find? fun x => (m.versions.get? x.key).isNone).map fun x =>
        .unknownReference x.key place := by
    simp [unknown?, referencesIn, Reading.keys, List.find?_map, Function.comp_def]
  rw [hu]
  cases hf : (Reading.of s).segments.find? fun x => (m.versions.get? x.key).isNone
  case none =>
    have hk : ∀ x ∈ (Reading.of s).segments, (m.versions.get? x.key).isSome := by
      simpa [Option.isSome_iff_ne_none] using hf
    have he := hp.expand_of_known hk
    rw [ht] at he
    rw [expand, he]
    rfl
  case some x =>
    obtain ⟨hx, before, after, hs, hk⟩ := List.find?_eq_some_iff_append.mp hf
    have he := hp.expand_of_unknown hs (by simpa [Option.isSome_iff_ne_none] using hk)
      (by simpa using hx)
    rw [ht] at he
    rw [expand, he]
    rfl

theorem mapM_eq_unlessFailed {f : α → Except Failure β} {rs : α → List (Place × String)} {g : α → β}
    (h : ∀ x, f x = unlessFailed (m.unknown? (rs x)) (g x)) (l : List α) :
    l.mapM f = unlessFailed (m.unknown? (l.flatMap rs)) (l.map g) := by
  induction l
  case nil => rfl
  case cons x l hi =>
    have hl : (do let ys ← l.mapM f; return g x :: ys) =
        unlessFailed (m.unknown? (l.flatMap rs)) (g x :: l.map g) := by
      rw [hi]
      cases m.unknown? (l.flatMap rs) <;> rfl
    rw [List.mapM_cons, h x, List.flatMap_cons, unknown?_append, List.map_cons]
    exact unlessFailed_bind hl

theorem references_eq (m : Manifest) :
    m.references =
      m.enforcedImports.zipIdx.flatMap (fun e => referencesIn (⟨.enforcedImports, e.2⟩, e.1))
        ++ (m.dependencySets.zipIdx.flatMap
            (fun e => referencesIn (⟨.dependencySets, e.2⟩, e.1.version))
          ++ m.dependencies.zipIdx.flatMap
            (fun e => referencesIn (⟨.dependencies, e.2⟩, e.1))) := by
  simp only [references, texts, List.flatMap_append, List.flatMap_map, List.append_assoc]

theorem map_zipIdx (l : List α) (f : α → β) : l.zipIdx.map (fun e => f e.1) = l.map f := by
  conv_rhs => rw [←List.zipIdx_map_fst 0 l, List.map_map]
  rfl

theorem resolve_eq (m : Manifest) :
    m.resolve = unlessFailed (m.unknown? m.references) m.resolved := by
  have hi := mapM_eq_unlessFailed
    (fun e : String × Nat => m.expand_eq ⟨.enforcedImports, e.2⟩ e.1) m.enforcedImports.zipIdx
  have hd := mapM_eq_unlessFailed
    (fun e : String × Nat => m.expand_eq ⟨.dependencies, e.2⟩ e.1) m.dependencies.zipIdx
  have hs (e : DependencySet × Nat) : (do
      let version ← m.expand ⟨.dependencySets, e.2⟩ e.1.version
      return { e.1 with version : DependencySet }) =
      unlessFailed (m.unknown? (referencesIn (⟨.dependencySets, e.2⟩, e.1.version)))
        (m.filledSet e.1) := by
    rw [expand_eq]
    cases m.unknown? (referencesIn (⟨.dependencySets, e.2⟩, e.1.version)) <;> rfl
  have hs := mapM_eq_unlessFailed hs m.dependencySets.zipIdx
  rw [map_zipIdx] at hi hs hd
  rw [resolve, hi, references_eq, unknown?_append, unknown?_append]
  apply unlessFailed_bind
  rw [hs]
  apply unlessFailed_bind
  rw [hd]
  cases m.unknown? (m.dependencies.zipIdx.flatMap
    fun e => referencesIn (⟨.dependencies, e.2⟩, e.1)) <;> rfl

theorem exists_mem_texts_iff {s : String} :
    (∃ place, (place, s) ∈ m.texts) ↔
      (s ∈ m.enforcedImports ∨ s ∈ m.dependencySets.map DependencySet.version ∨
        s ∈ m.dependencies) := by
  have ht : m.texts.map Prod.snd =
      m.enforcedImports ++ (m.dependencySets.map DependencySet.version ++ m.dependencies) := by
    simp [texts, Function.comp_def, map_zipIdx]
  rw [←List.mem_append, ←List.mem_append, ←ht]
  simp

theorem resolved_eq {f : String → String} (h : ∀ e ∈ m.texts, m.filled e.2 = f e.2) :
    m.resolved =
      { enforcedImports := m.enforcedImports.map f
        dependencySets := m.dependencySets.map fun s => { s with version := f s.version }
        dependencies := m.dependencies.map f } := by
  have hf : ∀ s, (∃ place, (place, s) ∈ m.texts) → m.filled s = f s := by
    intro s hs
    have ⟨_, hs⟩ := hs
    exact h _ hs
  rw [resolved, Inputs.mk.injEq]
  refine ⟨List.map_congr_left ?imports, List.map_congr_left ?sets, List.map_congr_left ?singles⟩
  case imports => exact fun s hs => hf s (exists_mem_texts_iff.mpr (.inl hs))
  case sets =>
    intro s hs
    rw [filledSet, hf _ (exists_mem_texts_iff.mpr (.inr (.inl (List.mem_map_of_mem hs))))]
  case singles => exact fun s hs => hf s (exists_mem_texts_iff.mpr (.inr (.inr hs)))

theorem resolve_eq_ok_iff {inputs : Inputs} :
    (m.resolve = .ok inputs) ↔
      ((∀ r ∈ m.references, (m.versions.get? r.2).isSome) ∧ inputs = m.resolved) := by
  rw [resolve_eq, ←unknown?_eq_none_iff]
  cases m.unknown? m.references <;> simp [unlessFailed, eq_comm]

variable {policy : Policy} {e : Failure}

theorem build_of_unknown (h : m.unknown? m.references = some e) :
    m.build policy = ⟨[], .error e⟩ := by
  have hr : m.resolve = .error e := by
    rw [resolve_eq, h]
    rfl
  exact Logged.bind_of_error hr _

theorem build_of_known (h : m.unknown? m.references = none) :
    m.build policy = (Publication.build policy m.resolved).lift .build .faultyEntry := by
  have hr : m.resolve = .ok m.resolved := by
    rw [resolve_eq, h]
    rfl
  exact Logged.bind_of_ok hr _

-- No entry of a manifest without unknown references fails as a manifest does.
theorem build_eq_manifest_error_iff :
    (∃ e detail, (m.build policy).result = .error e ∧ e.parts = .inr (.manifest, detail)) ↔
      (∃ e, m.unknown? m.references = some e) := by
  cases hu : m.unknown? m.references
  case none =>
    rw [build_of_known hu, Logged.result_lift]
    cases (Publication.build policy m.resolved).result <;> simp [Except.mapError, Failure.parts]
  case some e =>
    obtain ⟨r, _, rfl⟩ := Option.map_eq_some_iff.mp hu
    rw [build_of_unknown hu]
    exact ⟨fun _ => ⟨_, rfl⟩, fun _ => ⟨_, _, rfl, rfl⟩⟩

theorem build_resolves_first (m : Manifest) (policy : Policy) :
    (∀ s, (Reading.of s).Proper ∧ (Reading.of s).text = s) ∧
    ((∃ e detail, (m.build policy).result = .error e ∧ e.parts = .inr (.manifest, detail)) ↔
      (∃ r ∈ m.references, m.versions.get? r.2 = none)) ∧
    (∀ before place key after, m.references = before ++ (place, key) :: after →
      (∀ r ∈ before, (m.versions.get? r.2).isSome) → m.versions.get? key = none →
      m.build policy = ⟨[], .error (.unknownReference key place)⟩ ∧
      (Failure.unknownReference key place).parts = .inr (.manifest,
        "Unknown version reference '$\x7b" ++ key ++ "\x7d' in " ++ place.text)) ∧
    ((∀ r ∈ m.references, (m.versions.get? r.2).isSome) →
      (∀ e ∈ m.texts, m.expand e.1 e.2 = .ok (m.filled e.2)) ∧
      ∃ inputs : Inputs, m.resolve = .ok inputs ∧
        inputs.enforcedImports = m.enforcedImports.map m.filled ∧
        inputs.dependencySets =
          m.dependencySets.map (fun s => { s with version := m.filled s.version }) ∧
        inputs.dependencies = m.dependencies.map m.filled ∧
        (m.build policy).result = (Publication.build policy inputs).result.mapError .faultyEntry ∧
        (m.build policy).log = (Publication.build policy inputs).log.map .build) := by
  refine ⟨?readings, ?fails, ?first, ?known⟩
  case readings => exact fun s => ⟨Reading.proper_of s, Reading.text_of s⟩
  case fails =>
    rw [build_eq_manifest_error_iff, ←Option.isSome_iff_exists, ←Option.ne_none_iff_isSome, ne_eq,
      unknown?_eq_none_iff]
    simp
  case first =>
    intro before place key after hr hk hn
    refine ⟨build_of_unknown ?_, rfl⟩
    rw [hr, unknown?_append, unknown?_eq_none_iff.mpr hk]
    simp [unknown?, hn]
  case known =>
    intro hk
    have hu := unknown?_eq_none_iff.mpr hk
    constructor
    case left =>
      intro e he
      have hi : ∀ r ∈ referencesIn e, (m.versions.get? r.2).isSome :=
        fun r hr => hk r (List.mem_flatMap.mpr ⟨e, he, hr⟩)
      rw [expand_eq, unknown?_eq_none_iff.mpr hi]
      rfl
    case right =>
      have hb : m.build policy = _ := build_of_known hu
      refine ⟨m.resolved, ?resolve, rfl, rfl, rfl, ?result, ?log⟩
      case resolve =>
        rw [resolve_eq, hu]
        rfl
      case result => rw [hb, Logged.result_lift]
      case log =>
        rw [hb]
        rfl

def unready : Manifest where
  platform := ⟨"p", none⟩
  versions := .ofList [("v", "1.+")]
  enforcedImports := ["broken", "g:a:$\x7bv\x7d"]
  dependencySets := [⟨"$\x7bv\x7d", "$\x7bv\x7d$\x7bw\x7d", []⟩]
  dependencies := ["x:y:$\x7bz\x7d"]

def ready : Manifest :=
  { unready with versions := .ofList [("v", "1"), ("w", "+"), ("z", "2")] }

theorem build_resolves_first_unready :
    (unready.references = [(⟨.enforcedImports, 1⟩, "v"), (⟨.dependencySets, 0⟩, "v")]
      ++ (⟨.dependencySets, 0⟩, "w") :: [(⟨.dependencies, 0⟩, "z")] ∧
    unready.build .strict = ⟨[], .error (.unknownReference "w" ⟨.dependencySets, 0⟩)⟩) ∧
    ∃ inputs, ready.resolve = .ok inputs ∧
      inputs.dependencySets = [⟨"$\x7bv\x7d", "1+", []⟩] ∧
      (ready.build .strict).log = (Publication.build .strict inputs).log.map .build := by
  have hr : unready.references = [(⟨.enforcedImports, 1⟩, "v"), (⟨.dependencySets, 0⟩, "v")]
    ++ (⟨.dependencySets, 0⟩, "w") :: [(⟨.dependencies, 0⟩, "z")] := by decide +kernel
  constructor
  case left =>
    have ⟨_, _, hu, _⟩ := build_resolves_first unready .strict
    exact ⟨hr, (hu _ _ _ _ hr (by decide +kernel) (by decide +kernel)).left⟩
  case right =>
    have ⟨_, _, _, hk⟩ := build_resolves_first ready .strict
    have ⟨_, inputs, hi, _, hs, _, _, hl⟩ := hk (by decide +kernel)
    exact ⟨inputs, hi, hs.trans (by decide +kernel), hl⟩

end Manifest
end PlatformCatalog
