import PlatformCatalog.Log
import PlatformCatalog.Proofs.Build.Result

namespace PlatformCatalog

variable {inputs : Inputs} {p : Publication} {place : Place} {c : Coordinate} {cs : List Coordinate}

def BuildEvent.Warns (e : BuildEvent) : Prop :=
  (Event.build e).level = .warn

theorem BuildEvent.Warns.dynamicVersion (c : Coordinate) (place : Place) :
    (BuildEvent.dynamicVersion c place).Warns := rfl

theorem BuildEvent.Warns.exists_eq {e : BuildEvent} (h : e.Warns) :
    ∃ c place, e = .dynamicVersion c place := by
  cases e
  case dynamicVersion c place => exact ⟨c, place, rfl⟩
  all_goals cases h

theorem BuildEvent.eq_of_first_warning {before before' after after' : List BuildEvent}
    {w w' : BuildEvent} (h : before ++ w :: after = before' ++ w' :: after')
    (hb : ∀ e ∈ before, ¬e.Warns) (hb' : ∀ e ∈ before', ¬e.Warns) (hw : w.Warns) (hw' : w'.Warns) :
    before = before' ∧ w = w' := by
  induction before generalizing before' <;> cases before'
  case nil.nil => exact ⟨rfl, (List.cons.inj h).left⟩
  case nil.cons => exact absurd ((List.cons.inj h).left ▸ hw) (hb' _ (.head _))
  case cons.nil => exact absurd ((List.cons.inj h).left ▸ hw') (hb _ (.head _))
  case cons.cons hi _ _ =>
    have ⟨he, h⟩ := List.cons.inj h
    have ⟨ht, hw⟩ := hi h (fun e he => hb e (.tail _ he)) (fun e he => hb' e (.tail _ he))
    exact ⟨by rw [he, ht], hw⟩

theorem Entry.fault?_strict_eq_none_iff {entry : Entry} :
    (entry.fault? .strict place = none) ↔
      (entry.fault? .permissive place = none ∧ ∀ c ∈ entry.parts, c.hasDynamicVersion = false) := by
  cases entry.broken_or_sound place
  case inl h =>
    have ⟨e, h⟩ := h
    simp [h.fault]
  case inr h =>
    have ⟨c, cs, h⟩ := h
    have hv : (∀ d ∈ c :: cs, d.hasDynamicVersion = false) ↔ isDynamicVersion c.version = false := by
      constructor
      case mp => exact fun hd => hd c (.head _)
      case mpr => exact fun hc d hd => by rw [Coordinate.hasDynamicVersion, h.version d hd, hc]
    rw [h.parts, hv, h.fault, h.fault]
    cases hd : isDynamicVersion c.version <;> simp [hd]

namespace Publication

theorem hasDynamicVersion_of_mem_events {e : BuildEvent} (h : e ∈ p.events place c)
    (hw : e.Warns) : c.hasDynamicVersion = true := by
  have ⟨d, place', hd⟩ := hw.exists_eq
  subst hd
  cases List.mem_append.mp h
  case inl h => simp_all
  case inr h =>
    -- An override is no warning.
    cases hg : p.catalog.get? c.group <;> simp [override, hg] at h

theorem not_warns_of_mem_addAll (h : ∀ c ∈ cs, c.hasDynamicVersion = false) :
    ∀ e ∈ (p.addAll place cs).1, ¬e.Warns := by
  induction cs generalizing p
  case nil => simp [addAll]
  case cons c cs hi =>
    intro e he hw
    simp only [addAll, List.mem_append] at he
    cases he
    case inl he => simp [hasDynamicVersion_of_mem_events he hw] at h
    case inr he => exact hi (fun d hd => h d (.tail _ hd)) e he hw

theorem addAll_fst_of_dynamic (p : Publication) (place : Place) (cs : List Coordinate)
    (h : c.hasDynamicVersion = true) :
    ∃ log, (p.addAll place (c :: cs)).1 = .dynamicVersion c place :: log := by
  simp [addAll, events, h]

-- A run that goes like another one and fails where that one first warns.
inductive CutAtWarning : Logged BuildEvent BuildError Publication →
    Logged BuildEvent BuildError Publication → Prop
  | quiet {run} (h : ∀ e ∈ run.log, ¬e.Warns) : CutAtWarning run run
  | warned {before c place after result} (h : ∀ e ∈ before, ¬e.Warns) :
    CutAtWarning ⟨before, .error (.dynamicVersion c.text place)⟩
      ⟨before ++ .dynamicVersion c place :: after, result⟩

theorem CutAtWarning.prepend {x y : Logged BuildEvent BuildError Publication}
    {log : List BuildEvent} (hl : ∀ e ∈ log, ¬e.Warns) (h : CutAtWarning x y) :
    CutAtWarning ⟨log ++ x.log, x.result⟩ ⟨log ++ y.log, y.result⟩ := by
  cases h
  case quiet h =>
    apply CutAtWarning.quiet
    simpa [or_imp, forall_and] using ⟨hl, h⟩
  case warned before c place after result h =>
    rw [←List.append_assoc]
    apply CutAtWarning.warned
    simpa [or_imp, forall_and] using ⟨hl, h⟩

theorem CutAtWarning.bind {x y : Logged BuildEvent BuildError Publication}
    {f : Publication → Logged BuildEvent BuildError Publication}
    (hf : ∀ p, ∀ e ∈ (f p).log, ¬e.Warns) (h : CutAtWarning x y) :
    CutAtWarning (x.bind f) (y.bind f) := by
  cases h
  case quiet h =>
    apply CutAtWarning.quiet
    cases hr : x.result
    case error e => simpa [Logged.bind_of_error hr] using h
    case ok p => simpa [Logged.bind_of_ok hr, or_imp, forall_and] using ⟨h, hf p⟩
  case warned before c place after result h =>
    cases result
    case error e => exact .warned h
    case ok p =>
      simp only [Logged.bind, List.append_assoc, List.cons_append]
      exact .warned h

theorem CutAtWarning.eq_of_not_warns {x y : Logged BuildEvent BuildError Publication}
    (h : CutAtWarning x y) (hq : ∀ e ∈ y.log, ¬e.Warns) : x = y := by
  cases h
  case quiet => rfl
  case warned before c place after result h =>
    exact absurd (.dynamicVersion c place) (hq (.dynamicVersion c place) (by simp))

theorem CutAtWarning.eq_of_first_warning {x y : Logged BuildEvent BuildError Publication}
    {before after : List BuildEvent} {w : BuildEvent} (h : CutAtWarning x y)
    (hl : y.log = before ++ w :: after) (hb : ∀ e ∈ before, ¬e.Warns) (hw : w.Warns) :
    ∃ c place, w = .dynamicVersion c place ∧
      x = ⟨before, .error (.dynamicVersion c.text place)⟩ := by
  cases h
  case quiet h => exact absurd hw (h w (by simp [hl]))
  case warned c place after' result h =>
    have ⟨he, hc⟩ := BuildEvent.eq_of_first_warning hl h hb (.dynamicVersion c place) hw
    exact ⟨c, place, hc.symm, by rw [he]⟩

-- One entry keeps the two runs in step, or is where the strict one fails. Then all coordinates of the
-- entry are dynamic, so the permissive run logs nothing for it before its warning.
theorem extend_cutAtWarning (p : Publication) (es : List (Place × Entry)) :
    CutAtWarning (extend .strict p es) (extend .permissive p es) := by
  induction es generalizing p
  case nil => exact .quiet (by simp [extend_nil])
  case cons hd tl hi =>
    obtain ⟨place, entry⟩ := hd
    cases entry.broken_or_sound place
    case inl h =>
      obtain ⟨e, h⟩ := h
      rw [extend_of_fault (h.fault .strict), extend_of_fault (h.fault .permissive)]
      exact .quiet (by simp)
    case inr h =>
      obtain ⟨c, cs, h⟩ := h
      have hp : entry.fault? .permissive place = none := by simp [h.fault]
      rw [extend_of_clean hp]
      cases hd : isDynamicVersion c.version
      case false =>
        have hs : entry.fault? .strict place = none := by simp [h.fault, hd]
        rw [extend_of_clean hs]
        exact (hi _).prepend (not_warns_of_mem_addAll (Entry.fault?_strict_eq_none_iff.mp hs).right)
      case true =>
        have hs : entry.fault? .strict place = some (.dynamicVersion c.text place) := by
          simp [h.fault, hd]
        obtain ⟨log, hl⟩ := addAll_fst_of_dynamic p place cs hd
        have hn : ∀ e ∈ ([] : List BuildEvent), ¬e.Warns := by simp
        rw [extend_of_fault hs, h.parts, hl]
        exact .warned hn

theorem build_cutAtWarning (inputs : Inputs) :
    CutAtWarning (build .strict inputs) (build .permissive inputs) := by
  have hs : ∀ e ∈ [started inputs], ¬e.Warns := by simp [started, BuildEvent.Warns, Event.level]
  have hf : ∀ p, ∀ e ∈ (finish p).log, ¬e.Warns := by simp [finish, BuildEvent.Warns, Event.level]
  rw [build_eq, build_eq]
  exact ((extend_cutAtWarning empty inputs.entries).bind hf).prepend hs

theorem build_strict_eq_ok_iff :
    ((build .strict inputs).result = .ok p) ↔
      ((build .permissive inputs).result = .ok p ∧
        ∀ c ∈ p.imports ++ p.constraints, isDynamicVersion c.version = false) := by
  simp only [build_eq_ok_iff, Inputs.fault?, List.findSome?_eq_none_iff,
    Entry.fault?_strict_eq_none_iff]
  constructor
  case mp =>
    rintro ⟨hf, hp⟩
    subst hp
    refine ⟨⟨fun e he => (hf e he).left, rfl⟩, fun c hc => ?_⟩
    rw [Inputs.imports_append_constraints] at hc
    obtain ⟨e, he, hc⟩ := List.mem_flatMap.mp hc
    exact (hf e he).right c hc
  case mpr =>
    rintro ⟨⟨hf, hp⟩, hd⟩
    subst hp
    rw [Inputs.imports_append_constraints] at hd
    exact ⟨fun e he => ⟨hf e he, fun c hc => hd c (List.mem_flatMap_of_mem he hc)⟩, rfl⟩

theorem CutAtWarning.ok_or_dynamicVersion {x y : Logged BuildEvent BuildError Publication}
    (h : CutAtWarning x y) (hy : y.result = .ok p) :
    (x.result = .ok p) ∨ (∃ literal place, x.result = .error (.dynamicVersion literal place)) := by
  cases h
  case quiet => exact .inl hy
  case warned before c place after result _ => exact .inr ⟨c.text, place, rfl⟩

theorem build_strict_of_ok {policy : Policy} (h : (build policy inputs).result = .ok p) :
    ((build .strict inputs).result = .ok p) ∨
      (∃ literal place, (build .strict inputs).result = .error (.dynamicVersion literal place)) := by
  cases policy
  case strict => exact .inl h
  case permissive => exact (build_cutAtWarning inputs).ok_or_dynamicVersion h

theorem build_strict_eq_ok_iff_of_policy (policy : Policy) (inputs : Inputs) (p : Publication) :
    ((build .strict inputs).result = .ok p) ↔
      ((build policy inputs).result = .ok p ∧
        ∀ c ∈ p.imports ++ p.constraints, isDynamicVersion c.version = false) := by
  cases policy
  case permissive => exact build_strict_eq_ok_iff
  case strict => exact ⟨fun h => ⟨h, (build_strict_eq_ok_iff.mp h).right⟩, fun h => h.left⟩

theorem build_strict_eq_build_permissive (inputs : Inputs) :
    ((∀ e ∈ (build .permissive inputs).log, ¬e.Warns) →
      build .strict inputs = build .permissive inputs) ∧
    (∀ before w after, (build .permissive inputs).log = before ++ w :: after →
      (∀ e ∈ before, ¬e.Warns) → w.Warns →
      ∃ literal place, w.message = s!"{literal} ({place.text}) uses a dynamic version" ∧
        build .strict inputs = ⟨before, .error (.dynamicVersion literal place)⟩) ∧
    (∀ p, ((build .strict inputs).result = .ok p) ↔
      ((build .permissive inputs).result = .ok p ∧
        ∀ c ∈ p.imports ++ p.constraints, isDynamicVersion c.version = false)) := by
  have h := build_cutAtWarning inputs
  refine ⟨h.eq_of_not_warns, ?_, fun p => build_strict_eq_ok_iff⟩
  intro before w after hl hb hw
  have ⟨c, place, hw, hs⟩ := h.eq_of_first_warning hl hb hw
  subst hw
  exact ⟨c.text, place, rfl, hs⟩

def warning : Inputs where
  enforcedImports := ["a:b:1", "a:c:2.+"]
  dependencySets := [⟨"a", "[3,)", ["d", "e"]⟩]
  dependencies := ["f"]

theorem build_strict_warning :
    (build .permissive warning).result =
      .error (.malformedCoordinate "f" ⟨.dependencies, 0⟩ (.fieldCount 1)) ∧
    ∃ literal place,
      build .strict warning = ⟨[.started 2 1 1], .error (.dynamicVersion literal place)⟩ := by
  have hl : (build .permissive warning).log = [.started 2 1 1]
      ++ .dynamicVersion ⟨"a", "c", "2.+"⟩ ⟨.enforcedImports, 1⟩ :: [.overridden "a" "1" "2.+",
        .dynamicVersion ⟨"a", "d", "[3,)"⟩ ⟨.dependencySets, 0⟩, .overridden "a" "2.+" "[3,)",
        .dynamicVersion ⟨"a", "e", "[3,)"⟩ ⟨.dependencySets, 0⟩] := by decide +kernel
  have hb : ∀ e ∈ [BuildEvent.started 2 1 1], ¬e.Warns := by simp [BuildEvent.Warns, Event.level]
  have ⟨literal, place, _, hs⟩ := (build_strict_eq_build_permissive warning).right.left _ _ _ hl hb
    (.dynamicVersion _ _)
  exact ⟨by decide +kernel, literal, place, hs⟩

end Publication
end PlatformCatalog
