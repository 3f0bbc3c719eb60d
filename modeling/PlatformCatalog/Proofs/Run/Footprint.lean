import PlatformCatalog.Proofs.Disk.AllOrNothing
import PlatformCatalog.Proofs.Run.SettingsFile

namespace PlatformCatalog.Operation

variable {α β γ : Type} {f : World → γ} {P : Failure → Prop}
variable {x : Operation Simulation α} {g : α → Operation Simulation β}
variable {c : Conditions} {s : World} {env : Environment} {inv : Invocation} {output : Option Path}

def Keeps (f : World → γ) (x : Operation Simulation α) : Prop :=
  ∀ c s, f (x.after c s).2 = f s

-- The same, but only where the operation fails in one of the ways that are considered.
def KeepsOnFailure (f : World → γ) (P : Failure → Prop) (x : Operation Simulation α) : Prop :=
  ∀ c s e, (x.after c s).1 = .error e → P e → f (x.after c s).2 = f s

def Succeeds (x : Operation Simulation α) : Prop :=
  ∀ c s, ∃ a, (x.after c s).1 = .ok a

namespace Keeps

theorem bind (hx : x.Keeps f) (hg : ∀ a, (g a).Keeps f) : (x >>= g).Keeps f := by
  intro c s
  cases h : x.after c s
  case mk r t =>
    have ht : f t = f s := by rw [←hx c s, h]
    cases r
    case error e => rw [after_bind_of_error h, ht]
    case ok a => rw [after_bind_of_ok h, hg a c t, ht]

theorem onFailure (h : x.Keeps f) (P : Failure → Prop) : x.KeepsOnFailure f P :=
  fun c s _ _ _ => h c s

theorem take (hf : ∀ (s : World) log, f { s with log } = f s) (step : Step α) :
    (take step).Keeps f := by
  intro c s
  rw [after_take]
  exact hf s _

section

variable (hf : ∀ (s : World) log, f { s with log } = f s)
include hf

theorem manifest (named : Option Path) : (Operation.manifest named).Keeps f := by
  intro c s
  rw [after_manifest]
  exact take hf _ c s

theorem settings (path : Path) : (Operation.settings path).Keeps f := by
  intro c s
  rw [after_settings]
  exact take hf _ c s

theorem load (settings : Settings) (manifest : Path) (denyDynamic : Bool) :
    (load settings manifest denyDynamic).Keeps f := by
  intro c s
  rw [after_load]
  exact take hf _ c s

end

end Keeps

namespace Succeeds

theorem pure (a : α) : (pure a : Operation Simulation α).Succeeds :=
  fun _ _ => ⟨a, rfl⟩

theorem ask (x : Simulation α) : (ask x).Succeeds :=
  fun _ _ => ⟨_, rfl⟩

theorem bind (hx : x.Succeeds) (hg : ∀ a, (g a).Succeeds) : (x >>= g).Succeeds := by
  intro c s
  obtain ⟨a, ha⟩ := hx c s
  obtain ⟨b, hb⟩ := hg a c (x.after c s).2
  exact ⟨b, by rw [after_bind_of_ok (Prod.ext ha rfl), hb]⟩

theorem keepsOnFailure (h : x.Succeeds) (f : World → γ) (P : Failure → Prop) :
    x.KeepsOnFailure f P := by
  intro c s e he
  obtain ⟨a, ha⟩ := h c s
  cases ha.symm.trans he

end Succeeds

namespace KeepsOnFailure

theorem bind (hx : x.Keeps f) (hg : ∀ a, (g a).KeepsOnFailure f P) :
    (x >>= g).KeepsOnFailure f P := by
  intro c s e he hp
  cases h : x.after c s
  case mk r t =>
    have ht : f t = f s := by rw [←hx c s, h]
    cases r
    case error e => rw [after_bind_of_error h, ht]
    case ok a =>
      rw [after_bind_of_ok h] at he ⊢
      rw [hg a c t e he hp, ht]

theorem bind_of_succeeds (hx : x.KeepsOnFailure f P) (hg : ∀ a, (g a).Succeeds) :
    (x >>= g).KeepsOnFailure f P := by
  intro c s e he hp
  cases h : x.after c s
  case mk r t =>
    cases r
    case error e' =>
      rw [after_bind_of_error h] at he ⊢
      cases he
      have hk := hx c s e (by rw [h])
      rw [h] at hk
      exact hk hp
    case ok a =>
      rw [after_bind_of_ok h] at he
      obtain ⟨b, hb⟩ := hg a c t
      cases hb.symm.trans he

theorem deliver {d : Delivery}
    (h : (writeAtomic d.target (Text.bytes d.contents)).KeepsOnFailure f P) :
    (deliver d).KeepsOnFailure f P :=
  h.bind_of_succeeds fun _ => (Succeeds.ask _).bind fun _ => (Succeeds.ask _).bind fun _ => .pure _

-- Every command prints and writes after the last thing that can go wrong.
theorem perform (hf : ∀ (s : World) log, f { s with log } = f s)
    (hw : ∀ target contents, (writeAtomic target contents).KeepsOnFailure f P)
    (settings : Settings) (manifest : Path) (command : Command) :
    (perform settings manifest command).KeepsOnFailure f P := by
  have hl := Keeps.load hf settings manifest
  cases command
  case report json => exact bind (hl false) fun p => (Succeeds.ask _).keepsOnFailure f P
  case check denyDynamic =>
    apply bind_of_succeeds _ fun _ => .pure _
    apply bind (hl denyDynamic)
    exact fun p => ((Succeeds.ask _).bind fun _ => .pure _).keepsOnFailure f P
  case versionOf group =>
    apply bind_of_succeeds _ fun _ => .pure _
    apply bind (hl false)
    intro p
    split
    case h_1 => exact Keeps.onFailure (fun _ _ => rfl) P
    case h_2 => exact ((Succeeds.ask _).bind fun _ => .pure _).keepsOnFailure f P
  case exportCatalog output =>
    apply bind_of_succeeds _ fun _ => .pure _
    exact bind (hl false) fun p => deliver (hw _ _)

theorem dispatch (hf : ∀ (s : World) log, f { s with log } = f s)
    (hw : ∀ target contents, (writeAtomic target contents).KeepsOnFailure f P)
    (env : Environment) (inv : Invocation) : (dispatch env inv).KeepsOnFailure f P :=
  bind (Keeps.manifest hf inv.manifest) fun manifest =>
    bind (Keeps.settings hf env.settingsFile) fun settings =>
      perform hf hw settings manifest inv.command

end KeepsOnFailure

theorem keeps_stdout_writeAtomic (target : Path) (contents : Bytes) :
    (writeAtomic target contents).Keeps World.stdout := by
  intro c s
  rw [after_writeAtomic, after_take]

theorem keepsOnFailure_disk_writeAtomic (target : Path) (contents : Bytes) :
    (writeAtomic target contents).KeepsOnFailure World.disk Failure.Early := by
  intro c s e h he
  rw [after_writeAtomic, after_take, Logged.result_lift] at h
  cases hr : (c.writeAtomic s.disk target contents).2.result <;> rw [hr] at h <;> cases h
  cases he

theorem keeps_disk_perform {command : Command} (h : ∀ output, command ≠ .exportCatalog output)
    (settings : Settings) (manifest : Path) :
    (perform settings manifest command).Keeps World.disk := by
  have hl := Keeps.load (f := World.disk) (fun _ _ => rfl) settings manifest
  cases command
  case report json => exact (hl false).bind fun p _ _ => rfl
  case check denyDynamic => exact ((hl denyDynamic).bind fun p _ _ => rfl).bind fun _ _ _ => rfl
  case versionOf group =>
    refine Keeps.bind ((hl false).bind fun p => ?_) fun _ _ _ => rfl
    split <;> exact fun _ _ => rfl
  case exportCatalog output => exact absurd rfl (h output)

theorem allOrNothing_writeAtomic (c : Conditions) (d : Disk) (target : Path) (contents : Bytes) :
    AllOrNothing ⟨d, c.cwd⟩ target contents (c.writeAtomic d target contents).1
      (c.writeAtomic d target contents).2.result := by
  let a : AtomicWrite := ⟨target, [contents], d.freshName (Workspace.names target)⟩
  have h := a.allOrNothing_run ⟨d, c.cwd⟩ c.refuse
  rwa [List.flatten_singleton] at h

theorem after_deliver_eq (d : Delivery) (c : Conditions) (s : World) :
    ((deliver d).after c s).2.disk =
        (c.writeAtomic s.disk d.target (Text.bytes d.contents)).1 ∧
      ((deliver d).after c s).1 =
        ((c.writeAtomic s.disk d.target (Text.bytes d.contents)).2.result.mapError
          (.notWritten d.target)).map fun _ => d.target := by
  have hw := after_writeAtomic d.target (Text.bytes d.contents) c s
  rw [after_take, Logged.result_lift] at hw
  cases hr : (c.writeAtomic s.disk d.target (Text.bytes d.contents)).2.result
  case error fault =>
    rw [hr] at hw
    rw [deliver, after_bind_of_error hw]
    exact ⟨rfl, rfl⟩
  case ok =>
    rw [hr] at hw
    rw [after_deliver_of_ok hw]
    exact ⟨rfl, rfl⟩

-- An export has loaded its platform and goes on to write `contents` to `target`.
structure Writes (c : Conditions) (s : World) (env : Environment) (inv : Invocation)
    (output : Option Path) (r : Except Failure Unit × World) (target : Path) (contents : Bytes) :
    Prop where
  loaded : ∃ manifest settings p,
    findManifest inv.manifest (Workspace.workingDirectory ⟨s.disk, c.cwd⟩) (c.see s.disk) =
      .ok manifest ∧
    (Settings.loadOrDefault (c.see s.disk) env.settingsFile).result = .ok settings ∧
    (Platform.load (c.see s.disk) settings manifest false).result = .ok p ∧
    target = output.getD (p.root.join (.ofString settings.output.exportFile)) ∧
    contents = Text.bytes (Json.pretty p.publication.catalog.toValue ++ "\n")
  disk   : r.2.disk = (c.writeAtomic s.disk target contents).1
  result : r.1 = (c.writeAtomic s.disk target contents).2.result.mapError (.notWritten target)
  limits : AllOrNothing ⟨s.disk, c.cwd⟩ target contents r.2.disk
    (c.writeAtomic s.disk target contents).2.result

structure LeavesNoOutput (c : Conditions) (s : World) (env : Environment) (inv : Invocation)
    (r : Except Failure Unit × World) : Prop where
  silent   : ∀ e, r.1 = .error e → r.2.stdout = s.stdout
  reading  : (∀ output, inv.command ≠ .exportCatalog output) → r.2.disk = s.disk
  early    : ∀ e, r.1 = .error e → e.Early → r.2.disk = s.disk
  exported : ∀ output, inv.command = .exportCatalog output →
    (∃ e, r.1 = .error e ∧ e.Early) ∨ ∃ target contents, Writes c s env inv output r target contents

theorem exists_after_of_take {step : Step α} (h : x.after c s = (take step).after c s) :
    ∃ t, t.disk = s.disk ∧ x.after c s = (step.result, t) :=
  ⟨{ s with log := s.log ++ step.log }, rfl, h.trans (after_take step c s)⟩

theorem exists_load_of_export (c : Conditions) (s : World) (env : Environment)
    (hc : inv.command = .exportCatalog output) :
    (∃ e, ((dispatch env inv).after c s).1 = .error e ∧ e.Early) ∨ ∃ manifest settings p t,
      findManifest inv.manifest (Workspace.workingDirectory ⟨s.disk, c.cwd⟩) (c.see s.disk) =
        .ok manifest ∧
      (Settings.loadOrDefault (c.see s.disk) env.settingsFile).result = .ok settings ∧
      (Platform.load (c.see s.disk) settings manifest false).result = .ok p ∧ t.disk = s.disk ∧
      (dispatch env inv).after c s =
        ((fun _ => ()) <$> deliver (p.delivered settings output)).after c t := by
  obtain ⟨t, ht, hm⟩ := exists_after_of_take (after_manifest inv.manifest c s)
  rw [Logged.result_ofExcept] at hm
  cases hf : findManifest inv.manifest (Workspace.workingDirectory ⟨s.disk, c.cwd⟩) (c.see s.disk)
  case error e =>
    rw [hf] at hm
    refine .inl ⟨e, ?_, failsOnly_findManifest _ _ _ e hf⟩
    rw [dispatch, after_bind_of_error hm]
  case ok manifest =>
    rw [hf] at hm
    obtain ⟨settings, hr⟩ := Settings.exists_loadOrDefault (c.see s.disk) env.settingsFile
    obtain ⟨t', ht', hs⟩ := exists_after_of_take (after_settings env.settingsFile c t)
    obtain ⟨t'', ht'', hl⟩ := exists_after_of_take (after_load settings manifest false c t')
    rw [ht, hr] at hs
    rw [ht', ht] at hl
    rw [dispatch, after_bind_of_ok hm, after_bind_of_ok hs, hc, perform, exportCatalog, bind_assoc]
    cases hp : (Platform.load (c.see s.disk) settings manifest false).result
    case error e =>
      rw [hp] at hl
      refine .inl ⟨e, ?_, Platform.failsOnly_load _ _ _ _ e hp⟩
      rw [after_bind_of_error hl]
    case ok p =>
      rw [hp] at hl
      refine .inr ⟨manifest, settings, p, t'', rfl, hr, hp, ht''.trans (ht'.trans ht), ?_⟩
      rw [after_bind_of_ok hl, bind_pure_comp]

theorem writes_of_deliver {manifest : Path} {settings : Settings} {p : Platform} {t : World}
    {r : Except Failure Unit × World}
    (hm : findManifest inv.manifest (Workspace.workingDirectory ⟨s.disk, c.cwd⟩) (c.see s.disk) =
      .ok manifest)
    (hs : (Settings.loadOrDefault (c.see s.disk) env.settingsFile).result = .ok settings)
    (hl : (Platform.load (c.see s.disk) settings manifest false).result = .ok p)
    (ht : t.disk = s.disk)
    (hr : r = ((fun _ => ()) <$> deliver (p.delivered settings output)).after c t) :
    Writes c s env inv output r (p.delivered settings output).target
      (Text.bytes (p.delivered settings output).contents) := by
  obtain ⟨hd, hw⟩ := after_deliver_eq (p.delivered settings output) c t
  rw [ht] at hd hw
  rw [after_map, hw] at hr
  subst hr
  exact {
    loaded := ⟨manifest, settings, p, hm, hs, hl, rfl, rfl⟩
    disk := hd
    result := by
      generalize (c.writeAtomic _ _ _).2.result = written
      cases written <;> rfl
    limits := by
      have ha := allOrNothing_writeAtomic c s.disk (p.delivered settings output).target
        (Text.bytes (p.delivered settings output).contents)
      exact hd ▸ ha }

-- Whatever the program is shown of the disk, and whatever the operating system refuses it.
theorem dispatch_leaves_no_output (c : Conditions) (s : World) (env : Environment)
    (inv : Invocation) : LeavesNoOutput c s env inv ((dispatch env inv).after c s) where
  silent e h := by
    have hk : (dispatch env inv).KeepsOnFailure World.stdout fun _ => True :=
      .dispatch (fun _ _ => rfl) (fun _ _ => (keeps_stdout_writeAtomic _ _).onFailure _) env inv
    exact hk c s e h trivial
  reading h := by
    have hk : (dispatch env inv).Keeps World.disk :=
      (Keeps.manifest (fun _ _ => rfl) _).bind fun manifest =>
        (Keeps.settings (fun _ _ => rfl) _).bind fun settings =>
          keeps_disk_perform h settings manifest
    exact hk c s
  early := KeepsOnFailure.dispatch (fun _ _ => rfl) keepsOnFailure_disk_writeAtomic env inv c s
  exported output hc := by
    obtain he | ⟨manifest, settings, p, t, hm, hs, hl, ht, hd⟩ :=
      exists_load_of_export c s env hc
    case inl => exact .inl he
    case inr => exact .inr ⟨_, _, writes_of_deliver hm hs hl ht hd⟩

def unsynced : Conditions where
  cwd := []
  see d := Workspace.view ⟨d, []⟩
  refuse := ⟨fun _ => none, fun
    | .syncing _ => some (.os .busy)
    | _ => none⟩

theorem dispatch_leaves_no_output_unsynced :
    let manifest : Location × Node := ([Text.bytes "Platform.toml"],
      .file (Text.bytes "platform=['n']\ndependencies=['g:a:1']"))
    let s : World := ⟨⟨[manifest]⟩, "", []⟩
    let after (command : Command) := (dispatch {} ⟨false, none, command⟩).after unsynced s
    let target := Path.ofString "a/b"
    ((after (.exportCatalog (some target))).1 = .error (.notWritten target (.os .busy)) ∧
      (after (.exportCatalog (some target))).2.stdout = "" ∧
      (after (.exportCatalog (some target))).2.disk =
        ⟨[([Text.bytes "a"], .directory), manifest]⟩ ∧
      ∃ contents, Writes unsynced s {} ⟨false, none, .exportCatalog (some target)⟩ (some target)
        (after (.exportCatalog (some target))) target contents) ∧
    ((after (.versionOf "h")).1 = .error (.noVersion "h" "n") ∧
      (after (.versionOf "h")).2.stdout = "" ∧ (after (.versionOf "h")).2.disk = ⟨[manifest]⟩) ∧
    (after (.versionOf "g")).1 = .ok () ∧ (after (.versionOf "g")).2.stdout = "1\n" ∧
      (after (.versionOf "g")).2.disk = ⟨[manifest]⟩ := by
  intro manifest s after target
  have he := dispatch_leaves_no_output unsynced s {} ⟨false, none, .exportCatalog (some target)⟩
  have hh := dispatch_leaves_no_output unsynced s {} ⟨false, none, .versionOf "h"⟩
  have hg := dispatch_leaves_no_output unsynced s {} ⟨false, none, .versionOf "g"⟩
  have hfe : (after (.exportCatalog (some target))).1 = .error (.notWritten target (.os .busy)) := by
    decide +kernel
  have hfh : (after (.versionOf "h")).1 = .error (.noVersion "h" "n") := by decide +kernel
  refine ⟨⟨hfe, he.silent _ hfe, by decide +kernel, ?writes⟩,
    ⟨hfh, hh.silent _ hfh, hh.reading ?missing⟩, by decide +kernel, by decide +kernel,
    hg.reading ?found⟩
  case writes =>
    obtain ⟨e, hr, he⟩ | ⟨target', contents, hw⟩ := he.exported _ rfl
    case inl =>
      cases hfe.symm.trans hr
      cases he
    case inr =>
      obtain ⟨_, _, _, _, _, _, ht, _⟩ := hw.loaded
      cases ht
      exact ⟨contents, hw⟩
  all_goals simp

end PlatformCatalog.Operation
