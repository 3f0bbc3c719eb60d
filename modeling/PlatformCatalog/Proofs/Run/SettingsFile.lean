import PlatformCatalog.Proofs.Resolution
import PlatformCatalog.Proofs.Settings
import PlatformCatalog.Proofs.Run.Prepared

namespace PlatformCatalog

variable {files : FileView} {path manifest : Path} {es : List (String × Value)} {s : Settings}

namespace Settings

def Usable (files : FileView) (path : Path) (es : List (String × Value)) : Prop :=
  ∃ text, files.readText path = .ok text ∧ Toml.parse? text = some es ∧ Fits es

theorem load_of_isFile_eq_false (h : files.isFile path = false) : load files path = .ok {} := by
  rw [load, h, if_neg Bool.false_ne_true]

theorem load_eq_ok_iff (h : files.isFile path = true) :
    (load files path = .ok s) ↔
      (∃ text es, files.readText path = .ok text ∧ Toml.parse? text = some es ∧
        schema.ofEntries es = .ok s) := by
  rw [load, if_pos h]
  cases files.readText path
  case error => simp
  case ok text => simp [mapError_eq_ok_iff, Toml.readRecord_eq_ok_iff]

theorem exists_load_of_usable (hf : files.isFile path = true) (h : Usable files path es) :
    ∃ s, Stated es s ∧ load files path = .ok s := by
  obtain ⟨text, ht, hp, he⟩ := h
  obtain ⟨s, hs⟩ := exists_ofEntries_iff.mpr he
  exact ⟨s, stated_of_ofEntries hs, (load_eq_ok_iff hf).mpr ⟨text, es, ht, hp, hs⟩⟩

theorem exists_load_eq_error (hf : files.isFile path = true) (h : ∀ es, ¬Usable files path es) :
    ∃ reason, load files path = .error reason := by
  cases hl : load files path
  case error reason => exact ⟨reason, rfl⟩
  case ok s =>
    obtain ⟨text, es, ht, hp, hs⟩ := (load_eq_ok_iff hf).mp hl
    exact absurd ⟨text, ht, hp, exists_ofEntries_iff.mp ⟨s, hs⟩⟩ (h es)

end Settings

def Failure.Apart (f : Failure) : Prop :=
  ∀ detail, f.parts ≠ .inr (.config, detail)

-- The failure comes before anything is printed or written.
def Failure.Early : Failure → Prop
  | .workingDirectory _ | .manifestNotFound => True
  | .manifestUnreadable .. | .manifestMalformed _ | .unknownReference .. => True
  | .faultyEntry _ | .noVersion .. => True
  | .notWritten .. | .settingsUnreadable .. | .settingsMalformed .. => False

theorem Failure.Early.apart {f : Failure} (h : f.Early) : f.Apart := by
  cases f
  case settingsUnreadable => cases h
  case settingsMalformed => cases h
  all_goals simp [Failure.Apart, Failure.parts]

open Logged

theorem Manifest.failsOnly_load (files : FileView) (path : Path) :
    (Manifest.load files path).FailsOnly Failure.Early := by
  refine FailsOnly.bind (.of_mapError rfl ?unreadable) fun text => ?parsed
  case unreadable => simp [Failure.Early]
  case parsed =>
    refine FailsOnly.bind (.of_mapError rfl ?malformed) fun m => .of_ok rfl
    simp [Failure.Early]

theorem Manifest.failsOnly_build (m : Manifest) (policy : Policy) :
    (m.build policy).FailsOnly Failure.Early := by
  cases hu : m.unknown? m.references
  case none =>
    rw [build_of_known hu]
    exact .of_mapError rfl (by simp [Failure.Early])
  case some e =>
    obtain ⟨r, _, rfl⟩ := Option.map_eq_some_iff.mp hu
    rw [build_of_unknown hu]
    rintro e he
    cases he
    simp [Failure.Early]

theorem Platform.failsOnly_load (files : FileView) (settings : Settings) (path : Path)
    (denyDynamic : Bool) : (Platform.load files settings path denyDynamic).FailsOnly Failure.Early := by
  apply (Manifest.failsOnly_load files path).bind
  intro m
  apply (m.failsOnly_build _).bind
  exact fun out => .of_ok rfl

theorem Command.failsOnly_prepare (files : FileView) (settings : Settings) (manifest : Path)
    (c : Command) : (c.prepare files settings manifest).FailsOnly Failure.Early := by
  have hl := Platform.failsOnly_load files settings manifest
  cases c
  case report json =>
    exact ((hl false).bind fun p => .of_ok rfl).bind fun text => .of_ok rfl
  case check denyDynamic =>
    exact ((hl denyDynamic).bind fun p => .of_ok rfl).bind fun summary => .of_ok rfl
  case versionOf group =>
    refine FailsOnly.bind ((hl false).bind fun p => ?_) fun version => .of_ok rfl
    split
    case h_1 => exact .of_ok rfl
    case h_2 =>
      intro e he
      cases he
      simp [Failure.Early]
  case exportCatalog output =>
    exact ((hl false).bind fun p => .of_ok rfl).bind fun d => .of_ok rfl

theorem Settings.exists_loadOrDefault (files : FileView) (path : Path) :
    ∃ s, (loadOrDefault files path).result = .ok s := by
  unfold loadOrDefault
  split <;> exact ⟨_, rfl⟩

theorem failsOnly_findManifest (named : Option Path) (cwd : Except IoFault Path)
    (files : FileView) :
    (ofExcept (findManifest named cwd files) : Step Path).FailsOnly Failure.Early := by
  intro e he
  simp only [result_ofExcept, findManifest] at he
  repeat' split at he
  all_goals cases he
  all_goals simp [Failure.Early]

theorem Invocation.failsOnly_prepare (inv : Invocation) (env : Environment)
    (cwd : Except IoFault Path) (files : FileView) :
    (inv.prepare env cwd files).FailsOnly Failure.Early := by
  apply (failsOnly_findManifest inv.manifest cwd files).bind
  intro manifest
  obtain ⟨s, hs⟩ := Settings.exists_loadOrDefault files env.settingsFile
  exact (FailsOnly.of_ok hs).bind fun settings => Command.failsOnly_prepare files settings manifest _

namespace Workspace

theorem apart_of_carryOut {w : Workspace} {prepared : Step Request} {e : Failure}
    (hp : prepared.FailsOnly Failure.Early) (h : (w.carryOut prepared).result = .error e) :
    e.Apart := by
  cases hr : prepared.result
  case error failure =>
    have hc : (w.carryOut prepared).result = .error failure := by simp only [carryOut, hr]
    cases hc.symm.trans h
    exact (hp e hr).apart
  case ok request =>
    cases request
    case print text =>
      have hc : (w.carryOut prepared).result = .ok () := by simp only [carryOut, hr]
      cases hc.symm.trans h
    case deliver d =>
      rw [result_carryOut_of_deliver hr] at h
      cases hw : (w.writeAtomic d.target (Text.bytes d.contents)).2.result <;> rw [hw] at h
      case ok => cases h
      case error fault =>
        cases h
        simp [Failure.Apart, Failure.parts]

theorem carryOut_cons (w : Workspace) (event : Event) (log : List Event)
    (result : Except Failure Request) :
    w.carryOut ⟨event :: log, result⟩ =
      { w.carryOut ⟨log, result⟩ with log := event :: (w.carryOut ⟨log, result⟩).log } := by
  cases result
  case error => rfl
  case ok request => cases request <;> rfl

structure HeedsSettings (w : Workspace) (files : FileView) (env : Environment) (inv : Invocation)
    (manifest : Path) : Prop where
  missing : files.isFile env.settingsFile = false →
    Settings.loadOrDefault files env.settingsFile = ⟨[], .ok {}⟩ ∧
    w.dispatchSeeing files env inv = w.carryOut (inv.command.prepare files {} manifest)
  usable : files.isFile env.settingsFile = true →
    ∀ es, Settings.Usable files env.settingsFile es → ∃ s, Settings.Stated es s ∧
      Settings.loadOrDefault files env.settingsFile = ⟨[], .ok s⟩ ∧
      w.dispatchSeeing files env inv = w.carryOut (inv.command.prepare files s manifest)
  broken : files.isFile env.settingsFile = true →
    (∀ es, ¬Settings.Usable files env.settingsFile es) → ∃ warning : Event, warning.level = .warn ∧
      Settings.loadOrDefault files env.settingsFile = ⟨[warning], .ok {}⟩ ∧
      w.dispatchSeeing files env inv =
        let out := w.carryOut (inv.command.prepare files {} manifest)
        { out with log := warning :: out.log }

theorem dispatchSeeing_of_findManifest {w : Workspace} {inv : Invocation}
    (h : findManifest inv.manifest w.workingDirectory files = .ok manifest) (env : Environment) :
    w.dispatchSeeing files env inv = w.carryOut (do
      let settings ← Settings.loadOrDefault files env.settingsFile
      inv.command.prepare files settings manifest) := by
  rw [dispatchSeeing_eq, Invocation.prepare_of_findManifest h]

theorem heedsSettings_of_findManifest {w : Workspace} {inv : Invocation}
    (h : findManifest inv.manifest w.workingDirectory files = .ok manifest) (env : Environment) :
    w.HeedsSettings files env inv manifest := by
  have hd := dispatchSeeing_of_findManifest h env
  constructor
  case missing =>
    intro hf
    have hl : Settings.loadOrDefault files env.settingsFile = ⟨[], .ok {}⟩ := by
      rw [Settings.loadOrDefault, Settings.load_of_isFile_eq_false hf]
    refine ⟨hl, ?_⟩
    rw [hd, hl]
    rfl
  case usable =>
    intro hf es he
    obtain ⟨s, hs, hl⟩ := Settings.exists_load_of_usable hf he
    have hl : Settings.loadOrDefault files env.settingsFile = ⟨[], .ok s⟩ := by
      rw [Settings.loadOrDefault, hl]
    refine ⟨s, hs, hl, ?_⟩
    rw [hd, hl]
    rfl
  case broken =>
    intro hf he
    obtain ⟨reason, hl⟩ := Settings.exists_load_eq_error hf he
    have hl : Settings.loadOrDefault files env.settingsFile =
        ⟨[.settingsIgnored reason], .ok {}⟩ := by
      rw [Settings.loadOrDefault, hl]
    refine ⟨.settingsIgnored reason, rfl, hl, ?_⟩
    rw [hd, hl]
    exact w.carryOut_cons _ _ _

-- Whatever `files` shows of the disk, which is all that `dispatch` goes by: settings are heeded as a
-- whole or not at all, and no run fails because of them.
theorem dispatch_heeds_settings (w : Workspace) (files : FileView) (env : Environment)
    (inv : Invocation) :
    (∀ manifest, findManifest inv.manifest w.workingDirectory files = .ok manifest →
      w.HeedsSettings files env inv manifest) ∧
    ∀ failure, (w.dispatchSeeing files env inv).result = .error failure →
      ∀ detail, failure.parts ≠ .inr (.config, detail) := by
  constructor
  case left => exact fun manifest h => heedsSettings_of_findManifest h env
  case right =>
    intro failure h
    rw [dispatchSeeing_eq] at h
    exact apart_of_carryOut (Invocation.failsOnly_prepare inv env w.workingDirectory files) h

def configured (settings : String) : Workspace where
  disk := ⟨[([Text.bytes "config.toml"], .file (Text.bytes settings)),
    ([Text.bytes "Platform.toml"],
      .file (Text.bytes "platform=['n']\ndependencies=['g:a:1.+']"))]⟩
  cwd := []

theorem dispatch_heeds_settings_configured :
    let env : Environment := { catalogHome := some (Text.bytes "/") }
    let inv : Invocation := ⟨false, none, .check false⟩
    let usable := configured "catalog = [true]"
    let broken := configured "catalog = [true]\noutput.format = 'xml'"
    ((usable.dispatch env inv).result.isOk = false ∧
      ∃ es s, Settings.Usable usable.view env.settingsFile es ∧ Settings.Stated es s ∧
        usable.dispatch env inv =
          usable.carryOut (inv.command.prepare usable.view s (.ofString "/Platform.toml"))) ∧
    (broken.dispatch env inv).result = .ok () ∧
      ∃ warning : Event, warning.level = .warn ∧ broken.dispatch env inv =
        let out := broken.carryOut (inv.command.prepare broken.view {} (.ofString "/Platform.toml"))
        { out with log := warning :: out.log } := by
  intro env inv usable broken
  have hu : findManifest inv.manifest usable.workingDirectory usable.view =
    .ok (.ofString "/Platform.toml") := by decide +kernel
  have hb : findManifest inv.manifest broken.workingDirectory broken.view =
    .ok (.ofString "/Platform.toml") := by decide +kernel
  have hfu : usable.view.isFile env.settingsFile = true := by decide +kernel
  have hfb : broken.view.isFile env.settingsFile = true := by decide +kernel
  refine ⟨⟨by decide +kernel, ?usable⟩, by decide +kernel, ?broken⟩
  case usable =>
    have hl : Settings.load usable.view env.settingsFile = .ok ⟨⟨true⟩, {}⟩ := by decide +kernel
    obtain ⟨text, es, ht, hp, he⟩ := (Settings.load_eq_ok_iff hfu).mp hl
    have he : Settings.Usable usable.view env.settingsFile es :=
      ⟨text, ht, hp, Settings.exists_ofEntries_iff.mp ⟨_, he⟩⟩
    have hh := (dispatch_heeds_settings usable usable.view env inv).left _ hu
    obtain ⟨s, hs, _, hd⟩ := hh.usable hfu es he
    exact ⟨es, s, he, hs, (dispatch_eq_dispatchSeeing ..).trans hd⟩
  case broken =>
    have hl : (Settings.load broken.view env.settingsFile).isOk = false := by decide +kernel
    have hn : ∀ es, ¬Settings.Usable broken.view env.settingsFile es := by
      intro es he
      obtain ⟨s, _, hs⟩ := Settings.exists_load_of_usable hfb he
      rw [hs] at hl
      cases hl
    have hh := (dispatch_heeds_settings broken broken.view env inv).left _ hb
    obtain ⟨warning, hw, _, hd⟩ := hh.broken hfb hn
    exact ⟨warning, hw, (dispatch_eq_dispatchSeeing ..).trans hd⟩

end Workspace

end PlatformCatalog
