import PlatformCatalog.Proofs.Disk.Absolute
import PlatformCatalog.Proofs.Platform.Export

namespace PlatformCatalog

variable {d : Disk} {cwd cwd₁ cwd₂ : Location} {p q root : Path} {env : Environment}
variable {inv : Invocation}

namespace Path

theorem parent?_join_manifestName {names : List Bytes} (h : ∀ n ∈ names, IsComponent n) :
    ((ofNames names).join (.ofString manifestName)).parent? = some (ofNames names) := by
  have hm : IsComponent (Text.bytes manifestName) := ⟨by decide +kernel, by decide +kernel⟩
  rw [ofString, join_ofNames h hm, parent?_ofNames_concat h hm]

end Path

namespace Command

-- Only an export writes a file.
theorem prepare_eq_deliver_iff {files : FileView} {settings : Settings} {manifest : Path}
    {c : Command} {delivery : Delivery} :
    ((c.prepare files settings manifest).result = .ok (.deliver delivery)) ↔
      (∃ output p, c = .exportCatalog output ∧
        (Platform.load files settings manifest false).result = .ok p ∧
        delivery = p.delivered settings output) := by
  cases c
  case exportCatalog output =>
    simp only [prepare, Logged.result_bind, Platform.result_delivery, Logged.result_pure]
    cases (Platform.load files settings manifest false).result
    case error => simp [Except.map, bind, Except.bind]
    case ok p => simp [Except.map, bind, Except.bind, eq_comm]
  all_goals
    simp only [prepare, Logged.result_bind, Logged.result_pure, bind_eq_ok_iff]
    simp

end Command

namespace Workspace

def InProject (w : Workspace) (root : Path) : Prop :=
  ∃ start, w.workingDirectory = .ok start ∧
    w.view.nearestWith start (.ofString manifestName) = some root

-- A run that is not told where its manifest is, and for which no other path depends on where it is.
structure Placeless (env : Environment) (inv : Invocation) : Prop where
  unnamed  : inv.manifest = none
  settings : env.settingsDirectory.isAbsolute = true
  output   : ∀ output, inv.command = .exportCatalog (some output) → output.isAbsolute = true

namespace InProject

theorem findManifest_eq {w : Workspace} (h : w.InProject root) :
    findManifest none w.workingDirectory w.view = .ok (root.join (.ofString manifestName)) := by
  obtain ⟨start, hs, hr⟩ := h
  simp only [findManifest, hs, hr]

theorem isDirectory (h : InProject ⟨d, cwd⟩ root) : d.isDirectory cwd = true := by
  obtain ⟨start, hs, _⟩ := h
  unfold workingDirectory at hs
  split at hs
  case isTrue hd => exact hd
  case isFalse => cases hs

theorem mem_ancestors (h : InProject ⟨d, cwd⟩ root) : root ∈ (Path.ofNames cwd).ancestors := by
  obtain ⟨start, hs, hr⟩ := h
  rw [eq_ofNames_of_workingDirectory hs] at hr
  exact List.mem_of_find?_eq_some hr

theorem isAbsolute (h : InProject ⟨d, cwd⟩ root) : root.isAbsolute = true :=
  Path.isAbsolute_of_mem_ancestors (Path.isAbsolute_ofNames cwd) h.mem_ancestors

theorem of_mem_ancestors {start start₁ : Path} (h : InProject ⟨d, cwd₁⟩ root)
    (hs₁ : workingDirectory ⟨d, cwd₁⟩ = .ok start₁) (hs : workingDirectory ⟨d, cwd⟩ = .ok start)
    (hm : start ∈ start₁.ancestors) (hr : root ∈ start.ancestors) : InProject ⟨d, cwd⟩ root := by
  obtain ⟨start', hs', hf⟩ := h
  cases hs₁.symm.trans hs'
  have ha : start.isAbsolute = true := by
    rw [eq_ofNames_of_workingDirectory hs]
    exact Path.isAbsolute_ofNames cwd
  refine ⟨start, hs, ?_⟩
  rw [←Path.find?_ancestors hf hm hr]
  apply FileView.nearestWith_congr
  intro p hp
  exact sameAt_of_isAbsolute d cwd cwd₁
    (Path.isAbsolute_join (Path.isAbsolute_of_mem_ancestors ha hp) _)

end InProject

theorem isAbsolute_target {files : FileView} {cwd : Except IoFault Path} {delivery : Delivery}
    (hp : Placeless env inv) (hr : root.isAbsolute = true)
    (hm : findManifest inv.manifest cwd files = .ok (root.join (.ofString manifestName)))
    (h : (inv.prepare env cwd files).result = .ok (.deliver delivery)) :
    delivery.target.isAbsolute = true := by
  rw [Invocation.prepare_of_findManifest hm, Logged.result_bind, bind_eq_ok_iff] at h
  obtain ⟨settings, _, h⟩ := h
  obtain ⟨output, p, hc, hl, rfl⟩ := Command.prepare_eq_deliver_iff.mp h
  cases output
  case some output => exact hp.output output hc
  case none =>
    have hb : 0x50 ∈ Text.bytes manifestName := by decide +kernel
    obtain ⟨q, hq⟩ := Path.exists_parent?_join hb (by decide) (by decide) root
    have hpm : p.manifestPath = root.join (.ofString manifestName) :=
      (Platform.load_eq_ok_iff.mp hl).right.right
    have hroot : p.root = q := by
      rw [Platform.root, hpm]
      simp only [Path.ofString, hq, Option.getD_some]
    have ha := Path.isAbsolute_parent (Path.isAbsolute_join hr _) hq
    exact Path.isAbsolute_join (hroot ▸ ha) _

theorem deliver_of_isAbsolute {delivery : Delivery} (h : delivery.target.isAbsolute = true)
    (h₁ : d.isDirectory cwd₁ = true) (h₂ : d.isDirectory cwd₂ = true) :
    deliver ⟨d, cwd₁⟩ delivery = deliver ⟨d, cwd₂⟩ delivery := by
  simp only [deliver, writeAtomic_of_isAbsolute h h₁ h₂]

theorem carryOut_of_isAbsolute {prepared : Step Request}
    (h : ∀ delivery, prepared.result = .ok (.deliver delivery) → delivery.target.isAbsolute = true)
    (h₁ : d.isDirectory cwd₁ = true) (h₂ : d.isDirectory cwd₂ = true) :
    carryOut ⟨d, cwd₁⟩ prepared = carryOut ⟨d, cwd₂⟩ prepared := by
  unfold carryOut
  split
  case h_1 => rfl
  case h_2 => rfl
  case h_3 delivery hd => simp only [deliver_of_isAbsolute (h delivery hd) h₁ h₂]

theorem prepare_from_anywhere (hp : Placeless env inv) (h₁ : InProject ⟨d, cwd₁⟩ root)
    (h₂ : InProject ⟨d, cwd₂⟩ root) :
    inv.prepare env (workingDirectory ⟨d, cwd₁⟩) (view ⟨d, cwd₁⟩) =
      inv.prepare env (workingDirectory ⟨d, cwd₂⟩) (view ⟨d, cwd₂⟩) := by
  have hs := Settings.load_congr
    (sameAt_of_isAbsolute d cwd₁ cwd₂ (Path.isAbsolute_join hp.settings (.ofString "config.toml")))
  have hc := Command.prepare_congr
    (sameAt_of_isAbsolute d cwd₁ cwd₂ (Path.isAbsolute_join h₁.isAbsolute (.ofString manifestName)))
  have hm₁ := hp.unnamed ▸ h₁.findManifest_eq
  have hm₂ := hp.unnamed ▸ h₂.findManifest_eq
  rw [Invocation.prepare_of_findManifest hm₁, Invocation.prepare_of_findManifest hm₂]
  simp only [Settings.loadOrDefault, Environment.settingsFile, hs, hc]

theorem dispatch_eq_of_inProject (hp : Placeless env inv) (h₁ : InProject ⟨d, cwd₁⟩ root)
    (h₂ : InProject ⟨d, cwd₂⟩ root) :
    dispatch ⟨d, cwd₁⟩ env inv = dispatch ⟨d, cwd₂⟩ env inv := by
  rw [dispatch_eq, dispatch_eq, prepare_from_anywhere hp h₁ h₂]
  apply carryOut_of_isAbsolute _ h₁.isDirectory h₂.isDirectory
  intro delivery hd
  exact isAbsolute_target hp h₂.isAbsolute (hp.unnamed ▸ h₂.findManifest_eq) hd

structure ExportsTo (w : Workspace) (target : Path) (text : String) (out : Outcome Unit) : Prop where
  disk   : out.disk = (w.writeAtomic target (Text.bytes text)).1
  result : out.result =
    (w.writeAtomic target (Text.bytes text)).2.result.mapError (.notWritten target)
  read   : out.result = .ok () → read ⟨out.disk, w.cwd⟩ target = .ok (Text.bytes text)

theorem exportsTo_carryOut {w : Workspace} {prepared : Step Request} {delivery : Delivery}
    (h : prepared.result = .ok (.deliver delivery)) :
    w.ExportsTo delivery.target delivery.contents (w.carryOut prepared) := by
  have hr := result_carryOut_of_deliver (w := w) h
  have hd := disk_carryOut_of_deliver (w := w) h
  refine ⟨hd, hr, fun ho => ?_⟩
  rw [hd]
  exact read_writeAtomic (mapError_eq_ok_iff.mp (hr ▸ ho))

theorem InProject.exportsTo {settings : Settings} {p : Platform} (h : InProject ⟨d, cwd⟩ root)
    (hn : ∀ n ∈ cwd, Path.IsComponent n) (hu : inv.manifest = none)
    (hc : inv.command = .exportCatalog none)
    (hs : (Settings.loadOrDefault (view ⟨d, cwd⟩) env.settingsFile).result = .ok settings)
    (hl : (Platform.load (view ⟨d, cwd⟩) settings (root.join (.ofString manifestName)) false).result =
      .ok p) :
    ExportsTo ⟨d, cwd⟩ (root.join (.ofString settings.output.exportFile))
      p.publication.catalog.exportText (dispatch ⟨d, cwd⟩ env inv) := by
  have hroot : p.root = root := by
    obtain ⟨above, ha, rfl⟩ := Path.exists_eq_ofNames hn h.mem_ancestors
    have hm := (Platform.load_eq_ok_iff.mp hl).right.right
    rw [Platform.root, hm, Path.parent?_join_manifestName fun n hm => hn n (ha.subset hm),
      Option.getD_some]
  have hd : (inv.prepare env (workingDirectory ⟨d, cwd⟩) (view ⟨d, cwd⟩)).result =
      .ok (.deliver (p.delivered settings none)) := by
    rw [Invocation.prepare_of_findManifest (hu ▸ h.findManifest_eq), Logged.result_bind,
      bind_eq_ok_iff]
    exact ⟨settings, hs, Command.prepare_eq_deliver_iff.mpr ⟨none, p, hc, hl, rfl⟩⟩
  rw [dispatch_eq]
  exact hroot ▸ exportsTo_carryOut hd

-- From two directories of a project, and so from all that lie between its root and one of them, a run
-- has the same outcome.
theorem dispatch_from_anywhere (hp : Placeless env inv) (h₁ : InProject ⟨d, cwd₁⟩ root)
    (h₂ : InProject ⟨d, cwd₂⟩ root) :
    dispatch ⟨d, cwd₁⟩ env inv = dispatch ⟨d, cwd₂⟩ env inv ∧
    (∀ cwd ∈ [cwd₁, cwd₂], (∀ n ∈ cwd, Path.IsComponent n) → inv.command = .exportCatalog none →
      ∀ (settings : Settings) (p : Platform),
        (Settings.loadOrDefault (view ⟨d, cwd⟩) env.settingsFile).result = .ok settings →
        (Platform.load (view ⟨d, cwd⟩) settings (root.join (.ofString manifestName)) false).result =
          .ok p →
        ExportsTo ⟨d, cwd⟩ (root.join (.ofString settings.output.exportFile))
          (Json.pretty p.publication.catalog.toValue ++ "\n") (dispatch ⟨d, cwd⟩ env inv)) ∧
    ∀ (cwd : Location) (start start₁ : Path), workingDirectory ⟨d, cwd₁⟩ = .ok start₁ →
      workingDirectory ⟨d, cwd⟩ = .ok start → start ∈ start₁.ancestors → root ∈ start.ancestors →
      dispatch ⟨d, cwd⟩ env inv = dispatch ⟨d, cwd₁⟩ env inv := by
  refine ⟨dispatch_eq_of_inProject hp h₁ h₂, ?default, ?between⟩
  case default =>
    intro cwd hm hn hc settings p hs hl
    have h : InProject ⟨d, cwd⟩ root := by
      simp only [List.mem_cons, List.not_mem_nil, or_false] at hm
      cases hm <;> subst cwd <;> assumption
    exact h.exportsTo hn hp.unnamed hc hs hl
  case between =>
    intro cwd start start₁ hs₁ hs hm hr
    exact dispatch_eq_of_inProject hp (h₁.of_mem_ancestors hs₁ hs hm hr) h₁

def nested : Disk :=
  ⟨[([Text.bytes "p"], .directory), ([Text.bytes "p", Text.bytes "a"], .directory),
    ([Text.bytes "p", Text.bytes "a", Text.bytes "b"], .directory),
    ([Text.bytes "p", Text.bytes "Platform.toml"],
      .file (Text.bytes "platform=['n']\ndependencies=['g:a:1']"))]⟩

theorem dispatch_from_anywhere_nested :
    let env : Environment := { catalogHome := some (Text.bytes "/etc") }
    let inv : Invocation := ⟨false, none, .exportCatalog none⟩
    let deep : Workspace := ⟨nested, [Text.bytes "p", Text.bytes "a", Text.bytes "b"]⟩
    (deep.dispatch env inv).result = .ok () ∧
      deep.dispatch env inv = dispatch ⟨nested, [Text.bytes "p"]⟩ env inv ∧
      deep.dispatch env inv = dispatch ⟨nested, [Text.bytes "p", Text.bytes "a"]⟩ env inv ∧
      ∃ text, deep.ExportsTo (.ofString "/p/versions.json") text (deep.dispatch env inv) := by
  intro env inv deep
  have hp : Placeless env inv := ⟨rfl, by decide +kernel, by simp [inv]⟩
  have h₁ : InProject deep (.ofString "/p") :=
    ⟨.ofString "/p/a/b", by decide +kernel, by decide +kernel⟩
  have h₂ : InProject ⟨nested, [Text.bytes "p"]⟩ (.ofString "/p") :=
    ⟨.ofString "/p", by decide +kernel, by decide +kernel⟩
  obtain ⟨he, hd, hb⟩ := dispatch_from_anywhere hp h₁ h₂
  refine ⟨by decide +kernel, he, ?between, ?default⟩
  case between =>
    refine (hb _ (.ofString "/p/a") (.ofString "/p/a/b") ?_ ?_ ?_ ?_).symm <;> decide +kernel
  case default =>
    have hn : ∀ n ∈ deep.cwd, Path.IsComponent n := by
      simp only [deep, List.forall_mem_cons]
      exact ⟨⟨by decide +kernel, by decide +kernel⟩, ⟨by decide +kernel, by decide +kernel⟩,
        ⟨by decide +kernel, by decide +kernel⟩, List.forall_mem_nil _⟩
    have hs : (Settings.loadOrDefault deep.view env.settingsFile).result = .ok {} := by
      decide +kernel
    have hl : (Platform.load deep.view {} ((Path.ofString "/p").join (.ofString manifestName))
        false).result.isOk = true := by decide +kernel
    cases h : (Platform.load deep.view {} ((Path.ofString "/p").join (.ofString manifestName))
      false).result
    case error e =>
      rw [h] at hl
      cases hl
    case ok p => exact ⟨_, hd _ (.head _) hn rfl {} p hs h⟩

end Workspace
end PlatformCatalog
