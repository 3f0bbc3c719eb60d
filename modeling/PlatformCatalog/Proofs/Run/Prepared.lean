import PlatformCatalog.Proofs.Simulation
import PlatformCatalog.Run

namespace PlatformCatalog

variable {α β : Type} {c : Conditions} {s : World} {settings : Settings} {manifest : Path}

theorem findManifest_congr {cwd : Except IoFault Path} {f g : FileView}
    (h : ∀ p ∈ manifestCandidates cwd, f.SameAt g p) :
    findManifest none cwd f = findManifest none cwd g := by
  cases cwd
  case error => rfl
  case ok start =>
    have hn : f.nearestWith start (.ofString manifestName) =
        g.nearestWith start (.ofString manifestName) :=
      FileView.nearestWith_congr fun p hp => h _ (List.mem_map_of_mem hp)
    simp only [findManifest, hn]

def Outcome.map (f : α → β) (out : Outcome α) : Outcome β :=
  { out with result := out.result.map f }

def World.add (s : World) (out : Outcome α) : Except Failure α × World :=
  (out.result, ⟨out.disk, s.stdout ++ out.stdout, s.log ++ out.log⟩)

namespace Workspace

variable {w : Workspace} {step : Step α} {e : Failure} {a : α}

def andThen (w : Workspace) (step : Step α) (f : α → Outcome β) : Outcome β :=
  match step.result with
  | .error e => ⟨w.disk, "", step.log, .error e⟩
  | .ok a => { f a with log := step.log ++ (f a).log }

theorem andThen_of_error (h : step.result = .error e) (f : α → Outcome β) :
    w.andThen step f = ⟨w.disk, "", step.log, .error e⟩ := by
  rw [andThen, h]

theorem andThen_of_ok (h : step.result = .ok a) (f : α → Outcome β) :
    w.andThen step f = { f a with log := step.log ++ (f a).log } := by
  rw [andThen, h]

theorem andThen_pure (w : Workspace) (a : α) (f : α → Outcome β) :
    w.andThen (pure a) f = f a := rfl

theorem andThen_bind {γ : Type} (w : Workspace) (step : Step α) (f : α → Step β)
    (g : β → Outcome γ) :
    w.andThen (step >>= f) g = w.andThen step fun a => w.andThen (f a) g := by
  cases h : step.result
  case error e =>
    have hb : step >>= f = ⟨step.log, .error e⟩ := Logged.bind_of_error h f
    rw [hb, andThen_of_error h]
    rfl
  case ok a =>
    have hb : step >>= f = ⟨step.log ++ (f a).log, (f a).result⟩ := Logged.bind_of_ok h f
    rw [hb, andThen_of_ok h]
    unfold andThen
    cases (f a).result <;> simp

theorem map_andThen {γ : Type} (w : Workspace) (step : Step α) (f : α → Outcome β) (g : β → γ) :
    (w.andThen step f).map g = w.andThen step fun a => (f a).map g := by
  cases h : step.result
  case error e =>
    rw [andThen_of_error h, andThen_of_error h]
    rfl
  case ok a =>
    rw [andThen_of_ok h, andThen_of_ok h]
    rfl

theorem answer_eq (w : Workspace) (step : Step α) (text : α → String) :
    w.answer step text = w.andThen step fun a => ⟨w.disk, text a, [], .ok a⟩ := by
  cases h : step.result
  case error e => simp only [answer, h, andThen_of_error h]
  case ok a => simp only [answer, h, andThen_of_ok h, List.append_nil]

def fulfil (w : Workspace) : Request → Outcome Unit
  | .print text => ⟨w.disk, text, [], .ok ()⟩
  | .deliver d => (w.deliver d).map fun _ => ()

theorem carryOut_eq (w : Workspace) (prepared : Step Request) :
    w.carryOut prepared = w.andThen prepared w.fulfil := by
  cases h : prepared.result
  case error e => simp only [carryOut, h, andThen_of_error h]
  case ok request =>
    rw [carryOut, h, andThen_of_ok h]
    cases request
    case print text => simp only [fulfil, List.append_nil]
    case deliver d => rfl

theorem carryOut_print (w : Workspace) (step : Step α) (text : α → String) :
    w.carryOut (do return .print (text (← step))) = (w.answer step text).map fun _ => () := by
  rw [carryOut_eq, andThen_bind, answer_eq, map_andThen]
  rfl

theorem carryOut_deliver (w : Workspace) (step : Step Delivery) :
    w.carryOut (do return .deliver (← step)) = (w.andThen step w.deliver).map fun _ => () := by
  rw [carryOut_eq, andThen_bind, map_andThen]
  rfl

theorem result_carryOut_of_deliver {prepared : Step Request} {d : Delivery}
    (h : prepared.result = .ok (.deliver d)) : (w.carryOut prepared).result =
      (w.writeAtomic d.target (Text.bytes d.contents)).2.result.mapError (.notWritten d.target) := by
  simp only [carryOut, h, deliver]
  cases (w.writeAtomic d.target (Text.bytes d.contents)).2.result <;> rfl

theorem disk_carryOut_of_deliver {prepared : Step Request} {d : Delivery}
    (h : prepared.result = .ok (.deliver d)) :
    (w.carryOut prepared).disk = (w.writeAtomic d.target (Text.bytes d.contents)).1 := by
  simp only [carryOut, h, deliver]

theorem deliver_of_ok {d : Delivery} {disk : Disk} {log : List Event}
    (h : w.writeAtomic d.target (Text.bytes d.contents) = (disk, ⟨log, .ok ()⟩)) :
    w.deliver d =
      ⟨disk, d.notice ++ "\n", log ++ [.exported d.count d.target], .ok d.target⟩ := by
  simp only [deliver, h, Delivery.finish]

theorem deliver_of_error {d : Delivery} {disk : Disk} {log : List Event} {fault : IoFault}
    (h : w.writeAtomic d.target (Text.bytes d.contents) = (disk, ⟨log, .error fault⟩)) :
    w.deliver d = ⟨disk, "", log, .error (.notWritten d.target fault)⟩ := by
  simp only [deliver, h, Delivery.finish, Logged.fail, List.append_nil]

end Workspace

namespace Operation

theorem after_manifest (named : Option Path) (c : Conditions) (s : World) :
    (Operation.manifest named).after c s = (take (.ofExcept (findManifest named
      (Workspace.workingDirectory ⟨s.disk, c.cwd⟩) (c.see s.disk)))).after c s := by
  cases named
  case some path =>
    rw [after_take, Logged.ofExcept, List.append_nil]
    rfl
  case none =>
    rw [Operation.manifest, after_bind_of_ok (after_ask _ c s), after_look,
      findManifest_congr fun p hp => FileView.sameAt_only hp]
    rfl

theorem after_take_bind {step : Step α} {f : α → Outcome β} {g : α → Operation Simulation β}
    (h : ∀ a t, t.disk = s.disk → (g a).after c t = t.add (f a)) :
    (take step >>= g).after c s = s.add (Workspace.andThen ⟨s.disk, c.cwd⟩ step f) := by
  have ht := after_take step c s
  cases hr : step.result
  case error e =>
    rw [hr] at ht
    rw [after_bind_of_error ht, Workspace.andThen_of_error hr]
    simp [World.add]
  case ok a =>
    rw [hr] at ht
    rw [after_bind_of_ok ht, Workspace.andThen_of_ok hr,
      h a ⟨s.disk, s.stdout, s.log ++ step.log⟩ rfl]
    simp only [World.add, List.append_assoc]

theorem after_load_bind {denyDynamic : Bool} {f : Platform → Outcome β}
    {g : Platform → Operation Simulation β}
    (h : ∀ p t, t.disk = s.disk → (g p).after c t = t.add (f p)) :
    (load settings manifest denyDynamic >>= g).after c s = s.add (Workspace.andThen ⟨s.disk, c.cwd⟩
      (Platform.load (c.see s.disk) settings manifest denyDynamic) f) := by
  rw [after_bind_congr (after_load settings manifest denyDynamic c s), after_take_bind h]

theorem after_discard {x : Operation Simulation α} {out : Outcome α}
    (h : x.after c s = s.add out) :
    (do let _ ← x : Operation Simulation Unit).after c s = s.add (out.map fun _ => ()) := by
  rw [bind_pure_comp, after_map, h]
  rfl

theorem after_report (format : Option Format) :
    (report settings manifest format).after c s = s.add (Workspace.carryOut ⟨s.disk, c.cwd⟩ (do
      return .print (← Platform.reportOf (c.see s.disk) settings manifest format))) := by
  rw [report, Platform.reportOf, Workspace.carryOut_eq, Workspace.andThen_bind,
    Workspace.andThen_bind]
  apply after_load_bind
  intro p t ht
  rw [after_print, ←ht]
  simp [World.add, Workspace.andThen_pure, Workspace.fulfil]

theorem after_check (denyDynamic : Bool) :
    (check settings manifest denyDynamic).after c s = s.add (Workspace.answer ⟨s.disk, c.cwd⟩
      (Platform.check (c.see s.disk) settings manifest denyDynamic) (·.text ++ "\n")) := by
  rw [check, Platform.check, Workspace.answer_eq, Workspace.andThen_bind]
  apply after_load_bind
  intro p t ht
  rw [after_bind_of_ok (after_print _ c t), ←ht]
  simp [after_pure, World.add, Workspace.andThen_pure]

theorem after_versionOf (group : String) :
    (versionOf settings manifest group).after c s = s.add (Workspace.answer ⟨s.disk, c.cwd⟩
      (Platform.versionOf (c.see s.disk) settings manifest group) (· ++ "\n")) := by
  rw [versionOf, Platform.versionOf, Workspace.answer_eq, Workspace.andThen_bind]
  apply after_load_bind
  intro p t ht
  rw [←ht]
  cases p.publication.catalog.get? group
  case none => simp [after_throw, World.add, Workspace.andThen, Logged.fail]
  case some version =>
    simp only
    rw [after_bind_of_ok (after_print _ c t)]
    simp [after_pure, World.add, Workspace.andThen_pure]

theorem after_deliver_of_ok {d : Delivery} {t : World}
    (h : (writeAtomic d.target (Text.bytes d.contents)).after c s = (.ok (), t)) :
    (deliver d).after c s = (.ok d.target,
      ⟨t.disk, t.stdout ++ (d.notice ++ "\n"), t.log ++ [.exported d.count d.target]⟩) := by
  rw [deliver, after_bind_of_ok h, after_bind_of_ok (after_note _ c _),
    after_bind_of_ok (after_print _ c _), after_pure]

theorem after_deliver (d : Delivery) (hc : c.refuse = .none) (s : World) :
    (deliver d).after c s = s.add (Workspace.deliver ⟨s.disk, c.cwd⟩ d) := by
  have hw := after_writeAtomic d.target (Text.bytes d.contents) c s
  rw [after_take, Conditions.writeAtomic_of_refuse_none hc] at hw
  cases h : Workspace.writeAtomic ⟨s.disk, c.cwd⟩ d.target (Text.bytes d.contents)
  case mk disk written =>
    obtain ⟨log, result⟩ := written
    rw [h] at hw
    simp only [Logged.lift, List.map_id] at hw
    cases result
    case error fault =>
      rw [deliver, after_bind_of_error hw, Workspace.deliver_of_error h]
      simp [World.add]
    case ok =>
      rw [after_deliver_of_ok hw, Workspace.deliver_of_ok h]
      simp [World.add]

theorem after_exportCatalog (output : Option Path) (hc : c.refuse = .none) :
    (exportCatalog settings manifest output).after c s = s.add (Workspace.andThen ⟨s.disk, c.cwd⟩
      (Platform.delivery (c.see s.disk) settings manifest output)
      (Workspace.deliver ⟨s.disk, c.cwd⟩)) := by
  rw [exportCatalog, Platform.delivery, Workspace.andThen_bind]
  apply after_load_bind
  intro p t ht
  rw [after_deliver _ hc, ht, Workspace.andThen_pure]

theorem after_command (command : Command) (hc : c.refuse = .none) :
    (perform settings manifest command).after c s = s.add (Workspace.carryOut ⟨s.disk, c.cwd⟩
      (command.prepare (c.see s.disk) settings manifest)) := by
  cases command
  case report json => exact after_report _
  case check denyDynamic =>
    rw [Command.prepare, Workspace.carryOut_print]
    exact after_discard (after_check denyDynamic)
  case versionOf group =>
    rw [Command.prepare, Workspace.carryOut_print]
    exact after_discard (after_versionOf group)
  case exportCatalog output =>
    rw [Command.prepare, Workspace.carryOut_deliver]
    exact after_discard (after_exportCatalog output hc)

-- What is done, one effect after the other, is what has been prepared.
theorem after_dispatch (env : Environment) (inv : Invocation) (hc : c.refuse = .none) :
    (dispatch env inv).after c s = s.add (Workspace.carryOut ⟨s.disk, c.cwd⟩
      (inv.prepare env (Workspace.workingDirectory ⟨s.disk, c.cwd⟩) (c.see s.disk))) := by
  rw [dispatch, after_bind_congr (after_manifest inv.manifest c s), Invocation.prepare,
    Workspace.carryOut_eq, Workspace.andThen_bind]
  apply after_take_bind
  intro manifest t ht
  rw [after_bind_congr (after_settings env.settingsFile c t), Workspace.andThen_bind, ←ht]
  apply after_take_bind
  intro settings t' ht'
  rw [←ht', ←Workspace.carryOut_eq]
  exact after_command inv.command hc

end Operation

namespace Workspace

variable {w : Workspace} {see : Disk → FileView}

theorem perform_of_after {op : Operation Simulation α} {out : Outcome α}
    {refuse : AtomicWrite.Refusals}
    (h : op.after ⟨w.cwd, see, refuse⟩ ⟨w.disk, "", []⟩ = World.add ⟨w.disk, "", []⟩ out) :
    w.perform see refuse op = out := by
  rw [perform, h]
  simp [World.add]

theorem dispatchSeeing_eq (w : Workspace) (files : FileView) (env : Environment)
    (inv : Invocation) :
    w.dispatchSeeing files env inv = w.carryOut (inv.prepare env w.workingDirectory files) :=
  perform_of_after (Operation.after_dispatch env inv rfl)

theorem dispatch_eq (w : Workspace) (env : Environment) (inv : Invocation) :
    w.dispatch env inv = w.carryOut (inv.prepare env w.workingDirectory w.view) :=
  perform_of_after (Operation.after_dispatch env inv rfl)

theorem dispatch_eq_dispatchSeeing (w : Workspace) (env : Environment) (inv : Invocation) :
    w.dispatch env inv = w.dispatchSeeing w.view env inv := by
  rw [dispatch_eq, dispatchSeeing_eq]

theorem exportCatalog_eq (w : Workspace) (settings : Settings) (manifest : Path)
    (output : Option Path) : w.exportCatalog settings manifest output =
      w.andThen (Platform.delivery w.view settings manifest output) w.deliver :=
  perform_of_after (Operation.after_exportCatalog output rfl)

end Workspace
end PlatformCatalog
