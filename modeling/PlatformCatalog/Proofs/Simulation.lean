import PlatformCatalog.Proofs.Logged
import PlatformCatalog.Simulation

namespace PlatformCatalog

variable {α β : Type} {c : Conditions} {s t : World}

theorem Simulation.bind_eq (x : Simulation α) (f : α → Simulation β) (c : Conditions) (s : World) :
    (x >>= f) c s = f (x c s).1 c (x c s).2 := rfl

namespace AtomicWrite

-- On a simulated system, a write takes the steps of `step`.
theorem advance_eq (a : AtomicWrite) (stage : Stage) (c : Conditions) (s : World) :
    (a.advance stage : Simulation Stage) c s =
      ((a.step c.cwd c.refuse (s.disk, stage)).2,
        { s with disk := (a.step c.cwd c.refuse (s.disk, stage)).1 }) := by
  cases stage
  case parents =>
    simp only [advance, step, Simulation.bind_eq, Host.makeDirectories, Conditions.unlessRefused,
      Conditions.makeDirectories]
    cases c.refuse.stage .parents
    case some => rfl
    case none =>
      cases Workspace.makeDirectoriesUnless c.refuse.directory ⟨s.disk, c.cwd⟩ a.parent
      case mk d r => cases r <;> rfl
  case temporary =>
    simp only [advance, step, Simulation.bind_eq, Host.createTemp, Conditions.unlessRefused,
      Conditions.createTemp]
    cases c.refuse.stage .temporary
    case some => rfl
    case none => cases a.createTemp ⟨s.disk, c.cwd⟩ <;> rfl
  case filling temp left =>
    cases left
    case nil => rfl
    case cons chunk left =>
      simp only [advance, step, Simulation.bind_eq, Host.append, Conditions.unlessRefused]
      cases c.refuse.stage (.filling temp (chunk :: left)) <;> rfl
  case syncing temp =>
    simp only [advance, step, Simulation.bind_eq, Host.sync, Conditions.unlessRefused]
    cases c.refuse.stage (.syncing temp) <;> rfl
  case moving temp =>
    simp only [advance, step, Simulation.bind_eq, Host.move, Conditions.unlessRefused,
      Conditions.move]
    cases c.refuse.stage (.moving temp)
    case some => rfl
    case none => cases Workspace.moveFile ⟨s.disk, c.cwd⟩ temp a.target <;> rfl
  case ended => rfl

theorem perform_eq (a : AtomicWrite) (c : Conditions) (s : World) :
    (a.perform : Simulation Stage) c s =
      ((a.run c.cwd c.refuse s.disk).2, { s with disk := (a.run c.cwd c.refuse s.disk).1 }) := by
  have h (k : Nat) : (Nat.repeat (· >>= a.advance) k (pure .parents) : Simulation Stage) c s =
      ((Nat.repeat (a.step c.cwd c.refuse) k (s.disk, .parents)).2,
        { s with disk := (Nat.repeat (a.step c.cwd c.refuse) k (s.disk, .parents)).1 }) := by
    induction k
    case zero => rfl
    case succ k hi =>
      rw [Nat.repeat, Simulation.bind_eq, hi]
      exact a.advance_eq _ c _
  exact h a.stepCount

end AtomicWrite

def Conditions.writeAtomic (c : Conditions) (d : Disk) (target : Path) (contents : Bytes) :
    Disk × Logged Event IoFault Unit :=
  let a : AtomicWrite := ⟨target, [contents], d.freshName (Workspace.names target)⟩
  let (d, stage) := a.run c.cwd c.refuse d
  (d, AtomicWrite.outcome target stage)

theorem Conditions.writeAtomic_of_refuse_none (hc : c.refuse = .none) (d : Disk) (target : Path)
    (contents : Bytes) :
    c.writeAtomic d target contents = Workspace.writeAtomic ⟨d, c.cwd⟩ target contents := by
  rw [writeAtomic, hc]
  rfl

namespace Operation

variable {x : Operation Simulation α} {e : Failure}

theorem after_bind_of_ok {a : α} (h : x.after c s = (.ok a, t)) (f : α → Operation Simulation β) :
    (x >>= f).after c s = (f a).after c t := by
  unfold after at h ⊢
  rw [ExceptT.run_bind, Simulation.bind_eq, h]

theorem after_bind_of_error (h : x.after c s = (.error e, t)) (f : α → Operation Simulation β) :
    (x >>= f).after c s = (.error e, t) := by
  unfold after at h ⊢
  rw [ExceptT.run_bind, Simulation.bind_eq, h]
  rfl

theorem after_bind_congr {y : Operation Simulation α} (h : x.after c s = y.after c s)
    (f : α → Operation Simulation β) : (x >>= f).after c s = (y >>= f).after c s := by
  cases hy : y.after c s
  case mk r t =>
    cases r
    case error e => rw [after_bind_of_error (h.trans hy), after_bind_of_error hy]
    case ok a => rw [after_bind_of_ok (h.trans hy), after_bind_of_ok hy]

theorem after_map (f : α → β) (x : Operation Simulation α) (c : Conditions) (s : World) :
    (f <$> x).after c s = ((x.after c s).1.map f, (x.after c s).2) := by
  rw [←bind_pure_comp]
  cases hx : x.after c s
  case mk r t =>
    cases r
    case error => exact after_bind_of_error hx _
    case ok => exact after_bind_of_ok hx _

theorem after_pure (a : α) (c : Conditions) (s : World) :
    (pure a : Operation Simulation α).after c s = (.ok a, s) := rfl

theorem after_throw (e : Failure) (c : Conditions) (s : World) :
    (throw e : Operation Simulation α).after c s = (.error e, s) := rfl

theorem after_ask (x : Simulation α) (c : Conditions) (s : World) :
    (ask x).after c s = (.ok (x c s).1, (x c s).2) := rfl

theorem after_print (text : String) (c : Conditions) (s : World) :
    (print text).after c s = (.ok (), { s with stdout := s.stdout ++ text }) := rfl

theorem after_note (event : Event) (c : Conditions) (s : World) :
    (note event).after c s = (.ok (), { s with log := s.log ++ [event] }) := rfl

theorem after_take (step : Step α) (c : Conditions) (s : World) :
    (take step).after c s = (step.result, { s with log := s.log ++ step.log }) := by
  have hl (log : List Event) (s : World) : (forM log note : Operation Simulation Unit).after c s =
      (.ok (), { s with log := s.log ++ log }) := by
    induction log generalizing s
    case nil => simp [after_pure]
    case cons event log hi =>
      rw [List.forM_cons, after_bind_of_ok (after_note event c s), hi]
      simp
  rw [take, after_bind_of_ok (hl step.log s)]
  rfl

theorem after_look {paths : List Path} (f : FileView → Operation Simulation α) (c : Conditions)
    (s : World) :
    (ask (Host.look paths) >>= f).after c s = (f ((c.see s.disk).only paths)).after c s :=
  after_bind_of_ok (after_ask _ c s) f

theorem after_settings (path : Path) (c : Conditions) (s : World) :
    (settings path).after c s =
      (take (Settings.loadOrDefault (c.see s.disk) path)).after c s := by
  have hs : ((c.see s.disk).only [path]).SameAt (c.see s.disk) path :=
    FileView.sameAt_only (List.mem_singleton_self path)
  rw [settings, after_look, Settings.loadOrDefault, Settings.load_congr hs]
  rfl

theorem after_load (settings : Settings) (manifest : Path) (denyDynamic : Bool) (c : Conditions)
    (s : World) :
    (load settings manifest denyDynamic).after c s =
      (take (Platform.load (c.see s.disk) settings manifest denyDynamic)).after c s := by
  rw [load, after_look,
    Platform.load_congr (FileView.sameAt_only (List.mem_singleton_self manifest))]

theorem after_writeAtomic (target : Path) (contents : Bytes) (c : Conditions) (s : World) :
    (writeAtomic target contents).after c s =
      (take ((c.writeAtomic s.disk target contents).2.lift id (.notWritten target))).after c
        { s with disk := (c.writeAtomic s.disk target contents).1 } := by
  rw [writeAtomic, after_bind_of_ok (after_ask _ c s), after_bind_of_ok (after_ask _ c _),
    AtomicWrite.perform_eq]
  rfl

end Operation
end PlatformCatalog
