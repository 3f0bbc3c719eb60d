namespace PlatformCatalog

structure Logged (ω ε α : Type) where
  log : List ω
  result : Except ε α

namespace Logged

variable {ω ω' ε ε' α β : Type}

def ok (a : α) : Logged ω ε α := ⟨[], .ok a⟩

def fail (e : ε) : Logged ω ε α := ⟨[], .error e⟩

def ofExcept (r : Except ε α) : Logged ω ε α := ⟨[], r⟩

def note (event : ω) : Logged ω ε Unit := ⟨[event], .ok ()⟩

def bind (x : Logged ω ε α) (f : α → Logged ω ε β) : Logged ω ε β :=
  match x.result with
  | .error e => ⟨x.log, .error e⟩
  | .ok a => ⟨x.log ++ (f a).log, (f a).result⟩

instance : Monad (Logged ω ε) where
  pure := ok
  bind := bind

def lift (event : ω → ω') (error : ε → ε') (x : Logged ω ε α) : Logged ω' ε' α :=
  ⟨x.log.map event, x.result.mapError error⟩

theorem bind_of_ok {x : Logged ω ε α} {a : α} (h : x.result = .ok a) (f : α → Logged ω ε β) :
    x.bind f = ⟨x.log ++ (f a).log, (f a).result⟩ := by
  simp [bind, h]

theorem bind_of_error {x : Logged ω ε α} {e : ε} (h : x.result = .error e)
    (f : α → Logged ω ε β) : x.bind f = ⟨x.log, .error e⟩ := by
  simp [bind, h]

end Logged
end PlatformCatalog
