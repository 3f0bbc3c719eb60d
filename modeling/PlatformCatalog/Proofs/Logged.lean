import Mathlib.Tactic.Common
import PlatformCatalog.Build.Logged

namespace PlatformCatalog

variable {ω ω' ε ε' α β : Type}

theorem ok_bind (a : α) (f : α → Except ε β) : Except.ok a >>= f = f a := rfl

theorem bind_eq_ok_iff {x : Except ε α} {f : α → Except ε β} {b : β} :
    (x >>= f = .ok b) ↔ (∃ a, x = .ok a ∧ f a = .ok b) := by
  cases x <;> simp [bind, Except.bind]

theorem mapError_eq_ok_iff {x : Except ε α} {f : ε → ε'} {a : α} :
    (x.mapError f = .ok a) ↔ (x = .ok a) := by
  cases x <;> simp [Except.mapError]

namespace Logged

@[simp]
theorem result_pure (a : α) : (pure a : Logged ω ε α).result = .ok a := rfl

@[simp]
theorem result_ofExcept (r : Except ε α) : (ofExcept r : Logged ω ε α).result = r := rfl

@[simp]
theorem result_lift (event : ω → ω') (error : ε → ε') (x : Logged ω ε α) :
    (x.lift event error).result = x.result.mapError error := rfl

@[simp]
theorem result_bind (x : Logged ω ε α) (f : α → Logged ω ε β) :
    (x >>= f).result = x.result >>= fun a => (f a).result := by
  change (Logged.bind x f).result = x.result.bind fun a => (f a).result
  cases h : x.result
  case error e => rw [bind_of_error h, Except.bind]
  case ok a => rw [bind_of_ok h, Except.bind]

def FailsOnly (Allowed : ε → Prop) (x : Logged ω ε α) : Prop :=
  ∀ e, x.result = .error e → Allowed e

section FailsOnly

variable {Allowed : ε → Prop} {x : Logged ω ε α}

theorem FailsOnly.of_ok {a : α} (h : x.result = .ok a) : x.FailsOnly Allowed := by
  intro e he
  cases h.symm.trans he

theorem FailsOnly.of_mapError {r : Except ε' α} {f : ε' → ε} (h : x.result = r.mapError f)
    (ha : ∀ e, Allowed (f e)) : x.FailsOnly Allowed := by
  intro e he
  rw [h] at he
  cases r
  case ok => cases he
  case error e' =>
    cases he
    exact ha e'

theorem FailsOnly.bind {f : α → Logged ω ε β} (hx : x.FailsOnly Allowed)
    (hf : ∀ a, (f a).FailsOnly Allowed) : (x >>= f).FailsOnly Allowed := by
  intro e he
  rw [result_bind] at he
  cases hr : x.result
  case error e' =>
    rw [hr] at he
    cases he
    exact hx e hr
  case ok a =>
    rw [hr] at he
    exact hf a e he

end FailsOnly
end Logged
end PlatformCatalog
