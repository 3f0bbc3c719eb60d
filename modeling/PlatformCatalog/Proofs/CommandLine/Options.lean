import Mathlib.Tactic.Common
import PlatformCatalog.CommandLine.Parse
import PlatformCatalog.Proofs.Logged

namespace PlatformCatalog.CommandLine

def Flag.longWord (f : Flag) : Word :=
  [Word.dash, Word.dash] ++ Text.bytes f.long

-- How an option can be written. A value in a word of its own does not begin with a dash.
inductive Written : Flag × Option Bytes → List Word → Prop
  | long {f : Flag} : f.takesValue = false → Written (f, none) [f.longWord]
  | short {f : Flag} {c : Char} : f.takesValue = false → f.short? = some c →
    Written (f, none) [[Word.dash, c.toUInt8]]
  | joined {f : Flag} {v : Bytes} : f.takesValue = true →
    Written (f, some v) [f.longWord ++ Word.equals :: v]
  | apart {f : Flag} {v : Bytes} : f.takesValue = true → v.head? ≠ some Word.dash →
    Written (f, some v) [f.longWord, v]

inductive Phrased : List (Flag × Option Bytes) → List Word → Prop
  | nil : Phrased [] []
  | cons {o os ws rest} : Written o ws → Phrased os rest → Phrased (o :: os) (ws ++ rest)

variable {scope : Scope} {f : Flag} {v : Bytes} {o : Flag × Option Bytes}
variable {word : Word} {ws : List Word} {os options : List (Flag × Option Bytes)}
variable {r : Reading} {part : Part}

namespace Word

theorem shape_of_head?_ne (h : word.head? ≠ some dash) : word.shape = .plain := by
  cases word
  case nil => rfl
  case cons first rest =>
    cases rest
    case nil => rfl
    case cons =>
      have hf : first ≠ dash := by simpa using h
      simp [shape, hf]

theorem ne_equals_of_mem_long {b : UInt8} (h : b ∈ Text.bytes f.long) : b ≠ equals := by
  have hf : ∀ b ∈ Text.bytes f.long, b ≠ equals := by cases f <;> decide +kernel
  exact hf b h

theorem shape_longWord (f : Flag) : f.longWord.shape = .long (Text.bytes f.long) none := by
  cases f <;> decide +kernel

theorem shape_longWord_equals (f : Flag) (v : Bytes) :
    shape (f.longWord ++ equals :: v) = .long (Text.bytes f.long) (some v) := by
  have hp : ∀ b ∈ Text.bytes f.long, decide (b ≠ equals) = true := by
    simpa using fun b => ne_equals_of_mem_long
  have hn : (Text.bytes f.long ++ equals :: v).takeWhile (· ≠ equals) = Text.bytes f.long := by
    rw [List.takeWhile_append_of_pos hp, List.takeWhile_cons_of_neg (by simp), List.append_nil]
  have hv : (Text.bytes f.long ++ equals :: v).dropWhile (· ≠ equals) = equals :: v := by
    rw [List.dropWhile_append_of_pos hp, List.dropWhile_cons_of_neg (by simp)]
  simp only [Flag.longWord, List.cons_append, List.nil_append, shape, valueIn, hn, hv]
  simp

theorem shape_dashes : shape [dash, dash] = .dashes := rfl

theorem ofWord?_of_shape_ne (h : word.shape ≠ .plain) : Subcommand.ofWord? word = none := by
  cases hs : Subcommand.ofWord? word
  case none => rfl
  case some s =>
    have hw : Text.bytes s.word = word := by simpa using List.find?_some hs
    subst hw
    cases s <;> exact absurd (by decide +kernel) h

theorem ne_helpWord_of_shape_ne (h : word.shape ≠ .plain) : word ≠ Text.bytes helpWord := by
  rintro rfl
  exact absurd (by decide +kernel) h

theorem ofWord?_word (s : Subcommand) : Subcommand.ofWord? (Text.bytes s.word) = some s := by
  cases s <;> decide +kernel

theorem word_ne_helpWord (s : Subcommand) : Text.bytes s.word ≠ Text.bytes helpWord := by
  cases s <;> decide +kernel

end Word

namespace Scope

theorem long?_of_mem (h : f ∈ scope.flags) : scope.long? (Text.bytes f.long) = some f := by
  revert h
  cases scope
  case root => cases f <;> decide +kernel
  case after s => cases s <;> cases f <;> decide +kernel

theorem short?_of_mem {c : Char} (h : f ∈ scope.flags) (hc : f.short? = some c) :
    scope.short? c.toUInt8 = some f := by
  revert h
  cases scope
  case root => cases f <;> cases hc <;> decide +kernel
  case after s => cases s <;> cases f <;> cases hc <;> decide +kernel

end Scope

def Part.Holds (part : Part) (options : List (Flag × Option Bytes)) : Prop :=
  part.settle = .ok { given := options }

-- An option that concerns the run and is understood in a scope.
structure Readable (scope : Scope) (o : Flag × Option Bytes) : Prop where
  known    : o.1 ∈ scope.flags
  ordinary : o.1 ≠ .help ∧ o.1 ≠ .programVersion
  nonempty : o.2 ≠ some []

namespace Part.Holds

theorem of_given (options : List (Flag × Option Bytes)) : Holds { given := options } options := rfl

theorem awaitsValue (h : part.Holds options) : part.awaitsValue = false := by
  unfold Holds settle at h
  unfold Part.awaitsValue
  split
  case h_1 hp =>
    rw [hp] at h
    cases h
  case h_2 => rfl

theorem hasGroup (h : part.Holds options) : part.hasGroup = false := by
  unfold Holds settle at h
  unfold Part.hasGroup
  split at h
  case h_1 hp =>
    cases h
    rfl
  case h_2 => cases h
  case h_3 hp =>
    simp only [give] at h
    split_ifs at h
    simp_all
  case h_4 hp =>
    split at h <;> cases h

theorem settle (h : part.Holds options) : Reading.settle part = .ok { given := options } := by
  rw [Reading.settle, h]
  rfl

end Part.Holds

theorem Part.has_eq_false_iff : (part.has f = false) ↔ (f ∉ part.given.map Prod.fst) := by
  simp only [Part.has, List.any_eq_false, decide_eq_true_eq, List.mem_map, not_exists, not_and]

theorem Part.has_eq_true_iff : (part.has f = true) ↔ (∃ v, (f, v) ∈ part.given) := by
  simp [Part.has]

theorem lookup_eq_some_iff_mem {value : Option Bytes} (h : (os.map Prod.fst).Nodup) :
    (os.lookup f = some value) ↔ ((f, value) ∈ os) := by
  induction os
  case nil => simp
  case cons o os hi =>
    obtain ⟨g, w⟩ := o
    have ⟨hn, hos⟩ := List.nodup_cons.mp h
    simp only [List.lookup_cons, List.mem_cons, Prod.mk.injEq]
    by_cases hf : f = g
    case pos =>
      subst hf
      have hm : (f, value) ∉ os := fun hm => hn (List.mem_map.mpr ⟨_, hm, rfl⟩)
      simp [hm, eq_comm]
    case neg => simp [hf, beq_false_of_ne hf, hi hos]

theorem Part.value?_eq_some_iff (part : Part) (h : (part.given.map Prod.fst).Nodup) :
    (part.value? f = some v) ↔ ((f, some v) ∈ part.given) := by
  simp [Part.value?, Option.bind_eq_some_iff, lookup_eq_some_iff_mem h]

theorem Part.give_of_not_mem (part : Part) (h : f ∉ part.given.map Prod.fst) (hv : v ≠ []) :
    part.give f v = .ok { part with given := part.given ++ [(f, some v)] } := by
  simp [Part.give, Part.has_eq_false_iff.mpr h, hv]

namespace Reading

variable {name letters : Bytes} {value : Option Bytes}

theorem words_of_long (h : word.shape = .long name value) (rest : List Word) :
    r.words (word :: rest) part = (do r.words rest (← r.longOption name value part)) := by
  have hs : word.shape ≠ .plain := by simp [h]
  rw [words]
  simp [Word.ofWord?_of_shape_ne hs, Word.ne_helpWord_of_shape_ne hs, h]

theorem words_of_short (h : word.shape = .short letters) (rest : List Word) :
    r.words (word :: rest) part = (do r.words rest (← r.shortOptions letters part)) := by
  have hs : word.shape ≠ .plain := by simp [h]
  rw [words]
  simp [Word.ofWord?_of_shape_ne hs, Word.ne_helpWord_of_shape_ne hs, h]

theorem words_of_dashes (rest : List Word) :
    r.words ([Word.dash, Word.dash] :: rest) part = (r.arguments rest part).map (·, none) := by
  have hs : Word.shape [Word.dash, Word.dash] ≠ .plain := by simp [Word.shape_dashes]
  rw [words]
  simp [Word.ofWord?_of_shape_ne hs, Word.ne_helpWord_of_shape_ne hs, Word.shape_dashes]

theorem words_of_value (h : v.head? ≠ some Word.dash) (hp : part.pending = some (.option f none))
    (rest : List Word) :
    r.words (v :: rest) part = r.words rest { part with pending := some (.option f (some v)) } := by
  have ha : part.awaitsValue = true := by simp [Part.awaitsValue, hp]
  rw [words]
  simp [ha, Word.shape_of_head?_ne h, hp]

theorem words_of_subcommand (hr : r.scope = .root) (ha : part.awaitsValue = false)
    (s : Subcommand) (rest : List Word) :
    r.words (Text.bytes s.word :: rest) part = .ok (part, some (s, rest)) := by
  rw [words]
  simp [hr, ha, Word.word_ne_helpWord, Word.ofWord?_word]

theorem switch_of_holds (h : part.Holds options) (hn : f ∉ options.map Prod.fst)
    (ho : f ≠ .help ∧ f ≠ .programVersion) (long : Bool) :
    r.switch f long part = .ok { given := options ++ [(f, none)] } := by
  have hf : Part.has { given := options } f = false := Part.has_eq_false_iff.mpr hn
  simp only [switch, h.settle, ok_bind]
  cases f <;> simp_all [pure, Except.pure]

theorem attached_of_holds (h : part.Holds options) (hn : f ∉ options.map Prod.fst) (hv : v ≠ []) :
    attached f v part = .ok { given := options ++ [(f, some v)] } := by
  simp only [attached, h.settle, ok_bind, Part.give_of_not_mem { given := options } hn hv]
  rfl

theorem await_of_holds (h : part.Holds options) :
    await f part = .ok { given := options, pending := some (.option f none) } := by
  simp only [await, h.settle, ok_bind]
  rfl

theorem finish_of_settle {p : Part} {manifest : Option Bytes} (h : part.settle = .ok p)
    (hm : manifest ≠ some []) : finish manifest part = .ok p := by
  simp only [finish, settle, h]
  simp [hm, Except.mapError, bind, Except.bind, pure, Except.pure]

end Reading

namespace Part.Holds

theorem words_written (h : part.Holds options) (ho : Readable r.scope o)
    (hn : o.1 ∉ options.map Prod.fst) (hw : Written o ws) :
    ∃ part' : Part, part'.Holds (options ++ [o]) ∧
      ∀ rest, r.words (ws ++ rest) part = r.words rest part' := by
  cases hw
  case long f ht =>
    refine ⟨_, .of_given _, fun rest => ?_⟩
    have hr : r.longOption (Text.bytes f.long) none part =
        .ok { given := options ++ [(f, none)] } := by
      simp [Reading.longOption, Scope.long?_of_mem ho.known, ht,
        Reading.switch_of_holds h hn ho.ordinary]
    rw [List.singleton_append, Reading.words_of_long (Word.shape_longWord f), hr, ok_bind]
  case short f c ht hc =>
    refine ⟨_, .of_given _, fun rest => ?_⟩
    have hr : r.shortOptions [c.toUInt8] part = .ok { given := options ++ [(f, none)] } := by
      simp [Reading.shortOptions, Scope.short?_of_mem ho.known hc, ht,
        Reading.switch_of_holds h hn ho.ordinary, ok_bind]
    have hs : Word.shape [Word.dash, c.toUInt8] = .short [c.toUInt8] := by
      cases f <;> cases hc <;> decide +kernel
    rw [List.singleton_append, Reading.words_of_short hs, hr, ok_bind]
  case joined f v ht =>
    refine ⟨_, .of_given _, fun rest => ?_⟩
    have hv : v ≠ [] := fun hv => ho.nonempty (congrArg some hv)
    have hr : r.longOption (Text.bytes f.long) (some v) part =
        .ok { given := options ++ [(f, some v)] } := by
      simp [Reading.longOption, Scope.long?_of_mem ho.known, ht, Reading.attached_of_holds h hn hv]
    rw [List.singleton_append, Reading.words_of_long (Word.shape_longWord_equals f v), hr, ok_bind]
  case apart f v ht hd =>
    -- The value is not settled before something else comes.
    have hv : v ≠ [] := fun hv => ho.nonempty (congrArg some hv)
    refine ⟨{ given := options, pending := some (.option f (some v)) },
      Part.give_of_not_mem { given := options } hn hv, fun rest => ?_⟩
    have hr : r.longOption (Text.bytes f.long) none part =
        .ok { given := options, pending := some (.option f none) } := by
      simp [Reading.longOption, Scope.long?_of_mem ho.known, ht, Reading.await_of_holds h]
    rw [List.cons_append, List.singleton_append, Reading.words_of_long (Word.shape_longWord f), hr,
      ok_bind, Reading.words_of_value hd rfl]

theorem words_phrased (h : part.Holds options) (ho : ∀ o ∈ os, Readable r.scope o)
    (hn : ((options ++ os).map Prod.fst).Nodup) (hp : Phrased os ws) :
    ∃ part' : Part, part'.Holds (options ++ os) ∧
      ∀ rest, r.words (ws ++ rest) part = r.words rest part' := by
  -- What has been read moves from the words to `options`, with the part that holds it.
  induction hp generalizing part options
  case nil => exact ⟨part, by rwa [List.append_nil], fun rest => rfl⟩
  case cons o os ws wss hw hp hi =>
    have ⟨ho, hos⟩ := List.forall_mem_cons.mp ho
    have hn' : o.1 ∉ options.map Prod.fst := by
      intro hm
      simp only [List.map_append, List.map_cons, List.nodup_append] at hn
      exact hn.right.right _ hm _ (.head _) rfl
    obtain ⟨part₁, h₁, hw⟩ := h.words_written ho hn' hw
    obtain ⟨part₂, h₂, hws⟩ := hi h₁ hos (by rwa [List.append_assoc])
    refine ⟨part₂, by rwa [List.append_assoc] at h₂, fun rest => ?_⟩
    rw [List.append_assoc, hw, hws]

end Part.Holds
end PlatformCatalog.CommandLine
