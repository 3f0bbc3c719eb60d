import Mathlib.Data.List.Perm.Basic
import PlatformCatalog.Proofs.CommandLine.Options

namespace PlatformCatalog

open CommandLine

namespace Command

def subcommand : Command → Subcommand
  | .report _ => .report
  | .check _ => .check
  | .versionOf _ => .versionOf
  | .exportCatalog _ => .exportCatalog

def options : Command → List (Flag × Option Bytes)
  | .report json => if json then [(.json, none)] else []
  | .check denyDynamic => if denyDynamic then [(.denyDynamic, none)] else []
  | .versionOf _ => []
  | .exportCatalog output => output.toList.map fun p => (.output, some p.bytes)

def group? : Command → Option String
  | .versionOf group => some group
  | _ => none

def arguments (c : Command) : List Word :=
  match c.group? with
  | some group => [[Word.dash, Word.dash], Text.bytes group]
  | none => []

end Command

namespace Invocation

def globals (inv : Invocation) : List (Flag × Option Bytes) :=
  (if inv.verbose then [(.verbose, none)] else []) ++
    inv.manifest.toList.map fun p => (.manifest, some p.bytes)

structure NamesFiles (inv : Invocation) : Prop where
  manifest : ∀ p, inv.manifest = some p → p.bytes ≠ []
  output   : ∀ p, inv.command = .exportCatalog (some p) → p.bytes ≠ []

end Invocation

namespace CommandLine

-- All options of an invocation, once each and in any order, some before the subcommand and the
-- others after it. Those of the command itself stand after it.
structure Divided (inv : Invocation) (before after : List (Flag × Option Bytes)) : Prop where
  once   : (before ++ after).Perm (inv.globals ++ inv.command.options)
  before : before ⊆ inv.globals

inductive Phrases (inv : Invocation) : List Word → Prop
  | intro {before after first last} :
    Divided inv before after → Phrased before first → Phrased after last →
    Phrases inv (first ++ Text.bytes inv.command.subcommand.word :: (last ++ inv.command.arguments))

variable {f : Flag} {o : Flag × Option Bytes} {options : List (Flag × Option Bytes)}
variable {r : Reading} {part : Part}

theorem Part.Holds.words_arguments {c : Command} (h : part.Holds options)
    (hr : r.scope = .after c.subcommand) :
    ∃ part' : Part, r.words c.arguments part = .ok (part', none) ∧
      part'.settle = .ok { given := options, group := c.group? } := by
  cases c
  case versionOf group =>
    refine ⟨{ given := options, pending := some (.group (Text.bytes group)) }, ?words, ?settle⟩
    case words =>
      have ha : r.argument (Text.bytes group) true part =
          .ok { given := options, pending := some (.group (Text.bytes group)) } := by
        simp only [Reading.argument, hr, Command.subcommand, Scope.takesGroup, h.hasGroup, h.settle,
          ok_bind]
        rfl
      rw [Command.arguments, Command.group?, Reading.words_of_dashes, Reading.arguments,
        List.foldlM_cons, ha]
      rfl
    case settle => simp [Part.settle, Command.group?]
  all_goals exact ⟨part, rfl, h⟩

variable {inv : Invocation} {before after : List (Flag × Option Bytes)} {value : Option Bytes}

theorem mem_globals_iff : ((f, value) ∈ inv.globals) ↔
    (f = .verbose ∧ value = none ∧ inv.verbose = true) ∨
      (f = .manifest ∧ ∃ p, inv.manifest = some p ∧ some p.bytes = value) := by
  simp only [Invocation.globals]
  grind

theorem mem_options_iff {c : Command} : ((f, value) ∈ c.options) ↔
    (f = .json ∧ value = none ∧ c = .report true) ∨
      (f = .denyDynamic ∧ value = none ∧ c = .check true) ∨
      (f = .output ∧ ∃ p, c = .exportCatalog (some p) ∧ some p.bytes = value) := by
  cases c <;> simp only [Command.options] <;> grind

theorem nodup_options (inv : Invocation) :
    ((inv.globals ++ inv.command.options).map Prod.fst).Nodup := by
  obtain ⟨verbose, manifest, command⟩ := inv
  rcases command with (_ | _) | (_ | _) | _ | (_ | _) <;> cases verbose <;> cases manifest <;>
    simp [Invocation.globals, Command.options]

theorem readable_globals (h : inv.NamesFiles) (scope : Scope) :
    ∀ o ∈ inv.globals, Readable scope o := by
  have hs : .verbose ∈ scope.flags ∧ .manifest ∈ scope.flags := by
    cases scope
    case root => decide
    case after s => cases s <;> decide
  rintro ⟨f, value⟩ ho
  obtain ⟨rfl, rfl, _⟩ | ⟨rfl, p, hp, rfl⟩ := mem_globals_iff.mp ho
  case inl => exact ⟨hs.left, by simp, by simp⟩
  case inr => exact ⟨hs.right, by simp, by simpa using h.manifest p hp⟩

theorem readable_options (h : inv.NamesFiles) :
    ∀ o ∈ inv.command.options, Readable (.after inv.command.subcommand) o := by
  rintro ⟨f, value⟩ ho
  obtain ⟨rfl, rfl, hc⟩ | ⟨rfl, rfl, hc⟩ | ⟨rfl, p, hc, rfl⟩ := mem_options_iff.mp ho
  case inl => exact hc ▸ ⟨.head _, by simp, by simp⟩
  case inr.inl => exact hc ▸ ⟨.head _, by simp, by simp⟩
  case inr.inr => exact hc ▸ ⟨.head _, by simp, by simpa using h.output p hc⟩

namespace Divided

theorem mem_iff (h : Divided inv before after) :
    (o ∈ before ∨ o ∈ after) ↔ (o ∈ inv.globals ∨ o ∈ inv.command.options) := by
  rw [←List.mem_append, ←List.mem_append, h.once.mem_iff]

theorem nodup (h : Divided inv before after) : ((before ++ after).map Prod.fst).Nodup :=
  (h.once.map Prod.fst).nodup_iff.mpr (nodup_options inv)

theorem nodup_before (h : Divided inv before after) : (before.map Prod.fst).Nodup := by
  have hn := h.nodup
  rw [List.map_append, List.nodup_append] at hn
  exact hn.left

theorem nodup_after (h : Divided inv before after) : (after.map Prod.fst).Nodup := by
  have hn := h.nodup
  rw [List.map_append, List.nodup_append] at hn
  exact hn.right.left

theorem mem_after_iff (h : Divided inv before after) (hf : f ≠ .verbose ∧ f ≠ .manifest) :
    ((f, value) ∈ after) ↔ ((f, value) ∈ inv.command.options) := by
  have hg : (f, value) ∉ inv.globals := by simp [mem_globals_iff, hf]
  have hb : (f, value) ∉ before := fun hm => hg (h.before hm)
  simpa [hg, hb] using h.mem_iff (o := (f, value))

theorem mem_or_mem_iff (h : Divided inv before after) (hf : f = .verbose ∨ f = .manifest) :
    ((f, value) ∈ before ∨ (f, value) ∈ after) ↔ ((f, value) ∈ inv.globals) := by
  have hc : (f, value) ∉ inv.command.options := by
    rcases hf with rfl | rfl <;> simp [mem_options_iff]
  rw [h.mem_iff, or_iff_left hc]

theorem readable_before (h : Divided inv before after) (hn : inv.NamesFiles) :
    ∀ o ∈ before, Readable .root o :=
  fun o ho => readable_globals hn .root o (h.before ho)

theorem readable_after (h : Divided inv before after) (hn : inv.NamesFiles) :
    ∀ o ∈ after, Readable (.after inv.command.subcommand) o := by
  intro o ho
  cases h.mem_iff.mp (.inr ho)
  case inl hg => exact readable_globals hn _ o hg
  case inr hc => exact readable_options hn o hc

theorem has_after (h : Divided inv before after) (hf : f ≠ .verbose ∧ f ≠ .manifest)
    (group : Option String) :
    (Part.has { given := after, group } f = true) ↔
      (∃ value, (f, value) ∈ inv.command.options) := by
  simp only [Part.has_eq_true_iff, h.mem_after_iff hf]

theorem command_eq (h : Divided inv before after) :
    command inv.command.subcommand { given := after, group := inv.command.group? } =
      .ok inv.command := by
  cases hc : inv.command
  case report json =>
    have hj : Part.has { given := after } .json = json := by
      rw [Bool.eq_iff_iff, h.has_after (by simp)]
      simp [hc, mem_options_iff]
    simp only [command, Command.subcommand, Command.group?, hj]
  case check denyDynamic =>
    have hd : Part.has { given := after } .denyDynamic = denyDynamic := by
      rw [Bool.eq_iff_iff, h.has_after (by simp)]
      simp [hc, mem_options_iff]
    simp only [command, Command.subcommand, Command.group?, hd]
  case versionOf group => rfl
  case exportCatalog output =>
    have ho : Part.value? { given := after } .output = output.map Path.bytes := by
      apply Option.ext
      intro v
      rw [Part.value?_eq_some_iff _ h.nodup_after, h.mem_after_iff (by simp)]
      simp [hc, mem_options_iff]
    simp [command, Command.subcommand, Command.group?, ho, Function.comp_def]

theorem verbose_eq (h : Divided inv before after) (g : Option String) :
    (Part.has { given := before } .verbose || Part.has { given := after, group := g } .verbose) =
      inv.verbose := by
  rw [Bool.eq_iff_iff, Bool.or_eq_true, Part.has_eq_true_iff, Part.has_eq_true_iff, ←exists_or]
  simp [h.mem_or_mem_iff, mem_globals_iff]

theorem manifest_eq (h : Divided inv before after) (group : Option String) :
    (Part.value? { given := after, group } .manifest).or
      (Part.value? { given := before } .manifest) = inv.manifest.map Path.bytes := by
  have hg (v : Bytes) : ((.manifest, some v) ∈ before ∨ (.manifest, some v) ∈ after) ↔
      (inv.manifest.map Path.bytes = some v) := by
    rw [h.mem_or_mem_iff (.inr rfl)]
    simp [mem_globals_iff]
  cases hs : Part.value? { given := after, group } .manifest
  case some v =>
    have hm := (Part.value?_eq_some_iff _ h.nodup_after).mp hs
    exact ((hg v).mp (.inr hm)).symm
  case none =>
    -- If there is a manifest at all, it stands before the subcommand.
    rw [Option.none_or]
    apply Option.ext
    intro v
    rw [Part.value?_eq_some_iff _ h.nodup_before, ←hg, or_iff_left]
    intro hm
    cases hs.symm.trans ((Part.value?_eq_some_iff _ h.nodup_after).mpr hm)

variable {first last : List Word}

theorem words_before (h : Divided inv before after) (hn : inv.NamesFiles)
    (hp : Phrased before first) (s : Subcommand) (shown : String) (rest : List Word) :
    ∃ root : Part, root.settle = .ok { given := before } ∧
      Reading.words ⟨.root, shown⟩ (first ++ Text.bytes s.word :: rest) {} =
        .ok (root, some (s, rest)) := by
  obtain ⟨root, hr, hw⟩ := (Part.Holds.of_given []).words_phrased (r := ⟨.root, shown⟩)
    (h.readable_before hn) h.nodup_before hp
  refine ⟨root, hr, ?_⟩
  rw [hw, Reading.words_of_subcommand rfl hr.awaitsValue]

theorem words_after (h : Divided inv before after) (hn : inv.NamesFiles)
    (hp : Phrased after last) (shown : String) :
    ∃ sub : Part, sub.settle = .ok { given := after, group := inv.command.group? } ∧
      Reading.words ⟨.after inv.command.subcommand, shown⟩ (last ++ inv.command.arguments) {} =
        .ok (sub, none) := by
  obtain ⟨part, hp, hw⟩ := (Part.Holds.of_given []).words_phrased
    (r := ⟨.after inv.command.subcommand, shown⟩) (h.readable_after hn) h.nodup_after hp
  obtain ⟨sub, ha, hs⟩ := hp.words_arguments
    (r := ⟨.after inv.command.subcommand, shown⟩) (c := inv.command) rfl
  exact ⟨sub, hs, by rw [hw, ha]⟩

end Divided

theorem parseWords_of_phrases {args : List Word} {manifest : Option Bytes} (hn : inv.NamesFiles)
    (hm : manifest ≠ some []) (h : Phrases inv args) :
    parseWords manifest args =
      .ok { inv with manifest := inv.manifest.or (manifest.map Path.mk) } := by
  cases h
  case intro before after first last hd hfirst hlast =>
    obtain ⟨root, hr, hroot⟩ := hd.words_before hn hfirst inv.command.subcommand
      (Text.decodeLossy (manifest.getD [])) (last ++ inv.command.arguments)
    obtain ⟨sub, hs, hsub⟩ := hd.words_after hn hlast (Text.decodeLossy (manifest.getD []))
    simp only [parseWords, hroot, hsub, ok_bind, Reading.finish_of_settle hs hm,
      Reading.finish_of_settle hr hm, hd.command_eq, hd.verbose_eq, hd.manifest_eq]
    simp [pure, Except.pure, Function.comp_def]

-- However an invocation is phrased, it is understood. A manifest that the environment names counts
-- only if the command line names none.
theorem parse_every_phrasing {args : List Word} (hn : inv.NamesFiles) (h : Phrases inv args) :
    parseWords none args = .ok inv ∧
    ∀ path ≠ [], (inv.manifest.isSome → parseWords (some path) args = .ok inv) ∧
      (inv.manifest = none →
        parseWords (some path) args = .ok { inv with manifest := some ⟨path⟩ }) := by
  constructor
  case left =>
    rw [parseWords_of_phrases hn (by simp) h]
    simp
  case right =>
    intro path hp
    rw [parseWords_of_phrases hn (by simpa using hp) h]
    constructor
    case left =>
      intro hm
      rw [Option.or_of_isSome hm]
    case right =>
      intro hm
      simp [hm]

theorem parse_every_phrasing_disguised :
    let inv : Invocation := ⟨true, some (.ofString "show"), .versionOf "--json"⟩
    let args := ["--manifest", "show", "version", "-v", "--", "--json"].map Text.bytes
    inv.NamesFiles ∧ Phrases inv args ∧ parseWords none args = .ok inv ∧
      parseWords (some (Text.bytes "lib/Platform.toml")) args = .ok inv := by
  intro inv args
  have hn : inv.NamesFiles := ⟨by simp [inv, Path.ofString]; decide +kernel, by simp [inv]⟩
  have hd : Divided inv [(.manifest, some (Text.bytes "show"))] [(.verbose, none)] :=
    ⟨.swap _ _ _, by simp [Invocation.globals, inv, Path.ofString]⟩
  have hp : Phrases inv args :=
    .intro hd (.cons (.apart rfl (by decide +kernel)) .nil) (.cons (.short rfl rfl) .nil)
  obtain ⟨h, hv⟩ := parse_every_phrasing hn hp
  exact ⟨hn, hp, h, (hv (Text.bytes "lib/Platform.toml") (by decide +kernel)).left rfl⟩

end CommandLine
end PlatformCatalog
