import PlatformCatalog.Proofs.Coordinate
import PlatformCatalog.Proofs.Logged
import PlatformCatalog.Proofs.Reference

namespace PlatformCatalog

namespace Reference

variable {lookup : String → Option String} {s t : List Char}

theorem next?_append (hs : ¬opening <:+: s) (hst : s.getLast? = some '$' → t.head? ≠ some '\x7b') :
    next? (s ++ t) = (next? t).map fun x => (s ++ x.1, x.2) := by
  cases ht : next? t
  case none => exact next?_eq_none_iff.mpr ((next?_eq_none_iff.mp ht).prepend hs hst)
  case some x =>
    obtain ⟨before, key, after⟩ := x
    obtain ⟨ht, hb, hk⟩ := next?_eq_some_iff.mp ht
    refine next?_eq_some_iff.mpr ⟨by simp [ht], not_infix_append hs hb fun hl hh => ?_, hk⟩
    exact hst hl (by simp [ht, List.head?_append, hh])

theorem expandChars_append (hs : ¬opening <:+: s)
    (hst : s.getLast? = some '$' → t.head? ≠ some '\x7b') :
    expandChars lookup (s ++ t) = (expandChars lookup t).map (s ++ ·) := by
  have hn := next?_append hs hst
  cases ht : next? t
  case none =>
    rw [ht] at hn
    rw [expandChars_of_none ht, expandChars_of_none hn]
    rfl
  case some x =>
    obtain ⟨before, key, after⟩ := x
    rw [ht] at hn
    rw [expandChars_of_some ht, expandChars_of_some hn]
    cases lookup (String.ofList key)
    case none => rfl
    case some version =>
      cases expandChars lookup after
      case error => rfl
      case ok rest => simp [Except.map]

namespace Reading

variable {r : Reading}

theorem Proper.expandChars_append (h : r.Proper) (hr : ¬opening <:+: r.tail.toList)
    (hrt : r.text.toList.getLast? = some '$' → t.head? ≠ some '\x7b') :
    expandChars lookup (r.text.toList ++ t) = (do
      let x ← expandChars lookup r.text.toList
      let y ← expandChars lookup t
      return x ++ y) := by
  obtain ⟨xs, tail⟩ := r
  induction xs
  case nil =>
    have ht : text ⟨[], tail⟩ = tail := rfl
    rw [expandChars_of_none h.next?_nil, ht] at *
    rw [Reference.expandChars_append hr hrt]
    cases expandChars lookup t <;> rfl
  case cons x xs hi =>
    have hx : (text ⟨x :: xs, tail⟩).toList =
        (x.literal.toList ++ '$' :: '\x7b' :: (x.key.toList ++ ['\x7d'])) ++
          (text ⟨xs, tail⟩).toList := by
      simp [toList_text_cons]
    have hn : next? ((text ⟨x :: xs, tail⟩).toList ++ t) =
        some (x.literal.toList, x.key.toList, (text ⟨xs, tail⟩).toList ++ t) :=
      next?_eq_some_iff.mpr ⟨by simp [hx], h.literals x (.head _), h.keys x (.head _)⟩
    have hi := hi h.of_cons hr fun hl => hrt (by rw [hx, List.getLast?_append, hl]; rfl)
    rw [expandChars_of_some hn, expandChars_of_some h.next?_cons]
    cases lookup (String.ofList x.key.toList)
    case none => rfl
    case some version =>
      simp only [hi]
      cases expandChars lookup (text ⟨xs, tail⟩).toList
      case error => rfl
      case ok =>
        cases expandChars lookup t
        case error => rfl
        case ok => simp [bind, Except.bind, Except.map, pure, Except.pure]

theorem proper_reference {key : String} (hk : '\x7d' ∉ key.toList) : Proper ⟨[⟨"", key⟩], ""⟩ where
  literals := by simp [opening]
  keys := by simpa using hk
  tail := .inl (by simp [opening])

end Reading
end Reference

open Reference

namespace Manifest

variable {m : Manifest} {place : Place}

theorem expand_append {r : Reading} (h : r.Proper) (hr : ¬opening <:+: r.tail.toList) (b : String)
    (hrb : r.text.toList.getLast? = some '$' → b.toList.head? ≠ some '\x7b') :
    m.expand place (r.text ++ b) = (do
      let x ← m.expand place r.text
      let y ← m.expand place b
      return x ++ y) := by
  simp only [expand, Reference.expand]
  rw [String.toList_append, h.expandChars_append hr hrb]
  cases expandChars m.versions.get? r.text.toList
  case error => rfl
  case ok =>
    cases expandChars m.versions.get? b.toList
    case error => rfl
    case ok => simp [bind, Except.bind, Except.map, Except.mapError, pure, Except.pure]

theorem expand_reference {key version : String} (hk : '\x7d' ∉ key.toList)
    (hv : m.versions.get? key = some version) :
    m.expand place ("$\x7b" ++ key ++ "\x7d") = .ok version := by
  have ht : Reading.text ⟨[⟨"", key⟩], ""⟩ = "$\x7b" ++ key ++ "\x7d" := by simp [Reading.text]
  have hf : Reading.filled m.versions.get? ⟨[⟨"", key⟩], ""⟩ = version := by
    simp [Reading.filled, hv]
  rw [expand, ←ht, (Reading.proper_reference hk).expand_of_known (by simp [hv]), hf]
  rfl

theorem expand_append_reference {s key version : String} (hs : ¬opening <:+: s.toList)
    (hk : '\x7d' ∉ key.toList) (hv : m.versions.get? key = some version) :
    m.expand place (s ++ ("$\x7b" ++ key ++ "\x7d")) = .ok (s ++ version) := by
  have hp : Reading.Proper ⟨[], s⟩ := ⟨by simp, by simp, .inl hs⟩
  have ht : Reading.text ⟨[], s⟩ = s := rfl
  have he : m.expand place s = .ok s := by
    rw [expand, ←ht, hp.expand_nil]
    rfl
  calc m.expand place (s ++ ("$\x7b" ++ key ++ "\x7d"))
    _ = (do
        let x ← m.expand place s
        let y ← m.expand place ("$\x7b" ++ key ++ "\x7d")
        return x ++ y) := expand_append hp hs _ fun _ => by simp
    _ = .ok (s ++ version) := by
      rw [he, expand_reference hk hv]
      rfl

-- The parts of a text can be expanded on their own unless a reference begins in one and ends in the
-- other. In particular, the version of a coordinate can be a reference.
theorem expand_in_parts (m : Manifest) (place : Place) :
    (∀ (r : Reading) (a b : String), r.Proper → r.text = a → ¬opening <:+: r.tail.toList →
      ¬(a.toList.getLast? = some '$' ∧ b.toList.head? = some '\x7b') →
      m.expand place (a ++ b) = (do
        let x ← m.expand place a
        let y ← m.expand place b
        return x ++ y)) ∧
    ∀ start key version : String, ¬opening <:+: start.toList → '\x7d' ∉ key.toList →
      m.versions.get? key = some version →
      m.expand place (start ++ ("$\x7b" ++ key ++ "\x7d")) = .ok (start ++ version) ∧
      ∀ group artifact, start = group ++ ":" ++ artifact ++ ":" → Coordinate.IsField group →
        Coordinate.IsField artifact → Coordinate.IsField version →
        Coordinate.parse (start ++ version) = .ok ⟨group, artifact, version⟩ := by
  constructor
  case left =>
    rintro r a b hr rfl ht hs
    exact expand_append hr ht b fun hl hh => hs ⟨hl, hh⟩
  case right =>
    intro start key version hs hk hv
    refine ⟨expand_append_reference hs hk hv, ?_⟩
    rintro group artifact rfl hg ha hv
    have hw : Coordinate.WellFormed ⟨group, artifact, version⟩ := ⟨hg, ha, hv⟩
    have hp : Coordinate.parse (Coordinate.text ⟨group, artifact, version⟩) =
        .ok ⟨group, artifact, version⟩ := Coordinate.parse_text_eq_ok_iff.mpr ⟨rfl, hw⟩
    exact hp

def adjoining : Reading :=
  ⟨[⟨"", "v"⟩], "$"⟩

theorem expand_in_parts_adjoining :
    let m : Manifest := ⟨⟨"p", none⟩, .ofList [("v", "1"), ("w", "2")], [], [], []⟩
    adjoining.Proper ∧ adjoining.text = "$\x7bv\x7d$" ∧
    m.expand ⟨.dependencies, 0⟩ ("$\x7bv\x7d$" ++ "$\x7bw\x7d\x7b") = .ok "1$2\x7b" ∧
    m.expand ⟨.dependencies, 0⟩ ("g:a:" ++ ("$\x7b" ++ "v" ++ "\x7d")) = .ok "g:a:1" ∧
    Coordinate.parse "g:a:1" = .ok ⟨"g", "a", "1"⟩ := by
  intro m
  have hp : adjoining.Proper := ⟨by decide, by decide, .inl (by decide)⟩
  have ht : adjoining.text = "$\x7bv\x7d$" := by decide
  have ⟨hd, hr⟩ := expand_in_parts m ⟨.dependencies, 0⟩
  have ⟨he, hc⟩ := hr "g:a:" "v" "1" (by decide) (by decide) (by decide)
  refine ⟨hp, ht, ?parts, he, hc "g" "a" (by decide) ?_ ?_ ?_⟩
  case parts =>
    rw [hd adjoining _ _ hp ht (by decide) (by decide)]
    decide +kernel
  all_goals exact ⟨by decide, by decide⟩

example :
    let m : Manifest := ⟨⟨"p", none⟩, .ofList [("v", "1")], [], [], []⟩
    m.expand ⟨.dependencies, 0⟩ ("$" ++ "\x7bv\x7d") = .ok "1" ∧
      m.expand ⟨.dependencies, 0⟩ "$" = .ok "$" ∧
      m.expand ⟨.dependencies, 0⟩ "\x7bv\x7d" = .ok "\x7bv\x7d" := by
  decide +kernel

end Manifest
end PlatformCatalog
