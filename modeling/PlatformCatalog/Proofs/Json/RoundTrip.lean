import Mathlib.Data.List.TakeWhile
import Mathlib.Tactic.Common
import PlatformCatalog.Json.Printer
import PlatformCatalog.Json.Reader

namespace PlatformCatalog.Json

open Text

variable {c e close : Char} {cs rest left s : List Char} {layout : Layout}

theorem digitValue?_hexDigit : ∀ n < 16, digitValue? (hexDigit n) = some n := by
  decide

theorem unit?_hexDigit {n : Nat} (h : n < 256) :
    unit? '0' '0' (hexDigit (n / 16)) (hexDigit (n % 16)) = some n := by
  have h₀ : digitValue? '0' = some 0 := by decide
  have h₁ := digitValue?_hexDigit (n / 16) (by omega)
  have h₂ := digitValue?_hexDigit (n % 16) (by omega)
  simp only [unit?, h₀, h₁, h₂, Option.bind_eq_bind, Option.bind_some, Option.pure_def]
  congr 1
  omega

theorem charOfCode?_toNat (c : Char) : charOfCode? c.toNat = some c := by
  have h : c.toNat.isValidChar := c.valid
  rw [charOfCode?, dif_pos h]
  rfl

theorem stringTail_of_short (he : e ≠ 'u') (hc : shortEscape? e = some c)
    (h : stringTail rest = some (cs, left)) :
    stringTail ('\\' :: e :: rest) = some (c :: cs, left) := by
  rw [stringTail]
  case x_1 => exact fun _ _ _ _ _ hu => absurd hu he
  simp [hc, h]

theorem stringTail_of_unit (hc : c.toNat < 0x20) (h : stringTail rest = some (cs, left)) :
    stringTail ('\\' :: 'u' :: '0' :: '0' :: hexDigit (c.toNat / 16) :: hexDigit (c.toNat % 16)
      :: rest) = some (c :: cs, left) := by
  have hs : ¬(0xD800 ≤ c.toNat ∧ c.toNat < 0xDC00) := by omega
  rw [stringTail, unit?_hexDigit (by omega)]
  simp [hs, charOfCode?_toNat, h]

theorem stringTail_of_plain (hq : c ≠ '"') (hb : c ≠ '\\') (hc : ¬c.toNat < 0x20)
    (h : stringTail rest = some (cs, left)) : stringTail (c :: rest) = some (c :: cs, left) := by
  rw [stringTail]
  all_goals simp_all

theorem stringTail_escape (c : Char) (h : stringTail rest = some (cs, left)) :
    stringTail (escape c ++ rest) = some (c :: cs, left) := by
  unfold escape
  split_ifs with hq hb _ _ _ _ _ hc
  case neg => exact stringTail_of_plain hq hb hc h
  on_goal 8 => exact stringTail_of_unit hc h
  all_goals
    subst c
    exact stringTail_of_short (by decide) rfl h

theorem stringTail_flatMap_escape (cs rest : List Char) :
    stringTail (cs.flatMap escape ++ '"' :: rest) = some (cs, rest) := by
  induction cs
  case nil => simp [stringTail]
  case cons c cs hi =>
    rw [List.flatMap_cons, List.append_assoc]
    exact stringTail_escape c hi

theorem string_stringChars (t : String) (rest : List Char) :
    string (stringChars t ++ rest) = some (t, rest) := by
  have h := stringTail_flatMap_escape t.toList rest
  simp [string, stringChars, Reader.char, h]

def Opens (s : List Char) : Prop :=
  ∃ c rest, s = c :: rest ∧ isBlank c = false ∧ c ≠ ']' ∧ c ≠ '\x7d'

theorem skipBlanks_cons (h : isBlank c = false) : skipBlanks (c :: rest) = c :: rest := by
  simp [skipBlanks, h]

theorem Opens.skipBlanks (h : Opens s) (rest : List Char) : skipBlanks (s ++ rest) = s ++ rest := by
  obtain ⟨c, t, rfl, hc, _⟩ := h
  exact skipBlanks_cons hc

theorem skipBlanks_lineBreak (layout : Layout) (depth : Nat) (s : List Char) :
    skipBlanks (layout.lineBreak depth ++ s) = skipBlanks s := by
  cases layout
  case compact => rfl
  case pretty =>
    have hb : ∀ c ∈ '\n' :: List.replicate (2 * depth) ' ', isBlank c = true := by
      simp [isBlank]
    exact List.dropWhile_append_of_pos hb

theorem length_skipBlanks_le (s : List Char) : (skipBlanks s).length ≤ s.length :=
  (List.dropWhile_suffix _).length_le

section Items

variable {α : Type} {item : Reader α} {print : α → List Char} {x : α} {xs : List α}

structure Legible (item : Reader α) (text : List Char) (x : α) : Prop where
  opens : Opens text
  reads : ∀ rest, item (text ++ rest) = some (x, rest)

def padded (item : Reader α) : Reader α := fun s => do
  let (x, s) ← item (skipBlanks s)
  return (x, skipBlanks s)

theorem Legible.padded {text : List Char} (h : Legible item text x) (layout : Layout) (depth : Nat)
    (rest : List Char) :
    padded item (layout.lineBreak depth ++ (text ++ rest)) = some (x, skipBlanks rest) := by
  simp [Json.padded, skipBlanks_lineBreak, h.opens.skipBlanks, h.reads]

def following (layout : Layout) (depth : Nat) (print : α → List Char) (close : Char)
    (rest : List Char) : List α → List Char
  | [] => layout.lineBreak depth ++ close :: rest
  | x :: xs =>
    ',' :: layout.lineBreak (depth + 1) ++ (print x ++ following layout depth print close rest xs)

theorem many_following (hx : ∀ x ∈ xs, Legible item (print x) x) (hc : isBlank close = false)
    (hs : close ≠ ',') (layout : Layout) (depth : Nat) (rest : List Char) :
    Reader.many (fun s => (Reader.char ',' s).bind fun r => padded item r.2)
      (skipBlanks (following layout depth print close rest xs)) = (xs, close :: rest) := by
  induction xs
  case nil =>
    rw [following, skipBlanks_lineBreak, skipBlanks_cons hc]
    apply Reader.many_of_none
    simp [Reader.char, hs]
  case cons x xs hi =>
    have ⟨h, hxs⟩ := List.forall_mem_cons.mp hx
    have hr := h.padded layout (depth + 1) (following layout depth print close rest xs)
    have hl := length_skipBlanks_le (following layout depth print close rest xs)
    rw [following, List.cons_append, skipBlanks_cons rfl, Reader.many_of_some, hi hxs]
    case h => simp [Reader.char, hr]
    case hlt =>
      simp
      omega

theorem items_following (h : Legible item (print x) x) (hx : ∀ x ∈ xs, Legible item (print x) x)
    (hc : close = ']' ∨ close = '\x7d') (layout : Layout) (depth : Nat) (rest : List Char) :
    items item close (layout.lineBreak (depth + 1) ++
      (print x ++ following layout depth print close rest xs)) = some (x :: xs, rest) := by
  have hb : isBlank close = false ∧ close ≠ ',' := by cases hc <;> (subst close; decide)
  have hm := many_following hx hb.left hb.right layout depth rest
  have hs : Reader.separated (padded item) ',' (layout.lineBreak (depth + 1) ++
      (print x ++ following layout depth print close rest xs)) = some (x :: xs, close :: rest) := by
    simp [Reader.separated, h.padded, hm]
  have ho : Reader.char close (skipBlanks (layout.lineBreak (depth + 1) ++
      (print x ++ following layout depth print close rest xs))) = none := by
    rw [skipBlanks_lineBreak, h.opens.skipBlanks]
    obtain ⟨c, t, ht, _, hne⟩ := h.opens
    have hcc : c ≠ close := by cases hc <;> (subst close; simp [hne])
    simp [ht, Reader.char, hcc]
  rw [items, ho]
  change (Reader.separated (padded item) ',' _).bind _ = _
  simp [hs, Reader.char]

end Items

-- Trees with texts at their leaves, in which no table has a key twice, and which a reader takes in
-- that allows so many levels.
inductive Textual : Nat → Value → Prop
  | string {n t} : Textual (n + 1) (.string t)
  | array {n xs} (h : ∀ x ∈ xs, Textual (n + 1) x) : Textual (n + 2) (.array xs)
  | table {n es} (hk : (es.map Prod.fst).Nodup) (h : ∀ e ∈ es, Textual (n + 1) e.2) :
    Textual (n + 2) (.table es)

def entryText (layout : Layout) (depth : Nat) (e : String × Value) : List Char :=
  stringChars e.1 ++ (layout.colon ++ chars layout depth e.2)

theorem itemChars_append (depth : Nat) (xs : List Value) (close : Char) (rest : List Char) :
    itemChars layout (depth + 1) xs ++ (layout.lineBreak depth ++ close :: rest) =
      following layout depth (chars layout (depth + 1)) close rest xs := by
  induction xs
  case nil => simp [itemChars, following]
  case cons x xs hi => simp [itemChars, following, ←hi]

theorem entryChars_append (depth : Nat) (es : List (String × Value)) (close : Char)
    (rest : List Char) :
    entryChars layout (depth + 1) es ++ (layout.lineBreak depth ++ close :: rest) =
      following layout depth (entryText layout (depth + 1)) close rest es := by
  induction es
  case nil => simp [entryChars, following]
  case cons e es hi => simp [entryChars, following, entryText, ←hi]

theorem chars_array (depth : Nat) (x : Value) (xs : List Value) (rest : List Char) :
    chars layout depth (.array (x :: xs)) ++ rest =
      '[' :: (layout.lineBreak (depth + 1) ++ (chars layout (depth + 1) x ++
        following layout depth (chars layout (depth + 1)) ']' rest xs)) := by
  simp [chars, ←itemChars_append]

theorem chars_table (depth : Nat) (e : String × Value) (es : List (String × Value))
    (rest : List Char) :
    chars layout depth (.table (e :: es)) ++ rest =
      '\x7b' :: (layout.lineBreak (depth + 1) ++ (entryText layout (depth + 1) e ++
        following layout depth (entryText layout (depth + 1)) '\x7d' rest es)) := by
  simp [chars, entryText, ←entryChars_append]

theorem upsert_of_not_mem {k : String} {v : Value} {es : List (String × Value)}
    (h : k ∉ es.map Prod.fst) : upsert k v es = es ++ [(k, v)] := by
  induction es
  case nil => rfl
  case cons e es hi =>
    simp only [List.map_cons, List.mem_cons, not_or] at h
    simp [upsert, Ne.symm h.left, hi h.right]

theorem foldl_upsert (acc es : List (String × Value)) (h : ((acc ++ es).map Prod.fst).Nodup) :
    es.foldl (fun t e => upsert e.1 e.2 t) acc = acc ++ es := by
  induction es generalizing acc
  case nil => simp
  case cons e es hi =>
    have he : e.1 ∉ acc.map Prod.fst := by
      rw [List.map_append, List.nodup_append] at h
      exact fun hm => h.right.right e.1 hm e.1 (by simp) rfl
    have hn : ((acc ++ [e] ++ es).map Prod.fst).Nodup := by simpa using h
    rw [List.foldl_cons, upsert_of_not_mem he, hi _ hn, List.append_assoc, List.singleton_append]

theorem opens_stringChars (t : String) (rest : List Char) : Opens (stringChars t ++ rest) :=
  ⟨'"', t.toList.flatMap escape ++ ['"'] ++ rest, rfl, by decide⟩

theorem Legible.entry {n depth : Nat} {e : String × Value}
    (h : Legible (value n) (chars layout depth e.2) e.2) :
    Legible (entry (value n)) (entryText layout depth e) e where
  opens := opens_stringChars _ _
  reads rest := by
    have hc : Reader.char ':' (skipBlanks (layout.colon ++ (chars layout depth e.2 ++ rest))) =
        some ((), layout.colon.tail ++ (chars layout depth e.2 ++ rest)) := by
      cases layout <;> rfl
    have hb : skipBlanks (layout.colon.tail ++ (chars layout depth e.2 ++ rest)) =
        chars layout depth e.2 ++ rest := by
      cases layout <;> exact h.opens.skipBlanks rest
    simp [Json.entry, entryText, string_stringChars, hc, hb, h.reads]

theorem value_stringChars (n : Nat) (t : String) (rest : List Char) :
    value (n + 1) (stringChars t ++ rest) =
      (string (stringChars t ++ rest)).map fun (t, s) => (.string t, s) :=
  rfl

theorem value_bracket (n : Nat) (s : List Char) :
    value (n + 2) ('[' :: s) = (items (value (n + 1)) ']' s).map fun (xs, s) => (.array xs, s) :=
  rfl

theorem value_brace (n : Nat) (s : List Char) :
    value (n + 2) ('\x7b' :: s) = (items (entry (value (n + 1))) '\x7d' s).map fun (es, s) =>
      (.table (es.foldl (fun t e => upsert e.1 e.2 t) []), s) :=
  rfl

theorem Textual.legible {n : Nat} {v : Value} (h : Textual n v) (layout : Layout) (depth : Nat) :
    Legible (value n) (chars layout depth v) v := by
  induction h generalizing depth
  case string n t =>
    constructor
    case opens => simpa [chars] using opens_stringChars t []
    case reads =>
      intro rest
      rw [chars, value_stringChars, string_stringChars]
      rfl
  case array n xs h hi =>
    cases xs
    case nil => exact ⟨⟨'[', [']'], rfl, by decide⟩, fun rest => rfl⟩
    case cons x xs =>
      have ⟨hx, hxs⟩ := List.forall_mem_cons.mp fun x hx => hi x hx (depth + 1)
      constructor
      case opens => exact ⟨'[', _, by simpa using chars_array depth x xs [], by decide⟩
      case reads =>
        intro rest
        have hr := items_following hx hxs (.inl rfl) layout depth rest
        rw [chars_array, value_bracket, hr]
        rfl
  case table n es hk h hi =>
    cases es
    case nil => exact ⟨⟨'\x7b', ['\x7d'], rfl, by decide⟩, fun rest => rfl⟩
    case cons e es =>
      have ⟨he, hes⟩ := List.forall_mem_cons.mp fun e he => (hi e he (depth + 1)).entry
      constructor
      case opens => exact ⟨'\x7b', _, by simpa using chars_table depth e es [], by decide⟩
      case reads =>
        intro rest
        have hr := items_following he hes (.inr rfl) layout depth rest
        have hu := foldl_upsert [] (e :: es) hk
        rw [chars_table, value_brace, hr]
        simp only [Option.map_some, hu, List.nil_append]

theorem Textual.parse?_chars {v : Value} (h : Textual maxDepth v) (layout : Layout)
    {blanks : List Char} (hb : ∀ c ∈ blanks, isBlank c = true) :
    parse? (String.ofList (chars layout 0 v ++ blanks)) = some v := by
  have hl := h.legible layout 0
  have hs : skipBlanks blanks = [] := List.dropWhile_eq_nil_iff.mpr hb
  simp [parse?, hl.opens.skipBlanks, hl.reads, hs]

end PlatformCatalog.Json
