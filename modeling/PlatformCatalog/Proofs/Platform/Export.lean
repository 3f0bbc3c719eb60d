import PlatformCatalog.Proofs.Disk.AtomicWrite
import PlatformCatalog.Proofs.Json.RoundTrip
import PlatformCatalog.Proofs.Platform.Load
import PlatformCatalog.Proofs.Run.Prepared

namespace PlatformCatalog

variable {w : Workspace} {settings : Settings} {manifest t : Path} {output : Option Path}
variable {p : Platform}

namespace VersionTable

def exportText (t : VersionTable) : String :=
  Json.pretty t.toValue ++ "\n"

def ofFile? (contents : Bytes) : Option VersionTable := do
  let text ← Text.decode? contents
  match ← Json.parse? text with
  | .table entries => (Value.table entries).toVersionTable?.toOption
  | _ => none

theorem textual_toValue (t : VersionTable) (n : Nat) : Json.Textual (n + 2) t.toValue := by
  have hk : (t.entries.map fun e => (e.1, Value.string e.2)).map Prod.fst = t.names := by
    simp [names, Function.comp_def]
  apply Json.Textual.table
  case hk => exact hk ▸ t.nodup_names
  case h =>
    rw [List.forall_mem_map]
    exact fun e _ => .string

theorem toVersionTable?_toValue (t : VersionTable) : t.toValue.toVersionTable? = .ok t := by
  have hm : (t.entries.map fun e => (e.1, Value.string e.2)).mapM
      (fun e => do return (e.1, ← e.2.toString?)) = (pure t.entries : Except Misfit _) := by
    rw [List.mapM_map]
    exact List.mapM_pure.trans (by simp)
  rw [Value.toVersionTable?, toValue, Value.entries?]
  simp only [hm, pure_bind, ofList_entries]
  rfl

theorem parse?_exportText (t : VersionTable) : Json.parse? t.exportText = some t.toValue := by
  have hb : ∀ c ∈ ['\n'], Json.isBlank c = true := by simp [Json.isBlank]
  have hp := (t.textual_toValue 126).parse?_chars .pretty hb
  rwa [String.ofList_append] at hp

theorem ofFile?_exportText (t : VersionTable) : ofFile? (Text.bytes t.exportText) = some t := by
  have hv := t.toVersionTable?_toValue
  rw [ofFile?, Text.decode?_bytes]
  simp only [Option.bind_eq_bind, Option.bind_some, parse?_exportText]
  rw [toValue] at hv ⊢
  simp only [hv]
  rfl

theorem exportText_injective {t u : VersionTable}
    (h : Text.bytes t.exportText = Text.bytes u.exportText) : t = u := by
  have hf := ofFile?_exportText t
  rw [h, ofFile?_exportText] at hf
  exact (Option.some.inj hf).symm

end VersionTable

namespace Platform

theorem result_delivery (files : FileView) (settings : Settings) (path : Path)
    (output : Option Path) :
    (delivery files settings path output).result =
      (load files settings path false).result.map fun p => p.delivered settings output := by
  simp only [delivery, Logged.result_bind]
  cases (load files settings path false).result <;> rfl

end Platform

namespace Workspace

theorem deliver_eq_ok {d : Delivery} (h : (w.deliver d).result = .ok t) :
    t = d.target ∧ read ⟨(w.deliver d).disk, w.cwd⟩ t = .ok (Text.bytes d.contents) ∧
      (w.deliver d).stdout = d.notice ++ "\n" := by
  have hd : (w.deliver d).disk = (w.writeAtomic d.target (Text.bytes d.contents)).1 := rfl
  have hr : (w.deliver d).result =
    (d.finish (w.writeAtomic d.target (Text.bytes d.contents)).2.result).result := rfl
  cases hw : (w.writeAtomic d.target (Text.bytes d.contents)).2.result
  case error fault =>
    rw [hr, hw] at h
    cases h
  case ok =>
    have hs : (w.deliver d).stdout = d.notice ++ "\n" := by
      simp only [deliver, hw, Delivery.finish]
    rw [hr, hw] at h
    cases h
    exact ⟨rfl, hd ▸ read_writeAtomic hw, hs⟩

theorem exportCatalog_of_error {e : Failure}
    (h : (Platform.load w.view settings manifest false).result = .error e) :
    (w.exportCatalog settings manifest output).result = .error e := by
  have hd : (Platform.delivery w.view settings manifest output).result = .error e := by
    rw [Platform.result_delivery, h]
    rfl
  rw [exportCatalog_eq, andThen_of_error hd]

theorem exportCatalog_of_ok (h : (Platform.load w.view settings manifest false).result = .ok p)
    (output : Option Path) :
    (w.exportCatalog settings manifest output).result =
        (w.deliver (p.delivered settings output)).result ∧
      (w.exportCatalog settings manifest output).disk =
        (w.deliver (p.delivered settings output)).disk ∧
      (w.exportCatalog settings manifest output).stdout =
        (w.deliver (p.delivered settings output)).stdout := by
  have hd : (Platform.delivery w.view settings manifest output).result =
      .ok (p.delivered settings output) := by
    rw [Platform.result_delivery, h]
    rfl
  rw [exportCatalog_eq, andThen_of_ok hd]
  exact ⟨rfl, rfl, rfl⟩

theorem exists_load_of_exportCatalog
    (h : (w.exportCatalog settings manifest output).result = .ok t) :
    ∃ p, (Platform.load w.view settings manifest false).result = .ok p := by
  cases hl : (Platform.load w.view settings manifest false).result
  case error e =>
    rw [exportCatalog_of_error hl] at h
    cases h
  case ok p => exact ⟨p, rfl⟩

theorem exportCatalog_reads_back (h : (w.exportCatalog settings manifest output).result = .ok t) :
    ∃ (p : Platform) (contents : Bytes),
      (Platform.load w.view settings manifest false).result = .ok p ∧ p.manifestPath = manifest ∧
      t = output.getD (p.root.join (.ofString settings.output.exportFile)) ∧
      read ⟨(w.exportCatalog settings manifest output).disk, w.cwd⟩ t = .ok contents ∧
      contents = Text.bytes (Json.pretty p.publication.catalog.toValue ++ "\n") ∧
      VersionTable.ofFile? contents = some p.publication.catalog ∧
      (∀ other : VersionTable, Text.bytes (Json.pretty other.toValue ++ "\n") = contents →
        other = p.publication.catalog) ∧
      (w.exportCatalog settings manifest output).stdout =
        s!"Exported {p.publication.catalog.entries.length} group versions to {t.display}\n" := by
  have ⟨p, hp⟩ := exists_load_of_exportCatalog h
  have ⟨hr, hd, hs⟩ := exportCatalog_of_ok hp output
  rw [hr] at h
  have ⟨ht, hf, hn⟩ := deliver_eq_ok h
  refine ⟨p, Text.bytes p.publication.catalog.exportText, hp,
    (Platform.load_eq_ok_iff.mp hp).right.right, ht, hd ▸ hf, rfl,
    VersionTable.ofFile?_exportText _, fun other ho => VersionTable.exportText_injective ho, ?_⟩
  rw [hs, hn, ht]
  rfl

def quoting : Workspace where
  disk := ⟨[([Text.bytes "lib"], .directory), ([Text.bytes "lib", Text.bytes "Platform.toml"],
    .file (Text.bytes "platform=['p']\ndependencies=[\"\\\"\\\\\\u0001é:a:1.+\"]"))]⟩
  cwd := []

theorem exportCatalog_reads_back_quoting :
    (quoting.exportCatalog {} (.ofString "lib/Platform.toml") none).result =
      .ok (.ofString "lib/versions.json") ∧
    ∃ (p : Platform) (contents : Bytes),
      p.publication.catalog.entries = [("\"\\\x01é", "1.+")] ∧
      read ⟨(quoting.exportCatalog {} (.ofString "lib/Platform.toml") none).disk, []⟩
        (.ofString "lib/versions.json") = .ok contents ∧
      VersionTable.ofFile? contents = some p.publication.catalog := by
  have h : (quoting.exportCatalog {} (.ofString "lib/Platform.toml") none).result =
    .ok (.ofString "lib/versions.json") := by decide +kernel
  have ⟨p, contents, hp, _, _, hr, _, hf, _⟩ := exportCatalog_reads_back h
  have hc : (Platform.load quoting.view {} (.ofString "lib/Platform.toml") false).result.map
      (fun p => p.publication.catalog.entries) = .ok [("\"\\\x01é", "1.+")] := by decide +kernel
  rw [hp] at hc
  exact ⟨h, p, contents, Except.ok.inj hc, hr, hf⟩

end Workspace
end PlatformCatalog
