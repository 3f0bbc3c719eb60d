import PlatformCatalog.Disk.IoFault
import PlatformCatalog.Path

namespace PlatformCatalog

structure FileView where
  isFile : Path → Bool
  read : Path → Except IoFault Bytes

namespace FileView

def readText (files : FileView) (path : Path) : Except IoFault String := do
  let bytes ← files.read path
  match Text.decode? bytes with
  | some text => return text
  | none => throw .notUtf8

def nearestWith (files : FileView) (start name : Path) : Option Path :=
  start.ancestors.find? fun p => files.isFile (p.join name)

def only (files : FileView) (paths : List Path) : FileView where
  isFile p := decide (p ∈ paths) && files.isFile p
  read p := if p ∈ paths then files.read p else .error (.os .noEntry)

def SameAt (f g : FileView) (p : Path) : Prop :=
  f.isFile p = g.isFile p ∧ f.read p = g.read p

theorem sameAt_only {f : FileView} {p : Path} {paths : List Path} (h : p ∈ paths) :
    (f.only paths).SameAt f p := by
  simp [SameAt, only, h]

theorem readText_congr {f g : FileView} {p : Path} (h : f.SameAt g p) :
    f.readText p = g.readText p := by
  simp only [readText, h.2]

theorem nearestWith_congr {f g : FileView} {start name : Path}
    (h : ∀ p ∈ start.ancestors, f.SameAt g (p.join name)) :
    f.nearestWith start name = g.nearestWith start name := by
  unfold nearestWith
  generalize start.ancestors = ps at h
  induction ps with
  | nil => rfl
  | cons p ps ih =>
    simp only [List.find?_cons, (h p (by simp)).1, ih fun q hq => h q (by simp [hq])]

end FileView
end PlatformCatalog
