import Courier.Text.Compose

/-!
# Paths

A path names a file by the names that lead to it, with slashes between them. Empty names and single
periods lead nowhere and are left out; two periods are kept. `Path.text` is the path as it is shown.
-/

namespace Courier

/-- A path, from the root or from the directory at hand. -/
structure Path where
  /-- Slashes in front of the first name: none, one, or two. -/
  root : Nat := 0
  names : List String := []
deriving DecidableEq, Repr, Inhabited

namespace Path

/-- The path that a text names. -/
def ofText (s : String) : Path :=
  let slashes := (s.toList.takeWhile (· == '/')).length
  let names := (Text.splitOn (· == '/') s.toList).map String.ofList
  ⟨if slashes = 2 then 2 else min slashes 1, names.filter fun name => name != "" && name != "."⟩

/-- The path as it is shown. -/
def text (p : Path) : String :=
  let body := "/".intercalate p.names
  if p.root = 0 && p.names.isEmpty then "." else String.ofList (List.replicate p.root '/') ++ body

/-- Every path on the way to a path, from the first directory on, the path itself left out. -/
def parents (p : Path) : List Path :=
  (List.range p.names.length).map fun n => ⟨p.root, p.names.take n⟩

/-- The path of the directory around a path; nothing lies around the directory at hand or the
root. -/
def parent (p : Path) : Path := ⟨p.root, p.names.dropLast⟩

/-- The place one step on from a place: two periods lead one directory up, and from the root
nowhere. -/
def enter (p : Path) (name : String) : Path :=
  if name != ".." then ⟨p.root, p.names ++ [name]⟩
  else if p.names.getLast?.all (· == "..") then
    if p.root = 0 then ⟨0, p.names ++ [".."]⟩ else ⟨p.root, []⟩
  else p.parent

/-- The place that a path names if every directory on the way is there. -/
def normal (p : Path) : Path := p.names.foldl enter ⟨p.root, []⟩

example : (ofText "./templates.yaml").text = "templates.yaml" := by cbv

example : (ofText "/abs//p/").text = "/abs/p" := by cbv

example : (ofText "").text = "." := by cbv

end Path

end Courier
