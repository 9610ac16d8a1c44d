import HaxePrompt.Machine.Basic
import HaxePrompt.Proofs.Machine.FileTree

/-! # Who wrote a file last

After files were written, a location holds what was written there last, and what it held before
if nothing was written there.  `FileTree.lastWritten?` follows a list of writes as
`Machine.writeAll` carries them out: each path is resolved among the files that the writes before
it have left. -/

namespace HaxePrompt

/-- What is read of a node. -/
def Node.contents : Node → Bytes
  | .file contents => contents
  | .directory | .program _ | .link _ => []

namespace FileTree

variable {tree : FileTree} {here location : Location} {path : Text} {contents : Bytes}

theorem read_eq_ok (h : tree.read here path = .ok contents) :
    ∃ location node, tree.resolveWhole false here path = .ok (.occupied location node) ∧
      contents = node.contents := by
  unfold read at h
  cases hplace : tree.resolveWhole false here path with
  | error error =>
      rw [hplace] at h
      cases h
  | ok place =>
      rw [hplace] at h
      cases place with
      | vacant location => cases h
      | occupied location node =>
          refine ⟨location, node, rfl, ?_⟩
          cases node with
          | directory => cases h
          | _ => exact (Except.ok.inj h).symm

theorem walk_of_resolveWhole {creating : Bool} {place : Place}
    (h : tree.resolveWhole creating here path = .ok place) :
    walk tree creating maxLinks (if isAbsolute path then [] else here)
      (Text.split separator path) = .ok place := by
  unfold resolveWhole resolve at h
  split at h
  · cases h
  split at h
  · cases h
  split at h
  · cases h
  exact h

theorem get?_of_resolveWhole {creating : Bool} {node : Node}
    (h : tree.resolveWhole creating here path = .ok (.occupied location node)) :
    tree.get? location = some node :=
  (get?_of_walk (walk_of_resolveWhole h)).2 location node rfl

theorem ne_nil_of_target? (h : tree.target? here path = some location) : location ≠ [] := by
  obtain ⟨place, hresolve, hplace⟩ := target?_eq_some_iff.mp h
  rintro rfl
  exact get?_ne_directory_of_walk (walk_of_resolveWhole hresolve) hplace rfl

/-- What the writes put at a location last. -/
def lastWritten? (directory location : Location) : FileTree → List (Text × Bytes) → Option Bytes
  | _, [] => none
  | files, (path, contents) :: rest =>
    (lastWritten? directory location (Machine.writeAll files directory [(path, contents)]) rest).or
      (if files.target? directory path = some location then some contents else none)

theorem get?_write_one (files : FileTree) (directory location : Location) (path : Text)
    (contents : Bytes) :
    (Machine.writeAll files directory [(path, contents)]).get? location =
      if files.target? directory path = some location then some (.file contents)
      else files.get? location := by
  simp only [Machine.writeAll, List.foldl_cons, List.foldl_nil]
  cases hwrite : files.write directory path contents with
  | error error =>
      -- a write that fails has no target
      have hnone : files.target? directory path ≠ some location := by
        intro htarget
        rw [write_eq_ok_iff.mpr ⟨location, htarget, rfl⟩] at hwrite
        cases hwrite
      rw [if_neg hnone]
  | ok files' =>
      obtain ⟨target, htarget, rfl⟩ := write_eq_ok_iff.mp hwrite
      simp only [htarget, Option.some.injEq]
      by_cases heq : target = location
      · rw [if_pos heq, ← heq]
        exact get?_put_self (ne_nil_of_target? htarget)
      · rw [if_neg heq]
        exact get?_put_of_ne (Ne.symm heq)

/-- After the writes a location holds what was written there last. -/
theorem get?_writeAll (directory location : Location) (files : FileTree)
    (wrote : List (Text × Bytes)) :
    (Machine.writeAll files directory wrote).get? location =
      ((lastWritten? directory location files wrote).map Node.file).or (files.get? location) := by
  induction wrote generalizing files with
  | nil => rfl
  | cons write rest ih =>
      obtain ⟨path, contents⟩ := write
      have hsplit : Machine.writeAll files directory ((path, contents) :: rest) =
          Machine.writeAll (Machine.writeAll files directory [(path, contents)]) directory rest :=
        rfl
      rw [hsplit, ih, get?_write_one, lastWritten?]
      split <;> cases lastWritten? directory location _ rest <;> rfl

theorem writeAll_of_write {files files' : FileTree} {directory : Location}
    (h : files.write directory path contents = .ok files') :
    Machine.writeAll files directory [(path, contents)] = files' := by
  simp only [Machine.writeAll, List.foldl_cons, List.foldl_nil, h]

end FileTree

end HaxePrompt
