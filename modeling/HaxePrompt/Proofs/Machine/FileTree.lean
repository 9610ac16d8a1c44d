import HaxePrompt.Machine.FileTree
import Mathlib.Data.List.Infix

/-! # What was written is read

A file that was written at a path is what the path leads to afterwards, with the contents that
were written (`read_write`).  The walk goes the same way in the new tree, since nothing it passes
changes: the written location holds no directory (`get?_ne_directory_of_walk`) and no link that
the walk follows (`ne_of_walk_link`). -/

namespace HaxePrompt

/-- A file can be written at the place, which is this location. -/
def Place.TakesFile (place : Place) (location : Location) : Prop :=
  place = .vacant location ∨ ∃ node, place = .occupied location node ∧ node ≠ .directory

namespace FileTree

variable {tree : FileTree} {creating : Bool} {links : Nat} {here location : Location}
  {names : List Text} {place : Place} {node : Node}

/-! ### Putting -/

theorem get?_put_self (h : location ≠ []) : (tree.put location node).get? location = some node := by
  unfold get? put
  rw [if_neg h, List.find?_cons_of_pos (by simp)]
  rfl

theorem get?_put_of_ne {other : Location} (h : other ≠ location) :
    (tree.put location node).get? other = tree.get? other := by
  unfold get? put
  split
  · rfl
  · rw [List.find?_cons_of_neg (by simpa using h.symm), List.find?_filter]
    congr 2
    funext entry
    by_cases heq : entry.1 = other
    · simp [heq, h]
    · simp [heq]

/-! ### Walking -/

theorem get?_of_walk (h : walk tree creating links here names = .ok place) :
    (∀ l, place = .vacant l → tree.get? l = none) ∧
      ∀ l node, place = .occupied l node → tree.get? l = some node := by
  fun_induction walk tree creating links here names with
  | case1 links here node hnode =>
      cases h
      constructor
      · rintro l ⟨⟩
      · rintro l node' ⟨⟩
        exact hnode
  | case8 links here name hhere hname hup hlong hnone =>
      cases h
      constructor
      · rintro l ⟨⟩
        exact hnone
      · rintro l node' ⟨⟩
  | case4 links here name rest hhere hname ih => exact ih h
  | case5 links here rest hhere hname ih => exact ih h
  | case11 here name rest hhere hname hup hlast hlong target hlink left ih => exact ih h
  | case12 links here name rest hhere hname hup hlast hlong next hnext hget ih => exact ih h
  | case2 | case3 | case6 | case7 | case9 | case10 => cases h

/-- A walk that ends at a link began there or below it, for otherwise it would have followed the
link. -/
theorem prefix_of_walk_link {target : Text}
    (h : walk tree creating links here names = .ok (.occupied location (.link target))) :
    location <+: here := by
  fun_induction walk tree creating links here names with
  | case1 links here node hnode =>
      cases h
      exact List.prefix_refl _
  | case4 links here name rest hhere hname ih => exact ih h
  | case5 links here rest hhere hname ih => exact (ih h).trans (List.dropLast_prefix here)
  | case11 here name rest hhere hname hup hlast hlong target hlink left ih =>
      have hle := ih h
      split at hle
      · exact hle.trans (List.nil_prefix)
      · exact hle
  | case12 links here name rest hhere hname hup hlast hlong next hnext hget ih =>
      rcases List.prefix_concat_iff.mp (ih h) with heq | hle
      · -- at a link the walk would have followed it
        have hnode := (get?_of_walk h).2 _ _ rfl
        rw [heq, hget] at hnode
        cases hnode
        exact absurd rfl (hnext target)
      · exact hle
  | case8 | case2 | case3 | case6 | case7 | case9 | case10 => cases h

theorem ne_of_walk_link {name target : Text}
    (h : walk tree creating links (if isAbsolute target then [] else here) names = .ok place)
    (hlink : tree.get? (here ++ [name]) = some (.link target))
    (hplace : place.TakesFile location) : here ++ [name] ≠ location := by
  intro heq
  obtain ⟨hvacant, hoccupied⟩ := get?_of_walk h
  rw [heq] at hlink
  rcases hplace with rfl | ⟨node, rfl, _⟩
  · rw [hvacant _ rfl] at hlink
    cases hlink
  · rw [hoccupied _ _ rfl] at hlink
    cases hlink
    have hle : location <+: here := by
      have hstart := prefix_of_walk_link h
      split at hstart
      · exact hstart.trans List.nil_prefix
      · exact hstart
    rw [← heq] at hle
    have hlength := hle.length_le
    rw [List.length_append, List.length_singleton] at hlength
    omega

theorem get?_ne_directory_of_walk (h : walk tree creating links here names = .ok place)
    (hplace : place.TakesFile location) : tree.get? location ≠ some .directory := by
  intro hdirectory
  obtain ⟨hvacant, hoccupied⟩ := get?_of_walk h
  rcases hplace with rfl | ⟨node, rfl, hnode⟩
  · rw [hvacant _ rfl] at hdirectory
    cases hdirectory
  · rw [hoccupied _ _ rfl] at hdirectory
    cases hdirectory
    exact hnode rfl

/-! ### Writing, then reading -/

/-- A walk that ends where a file can be written ends there as well when it was written. -/
theorem walk_put (h : walk tree true links here names = .ok place)
    (hplace : place.TakesFile location) (contents : Bytes) :
    walk (tree.put location (.file contents)) false links here names =
      .ok (.occupied location (.file contents)) := by
  have hlocation := get?_ne_directory_of_walk h hplace
  have hself : (tree.put location (.file contents)).get? location = some (.file contents) := by
    apply get?_put_self
    rintro rfl
    exact hlocation rfl
  have hstays : ∀ l, tree.get? l = some .directory →
      (tree.put location (.file contents)).get? l = some .directory := by
    intro l hl
    rw [get?_put_of_ne, hl]
    rintro rfl
    exact hlocation hl
  fun_induction walk tree true links here names with
  | case1 links here node hnode =>
      cases h
      have hhere : here = location := by
        rcases hplace with hplace | ⟨_, hplace, _⟩
        · cases hplace
        · cases hplace
          rfl
      rw [hhere, walk, hself]
  | case8 links here name hhere hname hup hlong hnone hlast =>
      cases h
      have hmade : here ++ [name] = location := by
        rcases hplace with hplace | ⟨_, hplace, _⟩
        · cases hplace
          rfl
        · cases hplace
      have hdirectory := hstays here (not_not.mp hhere)
      rw [walk, if_neg (not_not.mpr hdirectory), if_neg hname, if_neg hup, if_neg (by simp),
        if_neg hlong, hmade, hself]
      simp only
      rw [walk, hself]
  | case4 links here name rest hhere hname ih =>
      have hdirectory := hstays here (not_not.mp hhere)
      rw [walk, if_neg (not_not.mpr hdirectory), if_pos hname, ih h]
  | case5 links here rest hhere hname ih =>
      have hdirectory := hstays here (not_not.mp hhere)
      rw [walk, if_neg (not_not.mpr hdirectory), if_neg hname, if_pos rfl, ih h]
  | case11 here name rest hhere hname hup hlast hlong target hlink left ih =>
      have hdirectory := hstays here (not_not.mp hhere)
      have hne := ne_of_walk_link h hlink hplace
      have hlink' : (tree.put location (.file contents)).get? (here ++ [name]) =
          some (.link target) := by
        rw [get?_put_of_ne hne, hlink]
      rw [walk, if_neg (not_not.mpr hdirectory), if_neg hname, if_neg hup, if_neg (by simp),
        if_neg hlong, hlink']
      exact ih h
  | case12 links here name rest hhere hname hup hlast hlong next hnext hget ih =>
      have hdirectory := hstays here (not_not.mp hhere)
      have hnode : ∃ node, (tree.put location (.file contents)).get? (here ++ [name]) = some node ∧
          ∀ target, node ≠ .link target := by
        by_cases heq : here ++ [name] = location
        · rw [heq, hself]
          exact ⟨_, rfl, by simp⟩
        · rw [get?_put_of_ne heq, hget]
          exact ⟨next, rfl, hnext⟩
      obtain ⟨node, hnode, hlink⟩ := hnode
      rw [walk, if_neg (not_not.mpr hdirectory), if_neg hname, if_neg hup, if_neg (by simp),
        if_neg hlong, hnode]
      cases node with
      | link target => exact absurd rfl (hlink target)
      | directory => exact ih h
      | file contents => exact ih h
      | program name => exact ih h
  | case2 | case3 | case6 | case7 | case9 | case10 => cases h

/-- The location at which a file written at a path is put. -/
def target? (tree : FileTree) (here : Location) (path : Text) : Option Location :=
  match tree.resolveWhole true here path with
  | .error _ | .ok (.occupied _ .directory) => none
  | .ok (.occupied location _) | .ok (.vacant location) => some location

theorem target?_eq_some_iff {path : Text} :
    tree.target? here path = some location ↔
      ∃ place, tree.resolveWhole true here path = .ok place ∧ place.TakesFile location := by
  unfold target? Place.TakesFile
  cases tree.resolveWhole true here path with
  | error error => simp
  | ok place =>
      cases place with
      | vacant location' => simp
      | occupied location' node => cases node <;> simp

theorem write_eq_ok_iff {tree' : FileTree} {path : Text} {contents : Bytes} :
    tree.write here path contents = .ok tree' ↔
      ∃ location, tree.target? here path = some location ∧
        tree' = tree.put location (.file contents) := by
  unfold write target?
  cases tree.resolveWhole true here path with
  | error error => simp
  | ok place =>
      cases place with
      | vacant location' => simp [eq_comm]
      | occupied location' node => cases node <;> simp [eq_comm]

/-- **What was written is read.** -/
theorem read_write {tree' : FileTree} {path : Text} {contents : Bytes}
    (h : tree.write here path contents = .ok tree') : tree'.read here path = .ok contents := by
  obtain ⟨location, htarget, rfl⟩ := write_eq_ok_iff.mp h
  obtain ⟨place, hresolve, hplace⟩ := target?_eq_some_iff.mp htarget
  have hread : (tree.put location (.file contents)).resolveWhole false here path =
      .ok (.occupied location (.file contents)) := by
    unfold resolveWhole resolve at hresolve ⊢
    split at hresolve
    · cases hresolve
    rename_i hshort
    rw [if_neg hshort]
    split at hresolve
    · cases hresolve
    rename_i hne
    rw [if_neg hne]
    split at hresolve
    · cases hresolve
    rename_i hnul
    rw [if_neg hnul]
    exact walk_put hresolve hplace contents
  unfold read
  rw [hread]

end FileTree

end HaxePrompt
