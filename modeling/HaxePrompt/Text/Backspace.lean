import HaxePrompt.Text.Cluster

/-! # Backspaces

Where keys are not handled while a line is entered, the line holds the backspaces that were
typed.  `applyBackspaces` carries them out: each takes away the cluster before it, if there is
one, and itself.  How much a cluster takes up is remembered as a number of bytes in one byte, so
of a cluster of 256 bytes or more only the remainder is taken away. -/

namespace HaxePrompt.Text

/-- The character that takes away what was typed before it. -/
def backspace : Char := '\x08'

/-- The number of bytes of a text. -/
def byteSize (s : Text) : Nat := s.foldl (fun size c => size + c.utf8Size) 0

/-- A text, newest character first, without its last `n` bytes. -/
def dropBytes : Nat → Text → Text
  | 0, s => s
  | _ + 1, [] => []
  | n + 1, c :: rest => dropBytes (n + 1 - c.utf8Size) rest

/-- Sizes are remembered up to multiples of this number. -/
def sizeLimit : Nat := 256

/-- The text that is left of clusters, from what was kept so far, newest character first, and the
sizes of the clusters that were kept, newest first. -/
def applyFrom (kept : Text) (sizes : List Nat) : List Text → Text
  | [] => kept.reverse
  | cluster :: rest =>
    if cluster = [backspace] then applyFrom (dropBytes (sizes.headD 0) kept) sizes.tail rest
    else applyFrom (cluster.reverse ++ kept) (byteSize cluster % sizeLimit :: sizes) rest

/-- What is left of a line once its backspaces are carried out. -/
def applyBackspaces (line : Text) : Text := applyFrom [] [] (clusters line)

theorem applyFrom_eq_append {pieces : List Text} (h : ∀ piece ∈ pieces, piece ≠ [backspace])
    (kept : Text) (sizes : List Nat) :
    applyFrom kept sizes pieces = kept.reverse ++ pieces.flatten := by
  induction pieces generalizing kept sizes with
  | nil => simp [applyFrom]
  | cons piece rest ih =>
    have hp : piece ≠ [backspace] := h piece (by simp)
    rw [applyFrom, if_neg hp, ih fun other ho => h other (by simp [ho])]
    simp

theorem applyBackspaces_eq_self {line : Text} (h : backspace ∉ line) :
    applyBackspaces line = line := by
  have hne : ∀ piece ∈ clusters line, piece ≠ [backspace] := by
    intro piece hp he
    apply h
    rw [← flatten_clusters line]
    exact List.mem_flatten.mpr ⟨piece, hp, by simp [he]⟩
  rw [applyBackspaces, applyFrom_eq_append hne, flatten_clusters]
  rfl

end HaxePrompt.Text
