import HaxePrompt.Assembly.Delta
import HaxePrompt.Proofs.Assembly.Layout

/-! # The pieces of a compiled output

Every output is fragments with tokens between them, in exactly one way (`existsUnique_fragments`):
a token ends with a line feed and holds no other one, so two tokens do not overlap, and none
arises where a fragment and a token meet, whatever parts of a token the fragment begins or ends
with.  What is extracted is therefore known by the fragments (`extract_join`): the first, the
last and, for statements, the last but one, and it is a fault if there are too few of them. -/

namespace HaxePrompt

namespace Marker

theorem token_ne_nil : token ≠ [] := by decide

/-- An output falls into fragments in exactly one way. -/
theorem existsUnique_fragments (output : Text) :
    ∃! fragments, fragments ≠ [] ∧ (∀ f ∈ fragments, ¬ token <:+: f) ∧
      Text.join token fragments = output := by
  have hpieces : ∀ f ∈ Text.split token output, ¬ token <:+: f := fun f hf =>
    Text.not_infix_of_mem_split token_ne_nil hf
  refine ⟨Text.split token output,
    ⟨Text.split_ne_nil token output, hpieces, Text.join_split token_ne_nil output⟩, ?_⟩
  rintro fragments ⟨hne, hfree, rfl⟩
  rw [Text.split_join token_ne_nil unbordered_token hne hfree]

end Marker

namespace Delta

/-! ### What is kept of the pieces -/

theorem ofPieces_imports (prologue epilogue : Text) (pieces : List Text) :
    ofPieces .imports (prologue :: (pieces ++ [epilogue])) =
      .ok (prologue ++ epilogue ++ noValue) := by
  cases pieces with
  | nil => rfl
  | cons piece pieces =>
      unfold ofPieces
      simp

theorem ofPieces_statements (prologue newest epilogue : Text) (pieces : List Text) :
    ofPieces .statements (prologue :: (pieces ++ [newest] ++ [epilogue])) =
      .ok (prologue ++ epilogue ++ noValue ++ newest) := by
  cases pieces with
  | nil => rfl
  | cons piece pieces =>
      have hends : piece :: (pieces ++ [newest, epilogue]) =
          piece :: pieces ++ [newest] ++ [epilogue] := by simp
      have hnewest : (piece :: (pieces ++ [newest, epilogue])).dropLast.getLast? =
          some newest := by
        rw [hends, List.dropLast_concat, List.getLast?_concat]
      unfold ofPieces
      simp [hnewest]

theorem ofPieces_of_length_one {pieces : List Text} (h : pieces.length = 1) (part : Part) :
    ofPieces part pieces = .error .noMarkers := by
  obtain ⟨piece, rfl⟩ := List.length_eq_one_iff.mp h
  rfl

theorem ofPieces_of_length_two {pieces : List Text} (h : pieces.length = 2) :
    ofPieces .statements pieces = .error .noStatement := by
  obtain ⟨prologue, epilogue, rfl⟩ := List.length_eq_two.mp h
  rfl

theorem exists_ends {pieces : List Text} (h : 2 ≤ pieces.length) :
    ∃ prologue middle epilogue, pieces = prologue :: (middle ++ [epilogue]) := by
  obtain ⟨prologue, rest, rfl⟩ := List.exists_cons_of_length_pos (by omega : 0 < pieces.length)
  rcases List.eq_nil_or_concat rest with rfl | ⟨middle, epilogue, rfl⟩
  · simp at h
  · exact ⟨prologue, middle, epilogue, by rw [List.concat_eq_append]⟩

theorem exists_newest {pieces : List Text} (h : 3 ≤ pieces.length) :
    ∃ prologue middle newest epilogue,
      pieces = prologue :: (middle ++ [newest] ++ [epilogue]) := by
  obtain ⟨prologue, before, epilogue, rfl⟩ := exists_ends (by omega : 2 ≤ pieces.length)
  rcases List.eq_nil_or_concat before with rfl | ⟨middle, newest, rfl⟩
  · simp at h
  · exact ⟨prologue, middle, newest, epilogue, by rw [List.concat_eq_append]⟩

/-- **Extraction undoes the joining of fragments.**  The output of the fragments `0` to `k` is cut
where they were joined.  One fragment is a fault, and two are one for a statement; otherwise the
first and the last are kept, and for a statement the last but one. -/
theorem extract_join {fragments : List Text} {k : Nat} (hk : fragments.length = k + 1)
    (hfree : ∀ f ∈ fragments, ¬ Marker.token <:+: f) :
    let output := Text.join Marker.token fragments
    Text.split Marker.token output = fragments ∧
      (k = 0 → ∀ part, ∃ fault, extract part output = .error fault ∧ fault.kind = .extract) ∧
      (1 ≤ k → extract .imports output = .ok (fragments[0] ++ fragments[k] ++ noValue)) ∧
      (k = 1 → ∃ fault, extract .statements output = .error fault ∧ fault.kind = .extract) ∧
      (2 ≤ k → extract .statements output =
        .ok (fragments[0] ++ fragments[k] ++ noValue ++ fragments[k - 1])) := by
  intro output
  have hne : fragments ≠ [] := by
    rintro rfl
    simp at hk
  have hsplit : Text.split Marker.token output = fragments :=
    Text.split_join Marker.token_ne_nil Marker.unbordered_token hne hfree
  have hextract : ∀ part, extract part output = ofPieces part fragments := by
    intro part
    rw [extract, hsplit]
  refine ⟨hsplit, ?_, ?_, ?_, ?_⟩
  · intro h part
    refine ⟨.noMarkers, ?_, rfl⟩
    rw [hextract, ofPieces_of_length_one (by omega)]
  · intro h
    obtain ⟨prologue, middle, epilogue, rfl⟩ := exists_ends (by omega : 2 ≤ fragments.length)
    have hlast : k = middle.length + 1 := by simpa using hk.symm
    subst hlast
    rw [hextract, ofPieces_imports]
    simp
  · intro h
    refine ⟨.noStatement, ?_, rfl⟩
    rw [hextract, ofPieces_of_length_two (by omega)]
  · intro h
    obtain ⟨prologue, middle, newest, epilogue, rfl⟩ :=
      exists_newest (by omega : 3 ≤ fragments.length)
    have hlast : k = middle.length + 2 := by simpa using hk.symm
    subst hlast
    rw [hextract, ofPieces_statements]
    simp

/-- Fragments that begin and end with parts of a token. -/
def partsOfTokens : List Text :=
  ["p\"<__hxrepl", "_turn__>\";\n", "a;\"", "<__hxrepl_turn__>\";\ne"]

/-- The fragments are told apart although parts of tokens stand around each token. -/
theorem extract_join_partsOfTokens :
    partsOfTokens.length = 3 + 1 ∧ (∀ f ∈ partsOfTokens, ¬ Marker.token <:+: f) ∧ 2 ≤ 3 ∧
      extract .statements (Text.join Marker.token partsOfTokens) =
        .ok (("p\"<__hxrepl" : Text) ++ "<__hxrepl_turn__>\";\ne" ++ noValue ++ "a;\"") := by
  have hfree : ∀ f ∈ partsOfTokens, ¬ Marker.token <:+: f := by decide
  obtain ⟨-, -, -, -, hstatements⟩ := extract_join (k := 3) rfl hfree
  exact ⟨rfl, hfree, by decide, hstatements (by decide)⟩

end Delta

end HaxePrompt
