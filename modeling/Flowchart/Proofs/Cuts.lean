import Flowchart.Proofs.Grammar

/-!
# Least cuts, part by part

A least cut is built from the left, one part at a time (`IsLeastCut.cons`): the chunk of the first
part must beat every other chunk that part accepts and after which the rest of the line still
has a cut. Three kinds of part settle that from the chunk alone:

* a token has one chunk (`IsLeastCut.token`);
* a run of blanks or brackets wins when it is the whole run, that is when the rest does not go
  on with a character of the run (`IsLeastCut.greedy`);
* free text wins when the rest after every shorter chunk has no cut (`IsLeastCut.lazy`).

In the other direction, a cut of a list of parts splits along the list (`IsCut.append_inv`), and
the parts of a declared endpoint and of an arrow leave their marks on the line (`IsCut.eq_dash`,
`IsCut.eq_token`).
-/

namespace Flowchart

instance Part.decidableAccepts : (p : Part) → DecidablePred p.Accepts
  | .blanks => fun w => List.decidableBAll (fun c => Text.isBlank c = true) w
  | .token t => fun w => inferInstanceAs (Decidable (w = t))
  | .text => fun w => inferInstanceAs (Decidable (w ≠ [] ∧ '\n' ∉ w))
  | .openers => fun w =>
    @instDecidableAnd _ _ _ (List.decidableBAll (fun c => Piece.isOpener c = true) w)
  | .closers => fun w =>
    @instDecidableAnd _ _ _ (List.decidableBAll (fun c => Piece.isCloser c = true) w)

example : Part.openers.Accepts "[(".toList ∧ ¬ Part.closers.Accepts "])x".toList := by decide

variable {p : Part} {ps qs : List Part} {w rest cs : List Char} {ws : List (List Char)}

namespace IsCut

theorem cons_inv (h : IsCut (p :: ps) cs ws) :
    ∃ w rest ws', cs = w ++ rest ∧ ws = w :: ws' ∧ p.Accepts w ∧ IsCut ps rest ws' := by
  cases h with
  | cons hw hrest => exact ⟨_, _, _, rfl, rfl, hw, hrest⟩

theorem append_inv (h : IsCut (ps ++ qs) cs ws) :
    ∃ cs₁ cs₂ ws₁ ws₂, cs = cs₁ ++ cs₂ ∧ IsCut ps cs₁ ws₁ ∧ IsCut qs cs₂ ws₂ := by
  induction ps generalizing cs ws with
  | nil => exact ⟨[], cs, [], ws, rfl, .nil, h⟩
  | cons p ps ih =>
      rw [List.cons_append] at h
      cases h with
      | cons hw hrest =>
          rename_i w rest ws
          obtain ⟨cs₁, cs₂, ws₁, ws₂, rfl, h₁, h₂⟩ := ih hrest
          exact ⟨w ++ cs₁, cs₂, w :: ws₁, ws₂, (List.append_assoc _ _ _).symm, .cons hw h₁, h₂⟩

theorem eq_token {t : List Char} (h : IsCut (.blanks :: .token t :: ps) cs ws) :
    ∃ b rest, cs = b ++ t ++ rest ∧ (∀ c ∈ b, Text.isBlank c) ∧ ∃ ws', IsCut ps rest ws' := by
  cases h with
  | cons hb h =>
      cases h with
      | cons ht h =>
          cases ht
          exact ⟨_, _, (List.append_assoc _ _ _).symm, hb, _, h⟩

theorem eq_dash (h : IsCut (Form.shapedParts ++ ps) cs ws) :
    ∃ b v o z, cs = b ++ '-' :: (v ++ o :: z) ∧ (∀ c ∈ b, Text.isBlank c) ∧
      (∀ c ∈ v, Text.isBlank c) ∧ Piece.isOpener o := by
  simp only [Form.shapedParts, List.cons_append] at h
  obtain ⟨b, _, _, rfl, -, hb, h⟩ := cons_inv h
  obtain ⟨d, _, _, rfl, -, hd, h⟩ := cons_inv h
  obtain ⟨v, _, _, rfl, -, hv, h⟩ := cons_inv h
  obtain ⟨os, rest, _, rfl, -, ⟨hne, hos⟩, -⟩ := cons_inv h
  obtain rfl : d = ['-'] := hd
  obtain ⟨o, os', rfl⟩ := List.exists_cons_of_ne_nil hne
  exact ⟨b, v, o, os' ++ rest, by simp, hb, hv, hos o (by simp)⟩

theorem blank_of_blanks (h : IsCut [.blanks] cs ws) : ∀ c ∈ cs, Text.isBlank c := by
  obtain ⟨b, rest, _, rfl, -, hb, h⟩ := cons_inv h
  cases h
  intro c hc
  exact hb c (by simpa using hc)

end IsCut

/-! ## Building a least cut from the left -/

theorem IsLeastCut.nil : IsLeastCut [] [] [] :=
  ⟨.nil, fun ws h => by cases h; exact .inl rfl⟩

/-- A least cut of the rest, after a chunk that beats every other chunk of its part that leaves
a rest with a cut, is a least cut. -/
theorem IsLeastCut.cons (hw : p.Accepts w) (hrest : IsLeastCut ps rest ws)
    (hother : ∀ w' rest' ws', w' ++ rest' = w ++ rest → p.Accepts w' → IsCut ps rest' ws' →
      w' = w ∨ p.Prefers w.length w'.length) :
    IsLeastCut (p :: ps) (w ++ rest) (w :: ws) := by
  refine ⟨.cons hw hrest.1, fun ws' hcut => ?_⟩
  generalize hcs : w ++ rest = cs at hcut
  cases hcut with
  | cons hw' hrest' =>
      rename_i w' rest' ws''
      rcases hother w' rest' ws'' hcs.symm hw' hrest' with rfl | hpref
      · obtain rfl := List.append_cancel_left hcs
        rcases hrest.2 ws'' hrest' with rfl | hprec
        · exact .inl rfl
        · exact .inr (.later hprec)
      · exact .inr (.here hpref)

theorem IsLeastCut.token (t : List Char) (hrest : IsLeastCut ps rest ws) :
    IsLeastCut (.token t :: ps) (t ++ rest) (t :: ws) :=
  IsLeastCut.cons rfl hrest fun _ _ _ _ ht _ => .inl ht

theorem prefix_of_run {q : Char → Bool} {w' rest' : List Char} (hw' : ∀ c ∈ w', q c = true)
    (hend : ∀ c ∈ rest.head?, q c = false) (h : w' ++ rest' = w ++ rest) : w' <+: w := by
  rcases List.append_eq_append_iff.mp h with ⟨a, rfl, -⟩ | ⟨b, rfl, hrest⟩
  · exact List.prefix_append _ _
  · cases b with
    | nil => simp
    | cons c b =>
        have hc := hend c (by simp [hrest])
        rw [hw' c (by simp)] at hc
        cases hc

theorem IsLeastCut.greedy (q : Char → Bool) (htext : p ≠ .text)
    (hq : ∀ w, p.Accepts w → ∀ c ∈ w, q c = true) (hw : p.Accepts w)
    (hend : ∀ c ∈ rest.head?, q c = false) (hrest : IsLeastCut ps rest ws) :
    IsLeastCut (p :: ps) (w ++ rest) (w :: ws) := by
  refine IsLeastCut.cons hw hrest fun w' rest' _ h hw' _ => ?_
  have hpre := prefix_of_run (hq w' hw') hend h
  rcases Nat.lt_or_ge w'.length w.length with hlt | hge
  · right
    cases p <;> first | exact absurd rfl htext | exact hlt
  · exact .inl (hpre.eq_of_length (Nat.le_antisymm hpre.length_le hge))

theorem IsLeastCut.lazy (hw : Part.text.Accepts w)
    (hshort : ∀ u v, w = u ++ v → u ≠ [] → v ≠ [] → ∀ ws', ¬ IsCut ps (v ++ rest) ws')
    (hrest : IsLeastCut ps rest ws) : IsLeastCut (.text :: ps) (w ++ rest) (w :: ws) := by
  refine IsLeastCut.cons hw hrest fun w' rest' ws' h hw' hcut => ?_
  rcases List.append_eq_append_iff.mp h with ⟨a, rfl, rfl⟩ | ⟨b, rfl, hrest'⟩
  · cases a with
    | nil => simp
    | cons c a => exact absurd hcut (hshort w' (c :: a) rfl hw'.1 (by simp) ws')
  · cases b with
    | nil => simp
    | cons c b =>
        right
        show w.length < (w ++ c :: b).length
        simp

end Flowchart
