import Flowchart.Proofs.Grammar

/-!
# The matcher finds the least cut

`Piece.split?` walks the pieces of a form from the left, trying the chunks of each piece best
first and going back to the next chunk when the rest of the line has no cut. Its answer is the
least cut of the grammar (`split?_least`), and it has one whenever the grammar has a cut at all
(`split?_isSome`).

A piece that takes a whole run (`allBlanks`, `closers`) offers a single chunk where the grammar's
part offers every shorter one as well. The shorter ones leave a character of the run in front of
the next part, so when no part after it can begin with that character (`WellPlaced`) they lead to
no cut, and nothing is lost. All three statement forms are so placed; the main result is
`ofLine?_eq_iff_reads`.
-/

namespace Flowchart

namespace Piece

def toPart : Piece → Part
  | blanks | allBlanks => .blanks
  | token t => .token t
  | text => .text
  | openers => .openers
  | closers => .closers

/-- The lengths of the chunks a piece tries at the front of `cs`, best first. -/
def choices (cs : List Char) : Piece → List Nat
  | blanks => (List.range ((cs.takeWhile Text.isBlank).length + 1)).reverse
  | allBlanks => [(cs.takeWhile Text.isBlank).length]
  | token t => if t.isPrefixOf cs then [t.length] else []
  | text => (List.range (cs.takeWhile (· != '\n')).length).map (· + 1)
  | openers => ((List.range (cs.takeWhile isOpener).length).map (· + 1)).reverse
  | closers =>
    if (cs.takeWhile isCloser).length = 0 then [] else [(cs.takeWhile isCloser).length]

def wholeRun? : Piece → Option (Char → Bool)
  | allBlanks => some Text.isBlank
  | closers => some isCloser
  | blanks | token _ | text | openers => none

/-! ## The order of the search -/

theorem spanWhile_eq (p : Char → Bool) (n : Nat) (cs : List Char) :
    spanWhile p n cs = (n + (cs.takeWhile p).length, cs.drop (cs.takeWhile p).length) := by
  induction cs generalizing n with
  | nil => rfl
  | cons c cs ih =>
      by_cases hc : p c
      · simp only [spanWhile, hc, if_true, ih, List.takeWhile_cons_of_pos hc, List.length_cons,
          List.drop_succ_cons]
        congr 1
        omega
      · simp [spanWhile, hc, List.takeWhile_cons_of_neg hc]

private theorem findSome?_range_succ_reverse (n : Nat) (f : Nat → Option α) :
    (List.range (n + 1)).reverse.findSome? f =
      ((List.range n).reverse.findSome? fun k => f (k + 1)).or (f 0) := by
  rw [List.range_succ_eq_map, List.reverse_cons, List.findSome?_append, ← List.map_reverse,
    List.findSome?_map]
  simp [Function.comp_def]

private theorem findSome?_range_succ (n : Nat) (f : Nat → Option α) :
    (List.range (n + 1)).findSome? f =
      (f 0).or ((List.range n).findSome? fun k => f (k + 1)) := by
  rw [List.range_succ_eq_map, List.findSome?_cons, List.findSome?_map]
  cases f 0 <;> rfl

theorem longestFirst_eq (p : Char → Bool) (attempt : Nat → List Char → Option α) (i : Nat)
    (cs : List Char) :
    longestFirst p attempt i cs =
      (List.range ((cs.takeWhile p).length + 1)).reverse.findSome?
        fun k => attempt (k + i) (cs.drop k) := by
  induction cs generalizing i with
  | nil => simp [longestFirst]
  | cons c cs ih =>
      by_cases hc : p c
      · have hshift : (fun k => attempt (k + (i + 1)) (cs.drop k)) =
            fun k => attempt (k + 1 + i) (cs.drop k) := by
          funext k
          congr 1
          omega
        rw [longestFirst, if_pos hc, ih, hshift, List.takeWhile_cons_of_pos hc,
          List.length_cons, findSome?_range_succ_reverse ((cs.takeWhile p).length + 1)]
        simp only [List.drop_succ_cons, List.drop_zero, Nat.zero_add]
        split <;> rename_i hfind <;> simp only [hfind, Option.some_or, Option.none_or]
      · simp [longestFirst, hc, List.takeWhile_cons_of_neg hc]

theorem shortestFirst_eq (p : Char → Bool) (attempt : Nat → List Char → Option α) (i : Nat)
    (cs : List Char) :
    shortestFirst p attempt i cs =
      (List.range ((cs.takeWhile p).length + 1)).findSome?
        fun k => attempt (k + i) (cs.drop k) := by
  induction cs generalizing i with
  | nil => simp [shortestFirst]
  | cons c cs ih =>
      rw [shortestFirst, findSome?_range_succ]
      by_cases hc : p c
      · have hshift : (fun k => attempt (k + (i + 1)) (cs.drop k)) =
            fun k => attempt (k + 1 + i) (cs.drop k) := by
          funext k
          congr 1
          omega
        rw [if_pos hc, ih, hshift, List.takeWhile_cons_of_pos hc, List.length_cons]
        simp only [List.drop_succ_cons, List.drop_zero, Nat.zero_add]
        split <;> rename_i hfind <;> simp only [hfind, Option.some_or, Option.none_or]
      · rw [if_neg hc, List.takeWhile_cons_of_neg hc]
        split <;> rename_i hfind <;> simp [hfind]

/-- `search` tries the chunks of `choices` in order, and gives the first answer. -/
theorem search_eq_findSome? (attempt : Nat → List Char → Option α) (cs : List Char)
    (p : Piece) :
    p.search attempt cs = (p.choices cs).findSome? fun n => attempt n (cs.drop n) := by
  cases p with
  | blanks => simp [search, choices, longestFirst_eq]
  | allBlanks => simp [search, choices, spanWhile_eq]
  | token t => by_cases ht : t.isPrefixOf cs <;> simp [search, choices, ht]
  | text =>
      cases cs with
      | nil => simp [search, choices, nonEmptyRun]
      | cons c cs =>
          by_cases hc : c = '\n'
          · simp [search, choices, nonEmptyRun, hc]
          · simp [search, choices, nonEmptyRun, hc, shortestFirst_eq, List.findSome?_map,
              Function.comp_def]
  | openers =>
      cases cs with
      | nil => simp [search, choices, nonEmptyRun]
      | cons c cs =>
          by_cases hc : isOpener c
          · simp [search, choices, nonEmptyRun, hc, longestFirst_eq, ← List.map_reverse,
              List.findSome?_map, Function.comp_def]
          · simp [search, choices, nonEmptyRun, hc]
  | closers =>
      simp only [search, choices, spanWhile_eq, Nat.zero_add]
      split <;> simp

/-! ## The chunks a piece tries -/

private theorem all_take_of_le_takeWhile {q : Char → Bool} {cs : List Char} {n : Nat}
    (hn : n ≤ (cs.takeWhile q).length) : ∀ c ∈ cs.take n, q c = true := by
  intro c hc
  have hpre : cs.takeWhile q = cs.take (cs.takeWhile q).length :=
    List.prefix_iff_eq_take.mp (List.takeWhile_prefix q)
  have htake : cs.take n = (cs.takeWhile q).take n := by
    rw [hpre, List.take_take, Nat.min_eq_left hn]
  rw [htake] at hc
  exact List.all_eq_true.mp List.all_takeWhile c (List.mem_of_mem_take hc)

private theorem length_le_takeWhile_append {q : Char → Bool} {w : List Char} (rest : List Char)
    (hw : ∀ c ∈ w, q c = true) : w.length ≤ ((w ++ rest).takeWhile q).length := by
  rw [List.takeWhile_append_of_pos hw, List.length_append]
  omega

private theorem length_takeWhile_append {q : Char → Bool} {w rest : List Char}
    (hw : ∀ c ∈ w, q c = true) (hend : ∀ c ∈ rest.head?, q c = false) :
    ((w ++ rest).takeWhile q).length = w.length := by
  rw [List.takeWhile_append_of_pos hw]
  cases rest with
  | nil => simp
  | cons d ds => simp [List.takeWhile_cons_of_neg (by simpa using hend d rfl)]

theorem choices_sound {p : Piece} {cs : List Char} {n : Nat} (hn : n ∈ p.choices cs) :
    n ≤ cs.length ∧ p.toPart.Accepts (cs.take n) := by
  have hrun : ∀ q : Char → Bool, n ≤ (cs.takeWhile q).length → n ≤ cs.length :=
    fun q h => Nat.le_trans h (List.takeWhile_prefix q).length_le
  cases p with
  | blanks =>
      simp only [choices, List.mem_reverse, List.mem_range] at hn
      exact ⟨hrun Text.isBlank (by omega), all_take_of_le_takeWhile (by omega)⟩
  | allBlanks =>
      simp only [choices, List.mem_singleton] at hn
      exact ⟨hrun Text.isBlank (Nat.le_of_eq hn), all_take_of_le_takeWhile (Nat.le_of_eq hn)⟩
  | token t =>
      simp only [choices] at hn
      split at hn
      · rename_i hpre
        obtain rfl := List.mem_singleton.mp hn
        have hpre : t <+: cs := List.isPrefixOf_iff_prefix.mp hpre
        exact ⟨hpre.length_le, (List.prefix_iff_eq_take.mp hpre).symm⟩
      · simp at hn
  | text =>
      simp only [choices, List.mem_map, List.mem_range] at hn
      obtain ⟨k, hk, rfl⟩ := hn
      have hk' : k + 1 ≤ (cs.takeWhile (· != '\n')).length := by omega
      have hall := all_take_of_le_takeWhile hk'
      have hlen := hrun (· != '\n') hk'
      refine ⟨hlen, List.ne_nil_of_length_pos ?_, fun hnl => by simpa using hall _ hnl⟩
      rw [List.length_take]
      omega
  | openers =>
      simp only [choices, List.mem_reverse, List.mem_map, List.mem_range] at hn
      obtain ⟨k, hk, rfl⟩ := hn
      have hk' : k + 1 ≤ (cs.takeWhile isOpener).length := by omega
      have hlen := hrun isOpener hk'
      refine ⟨hlen, List.ne_nil_of_length_pos ?_, all_take_of_le_takeWhile hk'⟩
      rw [List.length_take]
      omega
  | closers =>
      simp only [choices] at hn
      split at hn
      · simp at hn
      · rename_i hpos
        obtain rfl := List.mem_singleton.mp hn
        have hlen := hrun isCloser (Nat.le_refl _)
        refine ⟨hlen, List.ne_nil_of_length_pos ?_, all_take_of_le_takeWhile (Nat.le_refl _)⟩
        rw [List.length_take]
        omega

theorem choices_complete {p : Piece} {w rest : List Char} (hw : p.toPart.Accepts w)
    (hend : ∀ q ∈ p.wholeRun?, ∀ c ∈ rest.head?, q c = false) :
    w.length ∈ p.choices (w ++ rest) := by
  cases p with
  | blanks =>
      have := length_le_takeWhile_append rest hw
      simp only [choices, List.mem_reverse, List.mem_range]
      omega
  | allBlanks =>
      simp [choices, length_takeWhile_append hw (hend _ rfl)]
  | token t =>
      obtain rfl : w = t := hw
      simp [choices]
  | text =>
      obtain ⟨hne, hnl⟩ := hw
      have hall : ∀ c ∈ w, (c != '\n') = true := fun c hc => by
        simpa using fun h : c = '\n' => hnl (h ▸ hc)
      have := length_le_takeWhile_append rest hall
      have hpos := List.length_pos_iff.mpr hne
      simp only [choices, List.mem_map, List.mem_range]
      exact ⟨w.length - 1, by omega, by omega⟩
  | openers =>
      have := length_le_takeWhile_append rest hw.2
      have hpos := List.length_pos_iff.mpr hw.1
      simp only [choices, List.mem_reverse, List.mem_map, List.mem_range]
      exact ⟨w.length - 1, by omega, by omega⟩
  | closers =>
      have hlen := length_takeWhile_append hw.2 (hend _ rfl)
      have hpos := List.length_pos_iff.mpr hw.1
      simp only [choices, hlen]
      rw [if_neg (by omega)]
      exact List.mem_singleton_self _

theorem choices_pairwise (p : Piece) (cs : List Char) :
    (p.choices cs).Pairwise p.toPart.Prefers := by
  cases p with
  | blanks =>
      simpa [choices, toPart, Part.Prefers, List.pairwise_reverse] using List.pairwise_lt_range
  | allBlanks => simp [choices]
  | token t => by_cases ht : t.isPrefixOf cs <;> simp [choices, ht]
  | text =>
      simpa [choices, toPart, Part.Prefers, List.pairwise_map] using List.pairwise_lt_range
  | openers =>
      simpa [choices, toPart, Part.Prefers, List.pairwise_reverse, List.pairwise_map] using
        List.pairwise_lt_range
  | closers =>
      simp only [choices]
      split <;> simp

private theorem prefers_of_choices_eq {p : Piece} {cs : List Char} {l₁ l₂ : List Nat} {n m : Nat}
    (hsplit : p.choices cs = l₁ ++ n :: l₂) (hm : m ∈ l₂) : p.toPart.Prefers n m := by
  have hpw := choices_pairwise p cs
  rw [hsplit, List.pairwise_append, List.pairwise_cons] at hpw
  exact hpw.2.1.1 m hm

/-! ## Cutting a line -/

/-- Every piece that takes a whole run is followed by parts that cannot begin with a character
of the run. -/
def WellPlaced : List Piece → Prop
  | [] => True
  | p :: ps =>
    (∀ q ∈ p.wholeRun?, ∀ c, q c = true → Part.canBegin c (ps.map toPart) = false) ∧
      WellPlaced ps

private theorem runEnds {p : Piece} {ps : List Piece} (hps : WellPlaced (p :: ps))
    {rest : List Char} {ws : List (List Char)} (h : IsCut (ps.map toPart) rest ws) :
    ∀ q ∈ p.wholeRun?, ∀ c ∈ rest.head?, q c = false := by
  intro q hq c hc
  cases rest with
  | nil => cases hc
  | cons d rest =>
      obtain rfl : d = c := Option.some.inj hc
      cases hqc : q d with
      | false => rfl
      | true =>
          have hbegin := h.canBegin
          rw [hps.1 q hq d hqc] at hbegin
          cases hbegin

/-- The search finds a cut whenever the grammar has one. -/
theorem split?_isSome {ps : List Piece} (hps : WellPlaced ps) {cs : List Char}
    {ws : List (List Char)} (h : IsCut (ps.map toPart) cs ws) : (split? ps cs).isSome := by
  induction ps generalizing cs ws with
  | nil =>
      cases h
      rfl
  | cons p ps ih =>
      cases h with
      | cons hw hrest =>
          rename_i w rest ws
          rw [split?, search_eq_findSome?, Option.isSome_iff_ne_none, Ne,
            List.findSome?_eq_none_iff]
          intro hnone
          have hchoice := hnone _ (choices_complete hw (runEnds hps hrest))
          rw [List.drop_left, Option.map_eq_none_iff] at hchoice
          have hsome := ih hps.2 hrest
          rw [hchoice] at hsome
          simp at hsome

/-- The search finds the least cut of the grammar. -/
theorem split?_least {ps : List Piece} (hps : WellPlaced ps) {cs : List Char} {ns : List Nat}
    (h : split? ps cs = some ns) : IsLeastCut (ps.map toPart) cs (chunks ns cs) := by
  induction ps generalizing cs ns with
  | nil =>
      simp only [split?, List.isEmpty_iff] at h
      split at h
      · rename_i hcs
        cases h
        subst hcs
        exact ⟨.nil, fun ws hws => by cases hws; exact .inl rfl⟩
      · cases h
  | cons p ps ih =>
      rw [split?, search_eq_findSome?, List.findSome?_eq_some_iff] at h
      obtain ⟨l₁, n, l₂, hsplit, hn, hbefore⟩ := h
      obtain ⟨ns', hns', rfl⟩ := Option.map_eq_some_iff.mp hn
      obtain ⟨hlen, hacc⟩ := choices_sound (hsplit ▸ List.mem_append_right l₁ (List.mem_cons_self))
      have hleast := ih hps.2 hns'
      have hcut : IsCut ((p :: ps).map toPart) cs (chunks (n :: ns') cs) := by
        have := IsCut.cons hacc hleast.1
        rwa [List.take_append_drop] at this
      refine ⟨hcut, fun ws' hcut' => ?_⟩
      cases hcut' with
      | cons hw' hrest' =>
          rename_i w' rest' ws''
          have hmem := choices_complete hw' (runEnds hps hrest')
          have hsome := split?_isSome hps.2 hrest'
          rw [hsplit] at hmem
          rcases List.mem_append.mp hmem with hfirst | hin
          · have hfail := hbefore _ hfirst
            rw [List.drop_left, Option.map_eq_none_iff] at hfail
            simp [hfail] at hsome
          · rcases List.mem_cons.mp hin with heq | hlater
            · subst heq
              simp only [chunks, List.take_left, List.drop_left] at hleast ⊢
              rcases hleast.2 ws'' hrest' with rfl | hprec
              · exact .inl rfl
              · exact .inr (.later hprec)
            · right
              apply Precedes.here
              rw [List.length_take, Nat.min_eq_left hlen]
              exact prefers_of_choices_eq hsplit hlater

theorem kept_eq_keptChunks (ps : List Piece) (ws : List (List Char)) :
    kept ps ws = keptChunks (ps.map toPart) ws := by
  induction ps generalizing ws with
  | nil => rfl
  | cons p ps ih =>
      cases ws with
      | nil => rfl
      | cons w ws =>
          have hkeeps : p.keeps = p.toPart.keeps := by cases p <;> rfl
          simp only [kept, keptChunks, List.map_cons, List.zip_cons_cons, List.filterMap_cons,
            hkeeps] at ih ⊢
          rw [ih]

end Piece

namespace Form

theorem pieces_map_toPart (f : Form) : f.pieces.map Piece.toPart = f.parts := by
  cases f <;> rfl

theorem wellPlaced (f : Form) : Piece.WellPlaced f.pieces := by
  have dash : ∀ c, Text.isBlank c = true → c ≠ '-' := by
    rintro c hc rfl
    revert hc
    decide
  have arrow : ∀ c, Text.isBlank c = true → c ≠ '<' := by
    rintro c hc rfl
    revert hc
    decide
  have opener : ∀ c, Text.isBlank c = true → Piece.isOpener c = false := by
    intro c hc
    cases ho : Piece.isOpener c with
    | false => rfl
    | true =>
        simp only [Piece.isOpener, Bool.or_eq_true, beq_iff_eq] at ho
        rcases ho with rfl | rfl <;> revert hc <;> decide
  have closer : ∀ c, Piece.isCloser c = true → Text.isBlank c = false ∧ c ≠ '-' ∧ c ≠ '<' := by
    intro c hc
    simp only [Piece.isCloser, Bool.or_eq_true, beq_iff_eq] at hc
    rcases hc with rfl | rfl <;> decide
  cases f <;>
    simp [Piece.WellPlaced, pieces, declaration, Piece.wholeRun?, Piece.toPart, Part.canBegin]
  · exact ⟨dash, opener, fun c hc => ⟨(closer c hc).1, (closer c hc).2.1⟩, dash, opener⟩
  · exact ⟨dash, opener⟩
  · exact ⟨dash, opener, fun c hc => ⟨(closer c hc).1, (closer c hc).2.2⟩, arrow⟩

end Form

namespace Statement

private theorem reads_findSome? (fs : List Form) (cs : List Char) :
    Reads fs cs ((fs.findSome? fun f =>
        (Piece.split? f.pieces cs).map fun ns => (f, Piece.chunks ns cs)).bind
      fun (f, ws) => (f.statement? (Piece.kept f.pieces ws)).filter hasIds) := by
  induction fs with
  | nil => exact .none
  | cons f fs ih =>
      rw [List.findSome?_cons]
      cases hsplit : Piece.split? f.pieces cs with
      | none =>
          refine .next (fun ws hws => ?_) ih
          rw [← Form.pieces_map_toPart] at hws
          have hsome := Piece.split?_isSome (Form.wellPlaced f) hws
          rw [hsplit] at hsome
          cases hsome
      | some ns =>
          have hleast := Piece.split?_least (Form.wellPlaced f) hsplit
          rw [Form.pieces_map_toPart] at hleast
          have hkept : Piece.kept f.pieces (Piece.chunks ns cs) =
              keptChunks f.parts (Piece.chunks ns cs) := by
            rw [Piece.kept_eq_keptChunks, Form.pieces_map_toPart]
          simp only [Option.map_some, Option.bind_some, hkept]
          exact .first hleast

theorem reads_read? (cs : List Char) : Reads Form.all cs (read? cs) := by
  have hread : read? cs = (Form.firstFit? cs).bind
      fun (f, ws) => (f.statement? (Piece.kept f.pieces ws)).filter hasIds := by
    unfold read?
    rcases Form.firstFit? cs with _ | ⟨f, ws⟩ <;> rfl
  rw [hread]
  exact reads_findSome? Form.all cs

/-- A line is read as the grammar reads it: with the first of the full, simple and reverse forms
that has a cut of the whole line, at the least cut of that form, and not at all when that cut
leaves an id blank. -/
theorem ofLine?_eq_iff_reads (line : String) (r : Option Statement) :
    ofLine? line = r ↔ Reads [.full, .simple, .reverse] line.toList r := by
  constructor
  · rintro rfl
    exact reads_read? line.toList
  · intro h
    exact (reads_read? line.toList).unique h

/-- Lazy ids make a line with several arrows split at the first arrow that leaves a full cut. -/
example : (ofLine? "A --> B - [q] --> C - [r]").map (fun s => (s.source.id, s.target.id)) =
    some ("A --> B", "C") := by
  decide

end Statement

end Flowchart
