import Mathlib
import Flowchart.Proofs.Cuts
import Flowchart.Proofs.Matching

/-!
# Written statements read back

A statement is written in one of three forms, with blanks of any kind around its tokens, blanks
without a line feed before the first id and around the labels, and any run of closing brackets:

    w₀ a w₁ - w₂ p u₁ l₁ u₁' c₁ w₃ --> w₄ b w₅ - w₆ q u₂ l₂ u₂' c₂
    w₀ a w₁ --> w₄ b w₅ - w₆ q u₂ l₂ u₂' c₂
    w₀ b w₁ - w₂ q u₂ l₂ u₂' c₂ w₃ <-- w₄ a w₅

Reading gives back the ids, markers and labels (`Statement.ofLine?_written`) when they can be
written: ids and labels are not empty, have no blank at either end and hold no line feed and no
arrow `-->` (`Text.Writable`); ids do not open a declaration (`Text.OpensDeclaration`), and labels
hold no closing bracket and do not begin with an opening one.

Each rendering is read with its own form. No earlier form has a cut: a cut of the full or the
simple form holds an arrow `-->` with a declaration after it, and the full form a declaration
before it as well, while the renderings hold a single arrow with no declaration before it, or
none with a declaration after it. And the intended cut is the least one: after a shorter chunk
of free text, the rest of the line cannot go on as the form requires.
-/

namespace Flowchart

/-! ## Where a pattern stands in a joined text -/

section Pattern

variable {pat a b d x y : List Char}

theorem not_mem_of_forall {q : Char → Bool} {w : List Char} {c : Char} (hw : ∀ e ∈ w, q e = true)
    (hc : q c = false) : c ∉ w := fun h => by simp [hw c h] at hc

theorem eq_of_append_eq_append (h : x ++ pat ++ y = a ++ b) :
    (∃ a', a = x ++ pat ++ a') ∨ (∃ b', b = b' ++ pat ++ y ∧ x = a ++ b') ∨
      ∃ p₁ p₂, pat = p₁ ++ p₂ ∧ p₁ ≠ [] ∧ p₂ ≠ [] ∧ a = x ++ p₁ ∧ b = p₂ ++ y := by
  rw [List.append_assoc] at h
  rcases List.append_eq_append_iff.mp h with ⟨m, rfl, hm⟩ | ⟨m, rfl, rfl⟩
  · rcases List.append_eq_append_iff.mp hm with ⟨n, rfl, rfl⟩ | ⟨n, rfl, rfl⟩
    · exact .inl ⟨n, by simp⟩
    · cases m with
      | nil => exact .inr (.inl ⟨[], by simp, by simp⟩)
      | cons c m =>
          cases n with
          | nil => exact .inl ⟨[], by simp⟩
          | cons e n => exact .inr (.inr ⟨c :: m, e :: n, rfl, by simp, by simp, rfl, rfl⟩)
  · exact .inr (.inl ⟨m, by simp, rfl⟩)

theorem eq_of_append_eq_append_cons {e : Char} (he : e ∉ pat) (h : x ++ pat ++ y = a ++ e :: b) :
    (∃ a', a = x ++ pat ++ a') ∨ ∃ b', b = b' ++ pat ++ y := by
  rcases eq_of_append_eq_append h with ⟨a', ha⟩ | ⟨b', hb, hx⟩ | ⟨p₁, p₂, rfl, -, hp₂, -, hb⟩
  · exact .inl ⟨a', ha⟩
  · cases b' with
    | nil =>
        cases pat with
        | nil => exact .inl ⟨[], by simp [hx]⟩
        | cons c pat =>
            obtain ⟨rfl, -⟩ := List.cons.inj hb
            exact absurd (by simp) he
    | cons c b' =>
        obtain ⟨rfl, rfl⟩ := List.cons.inj hb
        exact .inr ⟨b', rfl⟩
  · obtain ⟨c, p₂, rfl⟩ := List.exists_cons_of_ne_nil hp₂
    obtain ⟨rfl, -⟩ := List.cons.inj hb
    exact absurd (by simp) he

theorem infix_or_infix_of_append_cons {e : Char} (he : e ∉ pat) (h : pat <:+: a ++ e :: b) :
    pat <:+: a ∨ pat <:+: b := by
  obtain ⟨x, y, h⟩ := h
  rcases eq_of_append_eq_append_cons he h with ⟨a', rfl⟩ | ⟨b', rfl⟩
  · exact .inl ⟨x, a', rfl⟩
  · exact .inr ⟨b', y, rfl⟩

theorem infix_of_infix_append_left (h : pat <:+: d ++ b) (hd : ∀ c ∈ pat.head?, c ∉ d) :
    pat <:+: b := by
  obtain ⟨x, y, h⟩ := h
  rcases eq_of_append_eq_append h with ⟨a', rfl⟩ | ⟨b', rfl, -⟩ | ⟨p₁, p₂, rfl, hp₁, -, rfl, -⟩
  · cases pat with
    | nil => exact List.nil_infix
    | cons c pat => exact absurd (by simp) (hd c rfl)
  · exact ⟨b', y, rfl⟩
  · obtain ⟨c, p₁, rfl⟩ := List.exists_cons_of_ne_nil hp₁
    exact absurd (by simp) (hd c rfl)

theorem infix_of_infix_append_right (h : pat <:+: a ++ d) (hd : ∀ c ∈ pat.getLast?, c ∉ d) :
    pat <:+: a := by
  rw [← List.reverse_infix, List.reverse_append] at h
  rw [← List.reverse_infix]
  refine infix_of_infix_append_left h fun c hc => ?_
  rw [List.head?_reverse] at hc
  simpa using hd c hc

end Pattern

/-! ## The arrow -/

section Arrow

variable {a b x y : List Char}

theorem arrow_toList : "-->".toList = ['-', '-', '>'] := rfl

theorem not_arrow_append_left {d : List Char} (h : ¬ "-->".toList <:+: x) (hd : '-' ∉ d) :
    ¬ "-->".toList <:+: d ++ x := fun harrow =>
  h (infix_of_infix_append_left harrow fun c hc => by
    obtain rfl : '-' = c := by simpa [arrow_toList] using hc
    exact hd)

theorem not_arrow_append_right {d : List Char} (h : ¬ "-->".toList <:+: x) (hd : '>' ∉ d) :
    ¬ "-->".toList <:+: x ++ d := fun harrow =>
  h (infix_of_infix_append_right harrow fun c hc => by
    obtain rfl : '>' = c := by simpa [arrow_toList] using hc
    exact hd)

theorem arrow_eq_append {p₁ p₂ : List Char} (h : "-->".toList = p₁ ++ p₂) (h₁ : p₁ ≠ [])
    (h₂ : p₂ ≠ []) : (p₁ = ['-'] ∧ p₂ = ['-', '>']) ∨ (p₁ = ['-', '-'] ∧ p₂ = ['>']) := by
  rcases p₁ with _ | ⟨c₁, _ | ⟨c₂, _ | ⟨c₃, p₁⟩⟩⟩
  · exact absurd rfl h₁
  · simp only [arrow_toList, List.cons_append, List.nil_append, List.cons.injEq] at h
    obtain ⟨rfl, rfl⟩ := h
    exact .inl ⟨rfl, rfl⟩
  · simp only [arrow_toList, List.cons_append, List.nil_append, List.cons.injEq] at h
    obtain ⟨rfl, rfl, rfl⟩ := h
    exact .inr ⟨rfl, rfl⟩
  · simp only [arrow_toList, List.cons_append, List.cons.injEq, List.nil_eq,
      List.append_eq_nil_iff] at h
    exact absurd h.2.2.2.2 h₂

theorem eq_of_arrow (hx : ¬ "-->".toList <:+: x) (hy : ¬ "-->".toList <:+: y) {x' y' : List Char}
    (h : x' ++ "-->".toList ++ y' = x ++ ("-->".toList ++ y)) : x' = x ∧ y' = y := by
  rcases eq_of_append_eq_append h with ⟨a', rfl⟩ | ⟨b', hb, rfl⟩ | ⟨p₁, p₂, hp, h₁, h₂, -, hb⟩
  · exact absurd ⟨x', a', rfl⟩ hx
  · rcases eq_of_append_eq_append hb.symm with ⟨a', ha'⟩ | ⟨b'', rfl, -⟩ |
      ⟨q₁, q₂, hq, hq₁, hq₂, hq', -⟩
    · have hlen := congrArg List.length ha'
      simp only [List.length_append] at hlen
      obtain rfl : b' = [] := List.eq_nil_of_length_eq_zero (by omega)
      simp only [List.nil_append] at hb
      exact ⟨by simp, (List.append_cancel_left hb).symm⟩
    · exact absurd ⟨b'', y', rfl⟩ hy
    · rcases arrow_eq_append hq hq₁ hq₂ with ⟨rfl, -⟩ | ⟨rfl, -⟩ <;>
        simpa using congrArg List.getLast? hq'
  · rcases arrow_eq_append hp h₁ h₂ with ⟨-, rfl⟩ | ⟨-, rfl⟩ <;> simp at hb

end Arrow

/-! ## Character classes -/

namespace Text

theorem isBlank_of_isOpener {c : Char} (h : Piece.isOpener c = true) : isBlank c = false := by
  simp only [Piece.isOpener, Bool.or_eq_true, beq_iff_eq] at h
  rcases h with rfl | rfl <;> decide

theorem isBlank_of_isCloser {c : Char} (h : Piece.isCloser c = true) : isBlank c = false := by
  simp only [Piece.isCloser, Bool.or_eq_true, beq_iff_eq] at h
  rcases h with rfl | rfl <;> decide

theorem isOpener_of_isBlank {c : Char} (h : isBlank c = true) : Piece.isOpener c = false := by
  cases ho : Piece.isOpener c
  · rfl
  · rw [isBlank_of_isOpener ho] at h
    cases h

theorem isCloser_of_isBlank {c : Char} (h : isBlank c = true) : Piece.isCloser c = false := by
  cases hc : Piece.isCloser c
  · rfl
  · rw [isBlank_of_isCloser hc] at h
    cases h

/-! ## Texts that can be written -/

/-- A text opens a declaration where it holds a dash followed, after blanks, by an opening
marker. -/
def OpensDeclaration (x : List Char) : Prop :=
  ∃ v o, (∀ c ∈ v, isBlank c) ∧ Piece.isOpener o ∧ '-' :: (v ++ [o]) <:+: x

def opensAfterBlanks (x : List Char) : Bool :=
  match x.dropWhile isBlank with
  | o :: _ => Piece.isOpener o
  | [] => false

def opensDeclaration : List Char → Bool
  | [] => false
  | c :: x => (c == '-' && opensAfterBlanks x) || opensDeclaration x

theorem opensAfterBlanks_iff (x : List Char) : opensAfterBlanks x = true ↔
    ∃ v o, (∀ c ∈ v, isBlank c) ∧ Piece.isOpener o ∧ v ++ [o] <+: x := by
  induction x with
  | nil => simp [opensAfterBlanks]
  | cons c x ih =>
      by_cases hc : isBlank c
      · have hskip : opensAfterBlanks (c :: x) = opensAfterBlanks x := by
          simp [opensAfterBlanks, List.dropWhile_cons_of_pos hc]
        rw [hskip, ih]
        constructor
        · rintro ⟨v, o, hv, ho, hpre⟩
          refine ⟨c :: v, o, ?_, ho, List.cons_prefix_cons.mpr ⟨rfl, hpre⟩⟩
          simpa [hc] using hv
        · rintro ⟨_ | ⟨d, v⟩, o, hv, ho, hpre⟩
          · obtain ⟨rfl, -⟩ := List.cons_prefix_cons.mp hpre
            simp [isBlank_of_isOpener ho] at hc
          · obtain ⟨rfl, hrest⟩ := List.cons_prefix_cons.mp hpre
            exact ⟨v, o, fun e he => hv e (by simp [he]), ho, hrest⟩
      · have hfirst : opensAfterBlanks (c :: x) = Piece.isOpener c := by
          simp [opensAfterBlanks, List.dropWhile_cons_of_neg hc]
        rw [hfirst]
        constructor
        · intro ho
          exact ⟨[], c, by simp, ho, by simp⟩
        · rintro ⟨_ | ⟨d, v⟩, o, hv, ho, hpre⟩
          · obtain ⟨rfl, -⟩ := List.cons_prefix_cons.mp hpre
            exact ho
          · obtain ⟨rfl, -⟩ := List.cons_prefix_cons.mp hpre
            exact absurd (hv d (by simp)) hc

theorem opensDeclaration_iff (x : List Char) : opensDeclaration x = true ↔ OpensDeclaration x := by
  induction x with
  | nil => simp [opensDeclaration, OpensDeclaration]
  | cons c x ih =>
      simp only [opensDeclaration, Bool.or_eq_true, Bool.and_eq_true, beq_iff_eq, ih,
        opensAfterBlanks_iff]
      constructor
      · rintro (⟨rfl, v, o, hv, ho, hpre⟩ | ⟨v, o, hv, ho, hinf⟩)
        · exact ⟨v, o, hv, ho, (List.cons_prefix_cons.mpr ⟨rfl, hpre⟩).isInfix⟩
        · exact ⟨v, o, hv, ho, hinf.trans (List.suffix_cons c x).isInfix⟩
      · rintro ⟨v, o, hv, ho, hinf⟩
        rcases List.infix_cons_iff.mp hinf with hpre | hinf
        · obtain ⟨rfl, hrest⟩ := List.cons_prefix_cons.mp hpre
          exact .inl ⟨rfl, v, o, hv, ho, hrest⟩
        · exact .inr ⟨v, o, hv, ho, hinf⟩

instance : DecidablePred OpensDeclaration := fun x => decidable_of_iff _ (opensDeclaration_iff x)

example : OpensDeclaration "a - [b".toList ∧ ¬ OpensDeclaration "a-b [c".toList := by decide

namespace OpensDeclaration

variable {w x y : List Char}

theorem mono (h : OpensDeclaration x) (hxy : x <:+: y) : OpensDeclaration y := by
  obtain ⟨v, o, hv, ho, hinf⟩ := h
  exact ⟨v, o, hv, ho, hinf.trans hxy⟩

theorem of_eq {b v z : List Char} {o : Char} (hv : ∀ c ∈ v, isBlank c) (ho : Piece.isOpener o) :
    OpensDeclaration (b ++ '-' :: (v ++ o :: z)) :=
  ⟨v, o, hv, ho, b, z, by simp⟩

theorem of_blanks_append (h : OpensDeclaration (w ++ x)) (hw : ∀ c ∈ w, isBlank c) :
    OpensDeclaration x := by
  obtain ⟨v, o, hv, ho, hinf⟩ := h
  refine ⟨v, o, hv, ho, infix_of_infix_append_left hinf fun c hc => ?_⟩
  obtain rfl : c = '-' := by simpa using hc.symm
  exact not_mem_of_forall hw (by decide)

theorem of_append_blanks (h : OpensDeclaration (x ++ w)) (hw : ∀ c ∈ w, isBlank c) :
    OpensDeclaration x := by
  obtain ⟨v, o, hv, ho, hinf⟩ := h
  refine ⟨v, o, hv, ho, infix_of_infix_append_right hinf fun c hc => ?_⟩
  rw [← List.cons_append, List.getLast?_concat] at hc
  obtain rfl : o = c := by simpa using hc
  exact not_mem_of_forall hw (isBlank_of_isOpener ho)

end OpensDeclaration

/-- Text that can be written as an id or a label: not empty, with no blank at either end, on one
line, and without an arrow. -/
structure Writable (x : List Char) : Prop where
  ne_nil : x ≠ []
  head : ∀ c ∈ x.head?, isBlank c = false
  getLast : ∀ c ∈ x.getLast?, isBlank c = false
  no_newline : '\n' ∉ x
  no_arrow : ¬ "-->".toList <:+: x

/-- Text that can be written as an id opens no declaration either. -/
structure WritableId (x : List Char) : Prop extends Writable x where
  no_declaration : ¬ OpensDeclaration x

/-- Text that can be written as a label holds no closing bracket and does not begin with an
opening one. -/
structure WritableLabel (x : List Char) : Prop extends Writable x where
  no_closer : ∀ c ∈ x, Piece.isCloser c = false
  head_opener : ∀ c ∈ x.head?, Piece.isOpener c = false

def LineBlanks (w : List Char) : Prop := Part.blanks.Accepts w ∧ '\n' ∉ w

instance : DecidablePred LineBlanks := fun _ => instDecidableAnd

theorem dropWhile_blanks_append {w x : List Char} (hw : ∀ c ∈ w, isBlank c)
    (hx : ∀ c ∈ x.head?, isBlank c = false) : (w ++ x).dropWhile isBlank = x := by
  rw [List.dropWhile_append_of_pos hw]
  cases x with
  | nil => rfl
  | cons c x => exact List.dropWhile_cons_of_neg (by simp [hx c rfl])

theorem trim_blanks_append {w x w' : List Char} (hw : ∀ c ∈ w, isBlank c)
    (hw' : ∀ c ∈ w', isBlank c) (hx : Writable x) : trim (w ++ x ++ w') = x := by
  have hfront : (w ++ x ++ w').dropWhile isBlank = x ++ w' := by
    rw [List.append_assoc]
    refine dropWhile_blanks_append hw fun c hc => hx.head c ?_
    rwa [List.head?_append_of_ne_nil _ hx.ne_nil] at hc
  have hback : (w'.reverse ++ x.reverse).dropWhile isBlank = x.reverse :=
    dropWhile_blanks_append (by simpa using hw') (by simpa using hx.getLast)
  rw [trim, hfront, List.reverse_append, hback, List.reverse_reverse]

end Text

/-! ## Chunks of a written line -/

namespace Text

/-- A chunk of free text that stands for an id: every non-empty end of it holds a non-blank
character, opens no declaration and holds no arrow. -/
structure IdChunk (x : List Char) : Prop where
  text : Part.text.Accepts x
  ends : ∀ u v, x = u ++ v → v ≠ [] →
    (∃ c ∈ v, isBlank c = false) ∧ ¬ OpensDeclaration v ∧ ¬ "-->".toList <:+: v

/-- A chunk of free text that stands for a label with its padding. -/
structure LabelChunk (k : List Char) : Prop where
  text : Part.text.Accepts k
  head : ∀ c ∈ k.head?, Piece.isOpener c = false
  no_closer : ∀ c ∈ k, Piece.isCloser c = false
  no_arrow : ¬ "-->".toList <:+: k

theorem not_dash_mem {w : List Char} (hw : ∀ c ∈ w, isBlank c) : '-' ∉ w :=
  not_mem_of_forall hw (by decide)

theorem not_gt_mem {w : List Char} (hw : ∀ c ∈ w, isBlank c) : '>' ∉ w :=
  not_mem_of_forall hw (by decide)

theorem WritableId.idChunk {w x : List Char} (hx : WritableId x) (hw : LineBlanks w) :
    IdChunk (w ++ x) := by
  refine ⟨⟨by simp [hx.ne_nil], by simp [hw.2, hx.no_newline]⟩, fun u v h hv => ?_⟩
  have hinf : v <:+: w ++ x := h ▸ (List.suffix_append u v).isInfix
  have hlast : v.getLast? = x.getLast? := by
    rw [← List.getLast?_append_of_ne_nil u hv, ← h, List.getLast?_append_of_ne_nil w hx.ne_nil]
  cases hxl : x.getLast? with
  | none => exact absurd (List.getLast?_eq_none_iff.mp hxl) hx.ne_nil
  | some c =>
      refine ⟨⟨c, List.mem_of_getLast? (hlast.trans hxl), hx.getLast c hxl⟩, fun hdecl => ?_,
        fun harrow => ?_⟩
      · exact hx.no_declaration ((hdecl.mono hinf).of_blanks_append hw.1)
      · exact not_arrow_append_left hx.no_arrow (not_dash_mem hw.1) (harrow.trans hinf)

theorem WritableLabel.labelChunk {u l u' : List Char} (hl : WritableLabel l) (hu : LineBlanks u)
    (hu' : LineBlanks u') : LabelChunk (u ++ l ++ u') where
  text := ⟨by simp [hl.ne_nil], by simp [hu.2, hl.no_newline, hu'.2]⟩
  head c hc := by
    cases u with
    | nil =>
        rw [List.nil_append, List.head?_append_of_ne_nil _ hl.ne_nil] at hc
        exact hl.head_opener c hc
    | cons d u =>
        obtain rfl : d = c := by simpa using hc
        exact isOpener_of_isBlank (hu.1 d (by simp))
  no_closer c hc := by
    simp only [List.mem_append] at hc
    rcases hc with (hc | hc) | hc
    · exact isCloser_of_isBlank (hu.1 c hc)
    · exact hl.no_closer c hc
    · exact isCloser_of_isBlank (hu'.1 c hc)
  no_arrow :=
    not_arrow_append_right (not_arrow_append_left hl.no_arrow (not_dash_mem hu.1))
      (not_gt_mem hu'.1)

end Text

open Text

/-! ## What a shorter chunk of text leaves -/

section Shorter

variable {ps : List Part} {v w t : List Char}

theorem opener_ne_blanks_dash {o : Char} (ho : Piece.isOpener o) {m : List Char}
    (hm : ∀ e ∈ m, isBlank e) (z : List Char) : o :: z ≠ m ++ '-' :: t := fun hoz => by
  cases m with
  | nil =>
      obtain ⟨rfl, -⟩ := List.cons.inj hoz
      exact absurd ho (by decide)
  | cons e m =>
      obtain ⟨rfl, -⟩ := List.cons.inj hoz
      simp [isBlank_of_isOpener ho] at hm

theorem not_isCut_dash (hv : ∃ c ∈ v, isBlank c = false) (hdecl : ¬ OpensDeclaration v)
    (hw : ∀ c ∈ w, isBlank c) (ws : List (List Char)) :
    ¬ IsCut (Form.shapedParts ++ ps) (v ++ (w ++ '-' :: t)) ws := by
  intro h
  obtain ⟨b, u, o, z, heq, hb, hu, ho⟩ := h.eq_dash
  obtain ⟨c, hcv, hc⟩ := hv
  have hblank : ∀ m, v = b ++ m → (∀ e ∈ m, isBlank e) → False := fun m hvm hm => by
    have := (List.forall_mem_append.mpr ⟨hb, hm⟩) c (hvm ▸ hcv)
    simp [hc] at this
  rcases List.append_eq_append_iff.mp heq with ⟨m, rfl, -⟩ | ⟨m, rfl, hrest⟩
  · have := hb c (by simp [hcv])
    simp [hc] at this
  · cases m with
    | nil => exact hblank [] rfl (by simp)
    | cons d m =>
        obtain ⟨rfl, hrest'⟩ := List.cons.inj hrest
        rcases List.append_eq_append_iff.mp hrest' with ⟨n, rfl, hn⟩ | ⟨n, rfl, hn⟩
        · cases n with
          | nil => exact opener_ne_blanks_dash ho hw z (by simpa using hn)
          | cons e n =>
              obtain ⟨rfl, -⟩ := List.cons.inj hn
              exact hdecl (by simpa using OpensDeclaration.of_eq (b := b) (z := n) hu ho)
        · rcases List.append_eq_append_iff.mp hn with ⟨n', rfl, hn'⟩ | ⟨n', rfl, hn'⟩
          · cases n' with
            | nil =>
                simp only [List.nil_append, List.cons.injEq] at hn'
                rw [← hn'.1] at ho
                exact absurd ho (by decide)
            | cons e n' =>
                obtain ⟨rfl, -⟩ := List.cons.inj hn'
                exact absurd (hu '-' (by simp)) (by decide)
          · exact opener_ne_blanks_dash ho (fun e he => hw e (by simp [he])) z hn'

theorem not_isCut_arrow (hv : ∃ c ∈ v, isBlank c = false) (harrow : ¬ "-->".toList <:+: v)
    (hw : ∀ c ∈ w, isBlank c) (ws : List (List Char)) :
    ¬ IsCut (.blanks :: .token "-->".toList :: ps) (v ++ (w ++ ("-->".toList ++ t))) ws := by
  intro h
  obtain ⟨b, rest, heq, hb, -⟩ := h.eq_token
  obtain ⟨c, hcv, hc⟩ := hv
  rcases eq_of_append_eq_append heq.symm with ⟨a', rfl⟩ | ⟨b', -, rfl⟩ |
    ⟨p₁, p₂, hp, h₁, h₂, -, hp₂⟩
  · exact harrow ⟨b, a', rfl⟩
  · have := hb c (by simp [hcv])
    simp [hc] at this
  · cases w with
    | nil =>
        rcases arrow_eq_append hp h₁ h₂ with ⟨-, rfl⟩ | ⟨-, rfl⟩ <;> simp [arrow_toList] at hp₂
    | cons e w =>
        have he := hw e (by simp)
        rcases arrow_eq_append hp h₁ h₂ with ⟨-, rfl⟩ | ⟨-, rfl⟩ <;>
          obtain ⟨rfl, -⟩ := List.cons.inj hp₂ <;> exact absurd he (by decide)

theorem not_isCut_closers {c : Char} (hc : Piece.isCloser c = false) (ws : List (List Char)) :
    ¬ IsCut (.closers :: ps) (c :: t) ws := fun h => by
  have := h.canBegin
  simp [Part.canBegin, hc] at this

theorem not_isCut_end (hv : ∃ c ∈ v, isBlank c = false) (ws : List (List Char)) :
    ¬ IsCut [.blanks] (v ++ w) ws := fun h => by
  obtain ⟨c, hcv, hc⟩ := hv
  have := h.blank_of_blanks c (by simp [hcv])
  simp [hc] at this

end Shorter

/-! ## Forms that do not fit -/

section Misfit

variable {ps : List Part} {cs : List Char} {ws : List (List Char)}

theorem IsCut.opensDeclaration (h : IsCut (Form.shapedParts ++ ps) cs ws) :
    OpensDeclaration cs := by
  obtain ⟨b, v, o, z, rfl, -, hv, ho⟩ := h.eq_dash
  exact .of_eq hv ho

theorem IsCut.opensDeclaration_target
    (h : IsCut (.blanks :: .text :: (Form.shapedParts ++ ps)) cs ws) : OpensDeclaration cs := by
  obtain ⟨b, r, _, rfl, -, -, h⟩ := h.cons_inv
  obtain ⟨t, r', _, rfl, -, -, h⟩ := h.cons_inv
  exact h.opensDeclaration.mono ⟨b ++ t, [], by simp⟩

theorem IsCut.full_arrow (h : IsCut Form.full.parts cs ws) :
    ∃ x y, cs = x ++ "-->".toList ++ y ∧ OpensDeclaration x ∧ OpensDeclaration y := by
  have hparts : Form.full.parts = .text :: (Form.shapedParts ++
      (.blanks :: .token "-->".toList :: .blanks :: .text :: (Form.shapedParts ++ []))) := rfl
  rw [hparts] at h
  obtain ⟨t, r, _, rfl, -, -, h⟩ := h.cons_inv
  obtain ⟨s, r', ws₁, _, rfl, hs, h⟩ := h.append_inv
  obtain ⟨b, r'', rfl, -, _, h⟩ := h.eq_token
  have hs' : IsCut (Form.shapedParts ++ []) s ws₁ := by rwa [List.append_nil]
  exact ⟨t ++ s ++ b, r'', by simp, hs'.opensDeclaration.mono ⟨t, b, rfl⟩,
    h.opensDeclaration_target⟩

theorem IsCut.simple_arrow (h : IsCut Form.simple.parts cs ws) :
    ∃ x y, cs = x ++ "-->".toList ++ y ∧ OpensDeclaration y := by
  have hparts : Form.simple.parts = .text :: .blanks :: .token "-->".toList :: .blanks :: .text ::
      (Form.shapedParts ++ []) := rfl
  rw [hparts] at h
  obtain ⟨t, r, _, rfl, -, -, h⟩ := h.cons_inv
  obtain ⟨b, r', rfl, -, _, h⟩ := h.eq_token
  exact ⟨t ++ b, r', by simp, h.opensDeclaration_target⟩

theorem not_isCut_full {x y : List Char} (hx : ¬ "-->".toList <:+: x)
    (hxd : ¬ OpensDeclaration x) (hy : ¬ "-->".toList <:+: y) (ws : List (List Char)) :
    ¬ IsCut Form.full.parts (x ++ ("-->".toList ++ y)) ws := fun h => by
  obtain ⟨x', y', heq, hx', -⟩ := h.full_arrow
  obtain ⟨rfl, -⟩ := eq_of_arrow hx hy heq.symm
  exact hxd hx'

theorem not_opensDeclaration_of_reverse {r t x y : List Char} (hr : ¬ "-->".toList <:+: r)
    (ht : ¬ OpensDeclaration t) (h : x ++ "-->".toList ++ y = r ++ ("<--".toList ++ t)) :
    ¬ OpensDeclaration y := by
  have h' : x ++ "-->".toList ++ y = r ++ '<' :: (['-', '-'] ++ t) := h
  rcases eq_of_append_eq_append_cons (by decide) h' with ⟨a', rfl⟩ | ⟨b', hb'⟩
  · exact absurd ⟨x, a', rfl⟩ hr
  · have hlen := congrArg List.length hb'
    simp only [List.length_append, arrow_toList, List.length_cons, List.length_nil] at hlen
    have hsuffix : y <:+ t :=
      List.suffix_of_suffix_length_le ⟨b' ++ "-->".toList, hb'.symm⟩ (List.suffix_append _ t)
        (by omega)
    exact fun hy => ht (hy.mono hsuffix.isInfix)

theorem not_isCut_full_of_reverse {r t : List Char} (hr : ¬ "-->".toList <:+: r)
    (ht : ¬ OpensDeclaration t) (ws : List (List Char)) :
    ¬ IsCut Form.full.parts (r ++ ("<--".toList ++ t)) ws := fun h => by
  obtain ⟨x, y, heq, -, hy⟩ := h.full_arrow
  exact not_opensDeclaration_of_reverse hr ht heq.symm hy

theorem not_isCut_simple_of_reverse {r t : List Char} (hr : ¬ "-->".toList <:+: r)
    (ht : ¬ OpensDeclaration t) (ws : List (List Char)) :
    ¬ IsCut Form.simple.parts (r ++ ("<--".toList ++ t)) ws := fun h => by
  obtain ⟨x, y, heq, hy⟩ := h.simple_arrow
  exact not_opensDeclaration_of_reverse hr ht heq.symm hy

theorem not_arrow_declared {x g g' os k c r : List Char} (hx : ¬ "-->".toList <:+: x)
    (hg : Part.blanks.Accepts g) (hg' : Part.blanks.Accepts g') (hos : Part.openers.Accepts os)
    (hk : LabelChunk k) (hc : Part.closers.Accepts c) (hr : '>' ∉ r) :
    ¬ "-->".toList <:+: x ++ (g ++ '-' :: (g' ++ (os ++ (k ++ (c ++ r))))) := by
  obtain ⟨o, os, rfl⟩ := List.exists_cons_of_ne_nil hos.1
  have ho : o ∉ "-->".toList := by
    have := hos.2 o (by simp)
    simp only [Piece.isOpener, Bool.or_eq_true, beq_iff_eq] at this
    rcases this with rfl | rfl <;> decide
  have hsplit : x ++ (g ++ '-' :: (g' ++ (o :: os ++ (k ++ (c ++ r))))) =
      (x ++ (g ++ '-' :: g')) ++ o :: (os ++ (k ++ (c ++ r))) := by simp
  rw [hsplit]
  intro harrow
  rcases infix_or_infix_of_append_cons ho harrow with harrow | harrow
  · refine not_arrow_append_right hx (fun hm => ?_) harrow
    rcases List.mem_append.mp hm with hm | hm
    · exact not_gt_mem hg hm
    · rcases List.mem_cons.mp hm with hm | hm
      · exact absurd hm (by decide)
      · exact not_gt_mem hg' hm
  · refine not_arrow_append_left (not_arrow_append_right hk.no_arrow (fun hm => ?_)) ?_ harrow
    · rcases List.mem_append.mp hm with hm | hm
      · exact not_mem_of_forall hc.2 (by decide) hm
      · exact hr hm
    · exact not_mem_of_forall (fun e he => hos.2 e (by simp [he])) (by decide)

end Misfit

/-! ## The least cut of a written line -/

section Least

variable {ps : List Part} {ws : List (List Char)}

theorem IsLeastCut.blanks {g rest : List Char} (hg : Part.blanks.Accepts g)
    (hend : ∀ c ∈ rest.head?, isBlank c = false) (hrest : IsLeastCut ps rest ws) :
    IsLeastCut (.blanks :: ps) (g ++ rest) (g :: ws) :=
  IsLeastCut.greedy isBlank (by simp) (fun _ h => h) hg hend hrest

theorem IsLeastCut.blanks_before {g y r : List Char} (hg : Part.blanks.Accepts g) (hy : y ≠ [])
    (hhead : ∀ c ∈ y.head?, isBlank c = false) (hrest : IsLeastCut ps (y ++ r) ws) :
    IsLeastCut (.blanks :: ps) (g ++ (y ++ r)) (g :: ws) :=
  IsLeastCut.blanks hg (by rw [List.head?_append_of_ne_nil _ hy]; exact hhead) hrest

theorem IsLeastCut.blanks_token (t : List Char) {g r : List Char} (hg : Part.blanks.Accepts g)
    (ht : t ≠ []) (hhead : ∀ c ∈ t.head?, isBlank c = false) (hrest : IsLeastCut ps r ws) :
    IsLeastCut (.blanks :: .token t :: ps) (g ++ (t ++ r)) (g :: t :: ws) :=
  IsLeastCut.blanks_before hg ht hhead (IsLeastCut.token t hrest)

theorem head?_append_forall {P : Char → Prop} {g r : List Char} (hg : ∀ c ∈ g, P c)
    (hr : ∀ c ∈ r.head?, P c) : ∀ c ∈ (g ++ r).head?, P c := by
  intro c hc
  cases g with
  | nil => exact hr c hc
  | cons d g =>
      obtain rfl : d = c := by simpa using hc
      exact hg d (by simp)

theorem IsLeastCut.declared {g g' os k c rest : List Char} (hg : Part.blanks.Accepts g)
    (hg' : Part.blanks.Accepts g') (hos : Part.openers.Accepts os) (hk : LabelChunk k)
    (hc : Part.closers.Accepts c) (hend : ∀ e ∈ rest.head?, Piece.isCloser e = false)
    (hrest : IsLeastCut ps rest ws) :
    IsLeastCut (Form.shapedParts ++ ps) (g ++ '-' :: (g' ++ (os ++ (k ++ (c ++ rest)))))
      (g :: ['-'] :: g' :: os :: k :: c :: ws) := by
  have hclosers : IsLeastCut (.closers :: ps) (c ++ rest) (c :: ws) :=
    IsLeastCut.greedy Piece.isCloser (by simp) (fun _ h => h.2) hc hend hrest
  have hlabel : IsLeastCut (.text :: .closers :: ps) (k ++ (c ++ rest)) (k :: c :: ws) := by
    refine IsLeastCut.lazy hk.text (fun u v hkuv _ hv ws' => ?_) hclosers
    obtain ⟨e, v, rfl⟩ := List.exists_cons_of_ne_nil hv
    exact not_isCut_closers (hk.no_closer e (by simp [hkuv])) ws'
  have hopeners : IsLeastCut (.openers :: .text :: .closers :: ps) (os ++ (k ++ (c ++ rest)))
      (os :: k :: c :: ws) := IsLeastCut.greedy Piece.isOpener (by simp) (fun _ h => h.2) hos
    (by rw [List.head?_append_of_ne_nil _ hk.text.1]; exact hk.head) hlabel
  have hmarker := IsLeastCut.blanks_before hg' hos.1
    (fun e he => isBlank_of_isOpener (hos.2 e (List.mem_of_mem_head? he))) hopeners
  exact IsLeastCut.blanks_token ['-'] hg (by simp) (fun e he => by cases he; decide) hmarker

theorem IsLeastCut.id_declared {x g t : List Char} (hx : IdChunk x) (hg : Part.blanks.Accepts g)
    (hrest : IsLeastCut (Form.shapedParts ++ ps) (g ++ '-' :: t) ws) :
    IsLeastCut (.text :: (Form.shapedParts ++ ps)) (x ++ (g ++ '-' :: t)) (x :: ws) :=
  IsLeastCut.lazy hx.text (fun u v hxuv _ hv ws' =>
    not_isCut_dash (hx.ends u v hxuv hv).1 (hx.ends u v hxuv hv).2.1 hg ws') hrest

end Least

/-! ## The three written forms -/

section Forms

variable {x y k k₁ k₂ os os₁ os₂ c c₁ c₂ g₁ g₂ g₃ g₄ g₅ g₆ : List Char}

theorem Text.IdChunk.no_arrow (hx : IdChunk x) : ¬ "-->".toList <:+: x :=
  (hx.ends [] x rfl hx.text.1).2.2

theorem Text.IdChunk.no_declaration (hx : IdChunk x) : ¬ OpensDeclaration x :=
  (hx.ends [] x rfl hx.text.1).2.1

theorem IsLeastCut.target (hy : IdChunk y) (hyhead : ∀ e ∈ y.head?, isBlank e = false)
    (hk : LabelChunk k) (hos : Part.openers.Accepts os) (hc : Part.closers.Accepts c)
    (hg₄ : Part.blanks.Accepts g₄) (hg₅ : Part.blanks.Accepts g₅) (hg₆ : Part.blanks.Accepts g₆) :
    IsLeastCut (.blanks :: .text :: (Form.shapedParts ++ []))
      (g₄ ++ (y ++ (g₅ ++ '-' :: (g₆ ++ (os ++ (k ++ c))))))
      [g₄, y, g₅, ['-'], g₆, os, k, c] := by
  have hdeclared := IsLeastCut.declared hg₅ hg₆ hos hk hc (fun _ h => by cases h) IsLeastCut.nil
  rw [List.append_nil c] at hdeclared
  exact IsLeastCut.blanks_before hg₄ hy.text.1 hyhead (IsLeastCut.id_declared hy hg₅ hdeclared)

theorem isLeastCut_full (hx : IdChunk x) (hy : IdChunk y)
    (hyhead : ∀ e ∈ y.head?, isBlank e = false) (hk₁ : LabelChunk k₁) (hk₂ : LabelChunk k₂)
    (hos₁ : Part.openers.Accepts os₁) (hos₂ : Part.openers.Accepts os₂)
    (hc₁ : Part.closers.Accepts c₁) (hc₂ : Part.closers.Accepts c₂)
    (hg : ∀ g ∈ [g₁, g₂, g₃, g₄, g₅, g₆], Part.blanks.Accepts g) :
    IsLeastCut Form.full.parts
      (x ++ (g₁ ++ '-' :: (g₂ ++ (os₁ ++ (k₁ ++ (c₁ ++ (g₃ ++ ("-->".toList ++
        (g₄ ++ (y ++ (g₅ ++ '-' :: (g₆ ++ (os₂ ++ (k₂ ++ c₂))))))))))))))
      [x, g₁, ['-'], g₂, os₁, k₁, c₁, g₃, "-->".toList, g₄, y, g₅, ['-'], g₆, os₂, k₂, c₂] := by
  have htarget := IsLeastCut.target hy hyhead hk₂ hos₂ hc₂ (hg g₄ (by simp)) (hg g₅ (by simp))
    (hg g₆ (by simp))
  have harrow := IsLeastCut.blanks_token "-->".toList (hg g₃ (by simp)) (by decide)
    (fun e he => by cases he; decide) htarget
  have hsource := IsLeastCut.declared (hg g₁ (by simp)) (hg g₂ (by simp)) hos₁ hk₁ hc₁
    (head?_append_forall (fun e he => isCloser_of_isBlank (hg g₃ (by simp) e he))
      (fun e he => by cases he; decide)) harrow
  exact IsLeastCut.id_declared hx (hg g₁ (by simp)) hsource

theorem isLeastCut_simple (hx : IdChunk x) (hy : IdChunk y)
    (hyhead : ∀ e ∈ y.head?, isBlank e = false) (hk : LabelChunk k)
    (hos : Part.openers.Accepts os) (hc : Part.closers.Accepts c)
    (hg : ∀ g ∈ [g₁, g₄, g₅, g₆], Part.blanks.Accepts g) :
    IsLeastCut Form.simple.parts
      (x ++ (g₁ ++ ("-->".toList ++ (g₄ ++ (y ++ (g₅ ++ '-' :: (g₆ ++ (os ++ (k ++ c)))))))))
      [x, g₁, "-->".toList, g₄, y, g₅, ['-'], g₆, os, k, c] := by
  have htarget := IsLeastCut.target hy hyhead hk hos hc (hg g₄ (by simp)) (hg g₅ (by simp))
    (hg g₆ (by simp))
  have harrow := IsLeastCut.blanks_token "-->".toList (hg g₁ (by simp)) (by decide)
    (fun e he => by cases he; decide) htarget
  exact IsLeastCut.lazy hx.text (fun u v hxuv _ hv ws' =>
    not_isCut_arrow (hx.ends u v hxuv hv).1 (hx.ends u v hxuv hv).2.2 (hg g₁ (by simp)) ws')
    harrow

theorem isLeastCut_reverse (hx : IdChunk x) (hy : IdChunk y)
    (hyhead : ∀ e ∈ y.head?, isBlank e = false) (hk : LabelChunk k)
    (hos : Part.openers.Accepts os) (hc : Part.closers.Accepts c)
    (hg : ∀ g ∈ [g₁, g₂, g₃, g₄, g₅], Part.blanks.Accepts g) :
    IsLeastCut Form.reverse.parts
      (x ++ (g₁ ++ '-' :: (g₂ ++ (os ++ (k ++ (c ++ (g₃ ++ ("<--".toList ++
        (g₄ ++ (y ++ g₅))))))))))
      [x, g₁, ['-'], g₂, os, k, c, g₃, "<--".toList, g₄, y, g₅] := by
  have hend := IsLeastCut.blanks (hg g₅ (by simp)) (fun _ h => by cases h) IsLeastCut.nil
  rw [List.append_nil g₅] at hend
  have hid : IsLeastCut [.text, .blanks] (y ++ g₅) [y, g₅] :=
    IsLeastCut.lazy hy.text (fun u v hyuv _ hv ws' => not_isCut_end (hy.ends u v hyuv hv).1 ws')
      hend
  have harrow := IsLeastCut.blanks_token "<--".toList (hg g₃ (by simp)) (by decide)
    (fun e he => by cases he; decide)
    (IsLeastCut.blanks_before (hg g₄ (by simp)) hy.text.1 hyhead hid)
  have hsource := IsLeastCut.declared (hg g₁ (by simp)) (hg g₂ (by simp)) hos hk hc
    (head?_append_forall (fun e he => isCloser_of_isBlank (hg g₃ (by simp) e he))
      (fun e he => by cases he; decide)) harrow
  exact IsLeastCut.id_declared hx (hg g₁ (by simp)) hsource

end Forms

/-! ## Reading the written forms -/

section Reading

variable {x y k k₁ k₂ os os₁ os₂ c c₁ c₂ g₁ g₂ g₃ g₄ g₅ g₆ : List Char}

theorem read?_full (hx : IdChunk x) (hy : IdChunk y) (hyhead : ∀ e ∈ y.head?, isBlank e = false)
    (hk₁ : LabelChunk k₁) (hk₂ : LabelChunk k₂) (hos₁ : Part.openers.Accepts os₁)
    (hos₂ : Part.openers.Accepts os₂) (hc₁ : Part.closers.Accepts c₁)
    (hc₂ : Part.closers.Accepts c₂) (hg : ∀ g ∈ [g₁, g₂, g₃, g₄, g₅, g₆], Part.blanks.Accepts g) :
    Statement.read? (x ++ (g₁ ++ '-' :: (g₂ ++ (os₁ ++ (k₁ ++ (c₁ ++ (g₃ ++ ("-->".toList ++
        (g₄ ++ (y ++ (g₅ ++ '-' :: (g₆ ++ (os₂ ++ (k₂ ++ c₂)))))))))))))) =
      Option.filter Statement.hasIds (some ⟨.declared x os₁ k₁, .declared y os₂ k₂, .forward⟩) :=
  (Statement.reads_read? _).unique
    (.first (isLeastCut_full hx hy hyhead hk₁ hk₂ hos₁ hos₂ hc₁ hc₂ hg))

theorem read?_simple (hx : IdChunk x) (hy : IdChunk y)
    (hyhead : ∀ e ∈ y.head?, isBlank e = false) (hk : LabelChunk k)
    (hos : Part.openers.Accepts os) (hc : Part.closers.Accepts c)
    (hg : ∀ g ∈ [g₁, g₄, g₅, g₆], Part.blanks.Accepts g) :
    Statement.read?
        (x ++ (g₁ ++ ("-->".toList ++ (g₄ ++ (y ++ (g₅ ++ '-' :: (g₆ ++ (os ++ (k ++ c))))))))) =
      Option.filter Statement.hasIds (some ⟨.bare x, .declared y os k, .forward⟩) := by
  have hbefore : ¬ "-->".toList <:+: x ++ g₁ :=
    not_arrow_append_right hx.no_arrow (not_gt_mem (hg g₁ (by simp)))
  have hbefore' : ¬ OpensDeclaration (x ++ g₁) := fun h =>
    hx.no_declaration (h.of_append_blanks (hg g₁ (by simp)))
  have hafter := not_arrow_declared hy.no_arrow (hg g₅ (by simp)) (hg g₆ (by simp)) hos hk hc
    List.not_mem_nil
  rw [List.append_nil c] at hafter
  have hnofull : ∀ ws, ¬ IsCut Form.full.parts
      (x ++ (g₁ ++ ("-->".toList ++ (g₄ ++ (y ++ (g₅ ++ '-' :: (g₆ ++ (os ++ (k ++ c)))))))))
      ws := fun ws h => by
    rw [← List.append_assoc] at h
    exact not_isCut_full hbefore hbefore'
      (not_arrow_append_left hafter (not_dash_mem (hg g₄ (by simp)))) ws h
  exact (Statement.reads_read? _).unique
    (.next hnofull (.first (isLeastCut_simple hx hy hyhead hk hos hc hg)))

theorem read?_reverse (hx : IdChunk x) (hy : IdChunk y)
    (hyhead : ∀ e ∈ y.head?, isBlank e = false) (hk : LabelChunk k)
    (hos : Part.openers.Accepts os) (hc : Part.closers.Accepts c)
    (hg : ∀ g ∈ [g₁, g₂, g₃, g₄, g₅], Part.blanks.Accepts g) :
    Statement.read? (x ++ (g₁ ++ '-' :: (g₂ ++ (os ++ (k ++ (c ++ (g₃ ++ ("<--".toList ++
        (g₄ ++ (y ++ g₅)))))))))) =
      Option.filter Statement.hasIds (some ⟨.bare y, .declared x os k, .backward⟩) := by
  have hbefore := not_arrow_declared hx.no_arrow (hg g₁ (by simp)) (hg g₂ (by simp)) hos hk hc
    (not_gt_mem (hg g₃ (by simp)))
  have hafter : ¬ OpensDeclaration (g₄ ++ (y ++ g₅)) := fun h =>
    hy.no_declaration ((h.of_blanks_append (hg g₄ (by simp))).of_append_blanks (hg g₅ (by simp)))
  have hline : x ++ (g₁ ++ '-' :: (g₂ ++ (os ++ (k ++ (c ++ (g₃ ++ ("<--".toList ++
      (g₄ ++ (y ++ g₅))))))))) = x ++ (g₁ ++ '-' :: (g₂ ++ (os ++ (k ++ (c ++ g₃))))) ++
      ("<--".toList ++ (g₄ ++ (y ++ g₅))) := by simp
  exact (Statement.reads_read? _).unique
    (.next (fun ws h => not_isCut_full_of_reverse hbefore hafter ws (hline ▸ h))
      (.next (fun ws h => not_isCut_simple_of_reverse hbefore hafter ws (hline ▸ h))
        (.first (isLeastCut_reverse hx hy hyhead hk hos hc hg))))

end Reading

theorem Text.LineBlanks.nil : LineBlanks [] := ⟨fun _ h => (by cases h), by simp⟩

theorem Text.trim_blanks_before {w x : List Char} (hw : ∀ e ∈ w, isBlank e) (hx : Writable x) :
    trim (w ++ x) = x := by
  simpa using trim_blanks_append hw LineBlanks.nil.1 hx

theorem Text.Writable.trim_eq {x : List Char} (hx : Writable x) : trim x = x :=
  trim_blanks_before LineBlanks.nil.1 hx

theorem Endpoint.declared_written {z x m u l u' : List Char} (hz : trim z = x)
    (hu : LineBlanks u) (hu' : LineBlanks u') (hl : Writable l) :
    Endpoint.declared z m (u ++ l ++ u') =
      ⟨String.ofList x, some ⟨String.ofList m, String.ofList l⟩⟩ := by
  rw [Endpoint.declared, hz, trim_blanks_append hu.1 hu'.1 hl]

theorem Endpoint.bare_written {z x : List Char} (hz : trim z = x) :
    Endpoint.bare z = ⟨String.ofList x, none⟩ := by
  rw [Endpoint.bare, hz]

/-- Each form reads back the ids, markers and labels it was written with, whatever the blanks
around its tokens and whatever closing brackets end its declarations, as long as the ids and
labels can be written. The simple and the reverse form leave the tail of the edge bare. -/
theorem Statement.ofLine?_written
    {a b l₁ l₂ p q c₁ c₂ w₀ w₁ w₂ w₃ w₄ w₅ w₆ u₁ u₁' u₂ u₂' : String}
    (ha : WritableId a.toList) (hb : WritableId b.toList) (hl₁ : WritableLabel l₁.toList)
    (hl₂ : WritableLabel l₂.toList) (hp : Part.openers.Accepts p.toList)
    (hq : Part.openers.Accepts q.toList) (hc₁ : Part.closers.Accepts c₁.toList)
    (hc₂ : Part.closers.Accepts c₂.toList)
    (hpad : ∀ w ∈ [w₀, u₁, u₁', u₂, u₂'], LineBlanks w.toList)
    (hgap : ∀ w ∈ [w₁, w₂, w₃, w₄, w₅, w₆], Part.blanks.Accepts w.toList) :
    ofLine? (w₀ ++ a ++ w₁ ++ "-" ++ w₂ ++ p ++ u₁ ++ l₁ ++ u₁' ++ c₁ ++ w₃ ++ "-->" ++ w₄ ++
        b ++ w₅ ++ "-" ++ w₆ ++ q ++ u₂ ++ l₂ ++ u₂' ++ c₂) =
      some ⟨⟨a, some ⟨p, l₁⟩⟩, ⟨b, some ⟨q, l₂⟩⟩, .forward⟩ ∧
    ofLine? (w₀ ++ a ++ w₁ ++ "-->" ++ w₄ ++ b ++ w₅ ++ "-" ++ w₆ ++ q ++ u₂ ++ l₂ ++ u₂' ++
        c₂) =
      some ⟨⟨a, none⟩, ⟨b, some ⟨q, l₂⟩⟩, .forward⟩ ∧
    ofLine? (w₀ ++ b ++ w₁ ++ "-" ++ w₂ ++ q ++ u₂ ++ l₂ ++ u₂' ++ c₂ ++ w₃ ++ "<--" ++ w₄ ++
        a ++ w₅) =
      some ⟨⟨a, none⟩, ⟨b, some ⟨q, l₂⟩⟩, .backward⟩ := by
  obtain ⟨hw₀, hu₁, hu₁', hu₂, hu₂'⟩ : LineBlanks w₀.toList ∧ LineBlanks u₁.toList ∧
      LineBlanks u₁'.toList ∧ LineBlanks u₂.toList ∧ LineBlanks u₂'.toList := by
    simpa using hpad
  obtain ⟨hw₁, hw₂, hw₃, hw₄, hw₅, hw₆⟩ : Part.blanks.Accepts w₁.toList ∧
      Part.blanks.Accepts w₂.toList ∧ Part.blanks.Accepts w₃.toList ∧
      Part.blanks.Accepts w₄.toList ∧ Part.blanks.Accepts w₅.toList ∧
      Part.blanks.Accepts w₆.toList := by
    simpa using hgap
  have hk₁ := hl₁.labelChunk hu₁ hu₁'
  have hk₂ := hl₂.labelChunk hu₂ hu₂'
  have hb' : IdChunk b.toList := hb.idChunk LineBlanks.nil
  have hids : a.isEmpty = false ∧ b.isEmpty = false :=
    ⟨by simpa using ha.ne_nil, by simpa using hb.ne_nil⟩
  refine ⟨?_, ?_, ?_⟩
  · have hline : (w₀ ++ a ++ w₁ ++ "-" ++ w₂ ++ p ++ u₁ ++ l₁ ++ u₁' ++ c₁ ++ w₃ ++ "-->" ++ w₄ ++
        b ++ w₅ ++ "-" ++ w₆ ++ q ++ u₂ ++ l₂ ++ u₂' ++ c₂).toList =
        (w₀.toList ++ a.toList) ++ (w₁.toList ++ '-' :: (w₂.toList ++ (p.toList ++
          ((u₁.toList ++ l₁.toList ++ u₁'.toList) ++ (c₁.toList ++ (w₃.toList ++ ("-->".toList ++
          (w₄.toList ++ (b.toList ++ (w₅.toList ++ '-' :: (w₆.toList ++ (q.toList ++
          ((u₂.toList ++ l₂.toList ++ u₂'.toList) ++ c₂.toList))))))))))))) := by simp
    rw [ofLine?, hline, read?_full (ha.idChunk hw₀) hb' hb.head hk₁ hk₂ hp hq hc₁ hc₂
      (by simp [hw₁, hw₂, hw₃, hw₄, hw₅, hw₆]),
      Endpoint.declared_written (trim_blanks_before hw₀.1 ha.toWritable) hu₁ hu₁' hl₁.toWritable,
      Endpoint.declared_written hb.trim_eq hu₂ hu₂' hl₂.toWritable]
    simp [Statement.hasIds, hids]
  · have hline : (w₀ ++ a ++ w₁ ++ "-->" ++ w₄ ++ b ++ w₅ ++ "-" ++ w₆ ++ q ++ u₂ ++ l₂ ++ u₂' ++
        c₂).toList =
        (w₀.toList ++ a.toList) ++ (w₁.toList ++ ("-->".toList ++ (w₄.toList ++ (b.toList ++
          (w₅.toList ++ '-' :: (w₆.toList ++ (q.toList ++
          ((u₂.toList ++ l₂.toList ++ u₂'.toList) ++ c₂.toList)))))))) := by simp
    rw [ofLine?, hline, read?_simple (ha.idChunk hw₀) hb' hb.head hk₂ hq hc₂
      (by simp [hw₁, hw₄, hw₅, hw₆]),
      Endpoint.bare_written (trim_blanks_before hw₀.1 ha.toWritable),
      Endpoint.declared_written hb.trim_eq hu₂ hu₂' hl₂.toWritable]
    simp [Statement.hasIds, hids]
  · have hline : (w₀ ++ b ++ w₁ ++ "-" ++ w₂ ++ q ++ u₂ ++ l₂ ++ u₂' ++ c₂ ++ w₃ ++ "<--" ++ w₄ ++
        a ++ w₅).toList =
        (w₀.toList ++ b.toList) ++ (w₁.toList ++ '-' :: (w₂.toList ++ (q.toList ++
          ((u₂.toList ++ l₂.toList ++ u₂'.toList) ++ (c₂.toList ++ (w₃.toList ++
          ("<--".toList ++ (w₄.toList ++ (a.toList ++ w₅.toList))))))))) := by simp
    have ha' : IdChunk a.toList := ha.idChunk LineBlanks.nil
    rw [ofLine?, hline, read?_reverse (hb.idChunk hw₀) ha' ha.head hk₂ hq hc₂
      (by simp [hw₁, hw₂, hw₃, hw₄, hw₅]),
      Endpoint.bare_written ha.trim_eq,
      Endpoint.declared_written (trim_blanks_before hw₀.1 hb.toWritable) hu₂ hu₂'
        hl₂.toWritable]
    simp [Statement.hasIds, hids]

/-- Ids with a hyphen, an arrowhead, a less-than sign and brackets, a label with a hyphen and an
opening bracket, mixed closing brackets, and blanks that hold line feeds, a line separator and
an ideographic space. -/
theorem Statement.ofLine?_written_brackets :
    ofLine? (" " ++ "A->B" ++ "\n" ++ "-" ++ "" ++ "[(" ++ "\u2028" ++ "x-(y" ++ "" ++ ")]" ++
        " \n" ++ "-->" ++ "" ++ "(b]<" ++ "\u3000" ++ "-" ++ "" ++ "(" ++ " " ++ "l - 2" ++
        "\t" ++ "]") =
      some ⟨⟨"A->B", some ⟨"[(", "x-(y"⟩⟩, ⟨"(b]<", some ⟨"(", "l - 2"⟩⟩, .forward⟩ ∧
    ofLine? (" " ++ "A->B" ++ "\n" ++ "-->" ++ "" ++ "(b]<" ++ "\u3000" ++ "-" ++ "" ++ "(" ++
        " " ++ "l - 2" ++ "\t" ++ "]") =
      some ⟨⟨"A->B", none⟩, ⟨"(b]<", some ⟨"(", "l - 2"⟩⟩, .forward⟩ ∧
    ofLine? (" " ++ "(b]<" ++ "\n" ++ "-" ++ "" ++ "(" ++ " " ++ "l - 2" ++ "\t" ++ "]" ++
        " \n" ++ "<--" ++ "" ++ "A->B" ++ "\u3000") =
      some ⟨⟨"A->B", none⟩, ⟨"(b]<", some ⟨"(", "l - 2"⟩⟩, .backward⟩ :=
  Statement.ofLine?_written
    ⟨⟨by decide, fun _ h => by cases h; decide, fun _ h => by cases h; decide, by decide,
      by decide⟩, by decide⟩
    ⟨⟨by decide, fun _ h => by cases h; decide, fun _ h => by cases h; decide, by decide,
      by decide⟩, by decide⟩
    ⟨⟨by decide, fun _ h => by cases h; decide, fun _ h => by cases h; decide, by decide,
      by decide⟩, by simp [Piece.isCloser], fun _ h => by cases h; decide⟩
    ⟨⟨by decide, fun _ h => by cases h; decide, fun _ h => by cases h; decide, by decide,
      by decide⟩, by simp [Piece.isCloser], fun _ h => by cases h; decide⟩
    (by decide) (by decide) (by decide) (by decide)
    (by
      simp only [List.mem_cons, List.not_mem_nil, or_false, forall_eq_or_imp, forall_eq]
      exact ⟨by decide, by decide, by decide, by decide, by decide⟩)
    (by
      simp only [List.mem_cons, List.not_mem_nil, or_false, forall_eq_or_imp, forall_eq]
      exact ⟨by decide, by decide, by decide, by decide, by decide, by decide⟩)

end Flowchart
