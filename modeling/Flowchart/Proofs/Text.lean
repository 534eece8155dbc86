import Mathlib
import Flowchart.Command

/-!
# Text helpers of the command

The command reads its chart text in text mode and writes everything through streams that drop
terminal control sequences. Text mode leaves no carriage return behind, and captured output read
back with its pairs joined is unchanged (`joinLineEnds_unifyLineEnds`); a stream keeps text with
no escape character as it is and drops a control sequence whole, keeping what surrounds it
(`stripStyles_sequence`).

A JSON string literal is printable ASCII between quotes (`Json.quote_printable`); among the
ASCII characters exactly the printable ones are shown as they are in a quoted value
(`isPrintable_iff_of_lt`). Every integer of at most `maxDigits` digits, written in decimal,
reads back as itself (`readInt?_toString`), and the suggestions for a mistyped option are at most
three of the candidates, each above the similarity threshold (`closeMatches_spec`).
-/

namespace Flowchart.Text

/-! ## Line ends -/

theorem not_mem_unifyLineEnds (cs : List Char) : '\r' ∉ unifyLineEnds cs := by
  fun_induction unifyLineEnds cs with
  | case1 cs ih | case2 cs _ ih => exact List.not_mem_cons_of_ne_of_not_mem (by decide) ih
  | case3 c cs _ hc ih => exact List.not_mem_cons_of_ne_of_not_mem (fun h => hc h.symm) ih
  | case4 => exact List.not_mem_nil

theorem unifyLineEnds_of_not_mem {cs : List Char} (h : '\r' ∉ cs) : unifyLineEnds cs = cs := by
  fun_induction unifyLineEnds cs with
  | case1 cs ih | case2 cs _ ih => exact absurd List.mem_cons_self h
  | case3 c cs _ hc ih => rw [ih fun hr => h (List.mem_cons_of_mem c hr)]
  | case4 => rfl

theorem joinLineEnds_of_not_mem {cs : List Char} (h : '\r' ∉ cs) : joinLineEnds cs = cs := by
  fun_induction joinLineEnds cs with
  | case1 cs ih => exact absurd List.mem_cons_self h
  | case2 c cs _ ih => rw [ih fun hr => h (List.mem_cons_of_mem c hr)]
  | case3 => rfl

theorem joinLineEnds_unifyLineEnds (cs : List Char) :
    joinLineEnds (unifyLineEnds cs) = unifyLineEnds cs :=
  joinLineEnds_of_not_mem (not_mem_unifyLineEnds cs)

example : unifyLineEnds "a\r\nb\rc\n".toList = "a\nb\nc\n".toList := by decide

/-! ## Terminal styles -/

/-- A parameter byte is neither a final nor an intermediate byte. -/
theorem isParameterByte_not_final {c : Char} (h : isParameterByte c = true) :
    isFinalByte c = false ∧ isIntermediateByte c = false := by
  simp only [isParameterByte, isFinalByte, isIntermediateByte, Bool.and_eq_true,
    decide_eq_true_eq] at h ⊢
  simp only [Bool.and_eq_false_iff, decide_eq_false_iff_not]
  omega

theorem stripStylesFrom_append_of_not_mem {pre : List Char} (h : '\x1b' ∉ pre)
    (cs : List Char) : stripStylesFrom [] (pre ++ cs) = pre ++ stripStylesFrom [] cs := by
  induction pre with
  | nil => rfl
  | cons c pre ih =>
      simp only [List.mem_cons, not_or] at h
      simp [stripStylesFrom, styleStep, startWith, Ne.symm h.1, ih h.2]

theorem stripStyles_of_not_mem {cs : List Char} (h : '\x1b' ∉ cs) : stripStyles cs = cs := by
  have happend := stripStylesFrom_append_of_not_mem h []
  have hnil : stripStylesFrom [] [] = [] := rfl
  rw [List.append_nil, hnil, List.append_nil] at happend
  exact happend

theorem stripStylesFrom_parameters {last : Char} {held ps rest : List Char} {f : Char}
    (hlast : isIntermediateByte last = false) (hheld : held ≠ [])
    (hps : ∀ p ∈ ps, isParameterByte p = true) (hf : isFinalByte f = true) :
    stripStylesFrom (last :: held) (ps ++ f :: rest) = stripStylesFrom [] rest := by
  induction ps generalizing last held with
  | nil =>
      obtain ⟨h, t, rfl⟩ := List.exists_cons_of_ne_nil hheld
      simp [stripStylesFrom, styleStep, hf]
  | cons p ps ih =>
      obtain ⟨h, t, rfl⟩ := List.exists_cons_of_ne_nil hheld
      have hp := hps p List.mem_cons_self
      obtain ⟨hnotFinal, hnotIntermediate⟩ := isParameterByte_not_final hp
      simp [stripStylesFrom, styleStep, hnotFinal, hnotIntermediate, hp, hlast]
      exact ih hnotIntermediate (List.cons_ne_nil _ _)
        fun q hq => hps q (List.mem_cons_of_mem p hq)

/-- A control sequence of parameter bytes and a final byte is removed whole, and the text
around it is kept. -/
theorem stripStyles_sequence {pre ps rest : List Char} {f : Char} (hpre : '\x1b' ∉ pre)
    (hps : ∀ p ∈ ps, isParameterByte p = true) (hf : isFinalByte f = true) :
    stripStyles (pre ++ '\x1b' :: '[' :: (ps ++ f :: rest)) = pre ++ stripStyles rest := by
  rw [stripStyles, stripStylesFrom_append_of_not_mem hpre, stripStyles]
  congr 1
  simp only [stripStylesFrom, styleStep, startWith]
  exact stripStylesFrom_parameters (by decide) (List.cons_ne_nil _ _) hps hf

example : stripStyles "\x1b[1;31mred\x1b[0m \x1b[12\x1b[m!".toList = "red \x1b[12!".toList := by
  decide

/-! ## JSON strings -/

namespace Json

theorem hexDigit_printable (n : Nat) :
    0x20 ≤ (hexDigit n).toNat ∧ (hexDigit n).toNat ≤ 0x7E := by
  have hdigits : ∀ k < 16, 0x20 ≤ (Nat.digitChar k).toNat ∧ (Nat.digitChar k).toNat ≤ 0x7E := by
    decide
  exact hdigits (n % 16) (Nat.mod_lt n (by decide))

theorem unitEscape_printable (u : Nat) :
    ∀ c ∈ unitEscape u, 0x20 ≤ c.toNat ∧ c.toNat ≤ 0x7E := by
  intro c hc
  simp only [unitEscape, List.mem_cons, List.not_mem_nil, or_false] at hc
  rcases hc with rfl | rfl | rfl | rfl | rfl | rfl
  · decide
  · decide
  all_goals exact hexDigit_printable _

theorem escapeChar_printable (c : Char) :
    ∀ d ∈ escapeChar c, 0x20 ≤ d.toNat ∧ d.toNat ≤ 0x7E := by
  unfold escapeChar
  split
  any_goals
    simp only [List.forall_mem_cons, List.not_mem_nil, IsEmpty.forall_iff, implies_true, and_true]
    decide
  split_ifs with hprint hunit
  · intro d hd
    rw [List.mem_singleton] at hd
    rw [hd]
    exact hprint
  · exact unitEscape_printable _
  · intro d hd
    rcases List.mem_append.mp hd with hd | hd
    · exact unitEscape_printable _ d hd
    · exact unitEscape_printable _ d hd

/-- A string literal is printable ASCII, between quotes: whatever the string holds is escaped. -/
theorem quote_printable (s : String) :
    (quote s).toList.head? = some '"' ∧ (quote s).toList.getLast? = some '"' ∧
      ∀ c ∈ (quote s).toList, 0x20 ≤ c.toNat ∧ c.toNat ≤ 0x7E := by
  have hq : (quote s).toList = '"' :: (s.toList.flatMap escapeChar ++ ['"']) :=
    String.toList_ofList
  rw [hq]
  refine ⟨rfl, ?_, fun c hc => ?_⟩
  · rw [List.getLast?_cons, List.getLast?_concat]
    rfl
  simp only [List.mem_cons, List.mem_append, List.mem_flatMap, List.not_mem_nil, or_false] at hc
  rcases hc with rfl | ⟨e, -, hc⟩ | rfl
  · decide
  · exact escapeChar_printable e c hc
  · decide

example : quote (String.ofList ['a', '"', '\u00e9', Char.ofNat 0x1F600]) =
    "\"a\\\"\\u00e9\\ud83d\\ude00\"" := by
  decide

end Json

/-! ## Printable characters -/

theorem unprintableRanges_eq :
    unprintableRanges = (0x0000, 0x001F) :: (0x007F, 0x00A0) :: unprintableRanges.drop 2 := rfl

set_option maxRecDepth 4096 in
theorem le_fst_of_mem_drop : ∀ r ∈ unprintableRanges.drop 2, 0x80 ≤ r.1 := by
  decide

/-- Among the ASCII characters, those shown as they are are the printable ones, space to `~`. -/
theorem isPrintable_iff_of_lt {c : Char} (h : c.toNat < 0x80) :
    isPrintable c = true ↔ 0x20 ≤ c.toNat ∧ c.toNat ≤ 0x7E := by
  have hrest : (unprintableRanges.drop 2).any (fun r => r.1 ≤ c.toNat && c.toNat ≤ r.2) = false :=
    List.any_eq_false.mpr fun r hr => by
      have := le_fst_of_mem_drop r hr
      simp only [Bool.and_eq_true, decide_eq_true_eq, not_and, not_le]
      omega
  rw [isPrintable, unprintableRanges_eq, List.any_cons, List.any_cons, hrest]
  simp only [Bool.or_false, Bool.not_or, Bool.and_eq_true, Bool.not_eq_true', Bool.and_eq_false_iff,
    decide_eq_false_iff_not, not_le]
  omega

/-! ## Integer text -/

theorem isDigit_of_mem_toDigits_ten {n : Nat} {c : Char} (hc : c ∈ Nat.toDigits 10 n) :
    c.isDigit = true :=
  Nat.isDigit_of_mem_toDigits (by decide) (by decide) hc

theorem groupedDigits?_toDigits (n : Nat) (h : (Nat.toDigits 10 n).length ≤ maxDigits) :
    groupedDigits? (Nat.toDigits 10 n) = some n := by
  have hsplit := List.splitOn_eq_singleton (Nat.underscore_not_in_toDigits (n := n))
  have hdigits : (Nat.toDigits 10 n).all Char.isDigit = true :=
    List.all_eq_true.mpr fun c hc => isDigit_of_mem_toDigits_ten hc
  have hne : (Nat.toDigits 10 n).isEmpty = false :=
    List.isEmpty_eq_false_iff.mpr Nat.toDigits_ne_nil
  simp only [groupedDigits?, hsplit, List.all_cons, List.all_nil, hne, hdigits, List.flatten_cons,
    List.flatten_nil, List.append_nil, h]
  simp only [Bool.not_false, Bool.and_self, decide_true, ↓reduceIte, Option.some.injEq]
  exact Nat.ofDigitChars_ten_toDigits

theorem toNat_le_of_isDigit {c : Char} (h : c.isDigit = true) : 48 ≤ c.toNat ∧ c.toNat ≤ 57 := by
  simp only [Char.isDigit, Bool.and_eq_true, decide_eq_true_eq] at h
  exact ⟨h.1, h.2⟩

theorem isAsciiSpace_of_isDigit {c : Char} (h : c.isDigit = true) : isAsciiSpace c = false := by
  have hc := toNat_le_of_isDigit h
  simp only [isAsciiSpace, Bool.or_eq_false_iff, beq_eq_false_iff_ne]
  refine ⟨⟨⟨⟨⟨?_, ?_⟩, ?_⟩, ?_⟩, ?_⟩, ?_⟩ <;> rintro rfl <;> simp at hc

theorem dropWhile_of_head? {p : Char → Bool} {cs : List Char} (h : ∀ c ∈ cs.head?, p c = false) :
    cs.dropWhile p = cs := by
  cases cs with
  | nil => rfl
  | cons c cs => simp [h c rfl]

theorem trim_of_ends {cs : List Char} (hhead : ∀ c ∈ cs.head?, isAsciiSpace c = false)
    (hlast : ∀ c ∈ cs.getLast?, isAsciiSpace c = false) :
    ((cs.dropWhile isAsciiSpace).reverse.dropWhile isAsciiSpace).reverse = cs := by
  rw [dropWhile_of_head? hhead, dropWhile_of_head? (by simpa using hlast), List.reverse_reverse]

theorem mapM_asciiNumeral? {cs : List Char} (h : ∀ c ∈ cs, c.toNat < 0x7F) :
    cs.mapM asciiNumeral? = some cs := by
  induction cs with
  | nil => rfl
  | cons c cs ih =>
      have hc : asciiNumeral? c = some c := by simp [asciiNumeral?, h c List.mem_cons_self]
      rw [List.mapM_cons, hc, ih fun d hd => h d (List.mem_cons_of_mem c hd)]
      rfl

theorem readAsciiInt?_toDigits {m : Nat} (h : (Nat.toDigits 10 m).length ≤ maxDigits) :
    readAsciiInt? (Nat.toDigits 10 m) = some (m : Int) ∧
      readAsciiInt? ('-' :: Nat.toDigits 10 m) = some (-(m : Int)) := by
  obtain ⟨d, rest, hds⟩ := List.exists_cons_of_ne_nil (Nat.toDigits_ne_nil (b := 10) (n := m))
  have hd : d.isDigit = true := isDigit_of_mem_toDigits_ten (hds ▸ List.mem_cons_self)
  have hlast : ∀ c ∈ (Nat.toDigits 10 m).getLast?, isAsciiSpace c = false :=
    fun c hc => isAsciiSpace_of_isDigit (isDigit_of_mem_toDigits_ten (List.mem_of_getLast? hc))
  have hgroups := groupedDigits?_toDigits m h
  have hsign : d ≠ '-' ∧ d ≠ '+' := by
    have := toNat_le_of_isDigit hd
    constructor <;> rintro rfl <;> simp at this
  constructor
  · rw [readAsciiInt?, trim_of_ends (by rw [hds]; simpa using isAsciiSpace_of_isDigit hd) hlast]
    rw [hds] at hgroups ⊢
    split
    · rename_i heq
      exact absurd (List.cons.inj heq).1 hsign.1
    · rename_i heq
      exact absurd (List.cons.inj heq).1 hsign.2
    · rw [hgroups]
      rfl
  · rw [readAsciiInt?, trim_of_ends (by simp [isAsciiSpace])
      (by rw [hds, List.getLast?_cons_cons, ← hds]; exact hlast)]
    simp [hgroups]

/-- Every integer written in decimal with at most `maxDigits` digits reads back as itself. -/
theorem readInt?_toString (n : Int) (h : (Nat.toDigits 10 n.natAbs).length ≤ maxDigits) :
    readInt? (toString n) = some n := by
  have hascii : ∀ m, ∀ c ∈ Nat.toDigits 10 m, c.toNat < 0x7F := fun m c hc => by
    have := toNat_le_of_isDigit (isDigit_of_mem_toDigits_ten hc)
    omega
  cases n with
  | ofNat m =>
      have htext : (toString (Int.ofNat m)).toList = Nat.toDigits 10 m := String.toList_ofList
      rw [readInt?, htext, mapM_asciiNumeral? (hascii m), Option.bind_some]
      exact (readAsciiInt?_toDigits h).1
  | negSucc m =>
      have htext : (toString (Int.negSucc m)).toList = '-' :: Nat.toDigits 10 (m + 1) := by
        show ("-" ++ String.ofList (Nat.toDigits 10 (m + 1))).toList = _
        simp only [String.toList_append, String.toList_ofList]
        rfl
      have hminus : ∀ c ∈ '-' :: Nat.toDigits 10 (m + 1), c.toNat < 0x7F := by
        intro c hc
        rcases List.mem_cons.mp hc with rfl | hc
        · decide
        · exact hascii _ c hc
      have hdigits : (Nat.toDigits 10 (m + 1)).length ≤ maxDigits := h
      rw [readInt?, htext, mapM_asciiNumeral? hminus, Option.bind_some,
        (readAsciiInt?_toDigits hdigits).2, Int.negSucc_eq]
      rfl

/-! ## Close matches -/

/-- The suggestions for a word are at most three candidates, each as close to the word as the
threshold asks: twice its matched characters are at least 3/5 of the two lengths together. -/
theorem closeMatches_spec (word : String) (candidates : List String) :
    (closeMatches word candidates).length ≤ 3 ∧
      ∀ c ∈ closeMatches word candidates, c ∈ candidates ∧
        3 * (c.toList.length + word.toList.length) ≤ 10 * matchedCount c.toList word.toList := by
  unfold closeMatches
  refine ⟨by simp, fun c hc => ?_⟩
  obtain ⟨x, hx, rfl⟩ := List.mem_map.mp hc
  have hranked := List.mem_of_mem_take hx
  rw [List.mem_mergeSort] at hranked
  obtain ⟨c', hc', hsome⟩ := List.mem_filterMap.mp hranked
  simp only at hsome
  split at hsome
  · cases hsome
    exact ⟨hc', ‹_›⟩
  · cases hsome

end Flowchart.Text
