/-!
# Similar texts

How close two texts are, and which of a few candidates are close to a word.

Two texts are matched block by block: the longest common block is taken, the leftmost in the
first text and then the leftmost in the second if there are several, and the parts before it and
after it are matched the same way. The similarity is twice the number of matched characters over
the total length of the two texts. The candidates close to a word are those whose similarity to
it is at least 3/5; of them the three closest are kept, a tie going to the candidate that comes
later in code-point order.
-/

namespace Flowchart.Text

def commonPrefixLength : List Char → List Char → Nat
  | a :: as, b :: bs => if a == b then commonPrefixLength as bs + 1 else 0
  | _, _ => 0

/-- The longest common block of `a` and `b` as its start in each and its length; among the
longest, the leftmost in `a` and then in `b`. Its length is 0 when they share no character. -/
def longestBlock (a b : List Char) : Nat × Nat × Nat :=
  (List.range a.length).foldl
    (fun best i =>
      (List.range b.length).foldl
        (fun best j =>
          let k := commonPrefixLength (a.drop i) (b.drop j)
          if k > best.2.2 then (i, j, k) else best)
        best)
    (0, 0, 0)

def matchedWithin : Nat → List Char → List Char → Nat
  | 0, _, _ => 0
  | fuel + 1, a, b =>
    let (i, j, k) := longestBlock a b
    if k = 0 then 0
    else
      matchedWithin fuel (a.take i) (b.take j) + k +
        matchedWithin fuel (a.drop (i + k)) (b.drop (j + k))

/-- The number of characters matched block by block. Both sides of a block are shorter than
`a`, so blocks nest at most as deep as `a` is long. -/
def matchedCount (a b : List Char) : Nat := matchedWithin (a.length + 1) a b

def codeLE : List Char → List Char → Bool
  | [], _ => true
  | _ :: _, [] => false
  | c :: a, d :: b => c.toNat < d.toNat || (c.toNat == d.toNat && codeLE a b)

/-- The candidates close to a word, at most three, the closest first. -/
def closeMatches (word : String) (candidates : List String) : List String :=
  let w := word.toList
  let scored := candidates.filterMap fun c =>
    let m := matchedCount c.toList w
    let total := c.toList.length + w.length
    if 3 * total ≤ 10 * m then some (c, m, total) else none
  let ranked := scored.mergeSort fun x y =>
    y.2.1 * x.2.2 < x.2.1 * y.2.2 || (x.2.1 * y.2.2 == y.2.1 * x.2.2 && codeLE y.1.toList x.1.toList)
  (ranked.take 3).map (·.1)

end Flowchart.Text
