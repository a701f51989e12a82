/-!
How similar two texts are. The longest run that both share is matched first, then what is to the left of
it and what is to the right, and so on; the measure compares the matched characters with all of them.
-/
namespace QueryPlayground.Text

/-- The length of the longest text with which both texts begin. -/
def sharedLead : List Char → List Char → Nat
  | a :: s, b :: t => if a = b then sharedLead s t + 1 else 0
  | _, _ => 0

/-- A run that two texts share: where it begins in each, and its length. -/
structure Run where
  left : Nat
  right : Nat
  length : Nat
  deriving DecidableEq, Repr

/-- The longest shared run; of several the first in the left text, and then the first in the right. -/
def longestRun (s t : List Char) : Run :=
  (List.range s.length).foldl (fun best i =>
    (List.range t.length).foldl (fun best j =>
      let length := sharedLead (s.drop i) (t.drop j)
      if best.length < length then ⟨i, j, length⟩ else best) best) ⟨0, 0, 0⟩

/-- The number of matched characters. -/
def matchedChars : Nat → List Char → List Char → Nat
  | 0, _, _ => 0
  | fuel + 1, s, t =>
    let run := longestRun s t
    if run.length = 0 then 0
    else
      matchedChars fuel (s.take run.left) (t.take run.right) + run.length +
        matchedChars fuel (s.drop (run.left + run.length)) (t.drop (run.right + run.length))

/-- The similarity of two texts as a fraction: matched characters in both over all characters. -/
structure Similarity where
  matched : Nat
  total : Nat
  deriving DecidableEq, Repr

def similarity (s t : List Char) : Similarity :=
  ⟨2 * matchedChars (s.length + 1) s t, s.length + t.length⟩

def Similarity.le (a b : Similarity) : Bool := a.matched * b.total ≤ b.matched * a.total

/-- Texts as similar as this are suggested in place of an unknown one. -/
def leastSimilarity : Similarity := ⟨3, 5⟩

/-- At most this many are suggested. -/
def maxSuggestions : Nat := 3

/-- The texts most similar to a word, in alphabetical order. -/
def suggestions (word : String) (known : List String) : List String :=
  let rated := known.map fun name => (similarity name.toList word.toList, name)
  let close := rated.filter fun (rate, _) => leastSimilarity.le rate
  let before (a b : Similarity × String) : Bool :=
    !(a.1.le b.1) || (b.1.le a.1 && b.2 ≤ a.2)
  (((close.mergeSort before).take maxSuggestions).map (·.2)).mergeSort fun a b => a ≤ b

end QueryPlayground.Text
