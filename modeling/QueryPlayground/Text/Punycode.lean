/-!
Punycode: the characters of a text outside ASCII, written with letters and digits behind the others. Each
of them is the number of insertions, of a smaller character or at an earlier place, that come between the
last one and it. Numbers are written to base 36, the lowest digit first, and how large their last digits
may be adapts to the numbers before.
-/
namespace QueryPlayground.Text.Punycode

def base : Nat := 36

/-- The first code outside ASCII. -/
def firstCode : Nat := 0x80

/-- From this value on, the digit at a place is not the last one. -/
def threshold (bias place : Nat) : Nat := min 26 (max 1 (base * (place + 1) - bias))

theorem threshold_pos (bias place : Nat) : 0 < threshold bias place := by
  unfold threshold
  omega

/-- The digit of a value: a letter, or a decimal digit after the letters. -/
def digit (n : Nat) : Char := Char.ofNat (if n < 26 then 97 + n else 22 + n)

/-- The value of a digit; capitals are no digits. -/
def digitValue? (c : Char) : Option Nat :=
  if 'a' ≤ c ∧ c ≤ 'z' then some (c.toNat - 97)
  else if '0' ≤ c ∧ c ≤ '9' then some (c.toNat - 22)
  else none

/-- Scales a number down; what remains is below the largest bias of a place. -/
def scaledBias (n : Nat) : Nat :=
  if 455 < n then base + scaledBias (n / 35) else base * n / (n + 38)
termination_by n

/-- The bias after a number, when so many characters are in place. -/
def adapt (n count : Nat) (first : Bool) : Nat :=
  let n := if first then n / 700 else n / 2
  scaledBias (n + n / count)

def firstBias : Nat := 72

/-! ## Writing -/

/-- The digits of a number from a place on. -/
def writeNumber (bias place n : Nat) : List Char :=
  let low := threshold bias place
  if n < low then [digit n]
  else
    digit (low + (n - low) % (base - low)) :: writeNumber bias (place + 1) ((n - low) / (base - low))
termination_by n
decreasing_by
  have hPos := threshold_pos bias place
  have hLe := Nat.div_le_self (n - threshold bias place) (base - threshold bias place)
  omega

/-- What has been written, the characters in place, the bias, and the insertions since the last number. -/
structure Writing where
  written : List Char
  count : Nat
  bias : Nat
  passed : Nat

/-- Passes a character of the text while the characters of a code are written. -/
def Writing.pass (code : Nat) (w : Writing) (c : Char) : Writing :=
  if c.toNat < code then { w with passed := w.passed + 1 }
  else if c.toNat = code then
    { written := w.written ++ writeNumber w.bias 0 w.passed
      count := w.count + 1
      bias := adapt w.passed (w.count + 1) w.written.isEmpty
      passed := 0 }
  else w

/-- Writes the characters of the next code; `last` is the code before it. -/
def Writing.code (text : List Char) (step : Writing × Nat) (code : Nat) : Writing × Nat :=
  let (w, next) := step
  let w := text.foldl (pass code) { w with passed := w.passed + (code - next) * (w.count + 1) }
  ({ w with passed := w.passed + 1 }, code + 1)

/-- The codes of a text outside ASCII in their order. -/
def codes (text : List Char) : List Nat :=
  (((text.map Char.toNat).filter (firstCode ≤ ·)).eraseDups).mergeSort

def encode (text : List Char) : List Char :=
  let plain := text.filter (·.toNat < firstCode)
  let (w, _) := (codes text).foldl (Writing.code text) (⟨[], plain.length, firstBias, 0⟩, firstCode)
  (if plain.isEmpty then [] else plain ++ ['-']) ++ w.written

/-! ## Reading -/

/-- Reads a number, whose digits so far make `sum`; the next one weighs `weight`. -/
def readNumber (bias place weight sum : Nat) : List Char → Option (Nat × List Char)
  | [] => none
  | c :: rest =>
    match digitValue? c with
    | none => none
    | some d =>
      let sum := sum + d * weight
      if d < threshold bias place then some (sum, rest)
      else readNumber bias (place + 1) (weight * (base - threshold bias place)) sum rest

theorem length_lt_of_readNumber {bias place weight sum n : Nat} {s rest : List Char}
    (h : readNumber bias place weight sum s = some (n, rest)) : rest.length < s.length := by
  induction s generalizing place weight sum with
  | nil => simp [readNumber] at h
  | cons c s ih =>
    rw [readNumber] at h
    split at h
    · cases h
    · simp only at h
      split at h
      · cases h
        simp
      · have := ih h
        simp only [List.length_cons]
        omega

/-- Inserts the characters that numbers stand for. The last one of them was `code`, in front of `place`. -/
def insertAll (bias code place : Nat) (first : Bool) (text : List Char) (s : List Char) :
    Option (List Char) :=
  if s.isEmpty then some text
  else
    match h : readNumber bias 0 1 0 s with
    | none => none
    | some (n, rest) =>
      let count := text.length + 1
      let code := code + (place + n) / count
      let place := (place + n) % count
      if code.isValidChar then
        insertAll (adapt n count first) code (place + 1) false (text.insertIdx place (Char.ofNat code)) rest
      else none
termination_by s.length
decreasing_by exact length_lt_of_readNumber h

/-- The text that was encoded: the characters in front of the last hyphen are plain. -/
def decode? (s : List Char) : Option (List Char) :=
  let numbers := (s.reverse.takeWhile (· != '-')).reverse
  insertAll firstBias firstCode 0 true (s.take (s.length - numbers.length - 1)) numbers

end QueryPlayground.Text.Punycode
