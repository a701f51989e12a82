import QueryPlayground.Page.Html
import QueryPlayground.Text.Blank
import QueryPlayground.Text.Digit
import QueryPlayground.Text.Word

/-!
Lexical highlighting of JSON texts. The text is split into tokens from left to right; keys, strings,
booleans, nulls and numbers are tagged, and all between them passes through untouched. It need not be
valid JSON, and the token texts always join to the whole of it.
-/
namespace QueryPlayground.Highlight

/-- What a tagged token shows. -/
inductive Kind where
  | key
  | string
  | boolean
  | null
  | number
  deriving DecidableEq, Repr

/-- The class under which a style sheet finds the tokens of a kind. -/
def Kind.cssClass : Kind → String
  | .key => "json-key"
  | .string => "json-string"
  | .boolean => "json-boolean"
  | .null => "json-null"
  | .number => "json-number"

structure Token where
  text : List Char
  kind : Option Kind
  deriving DecidableEq, Repr

/-- Letters and digits of ASCII, which may stand in the code of an escape. -/
def isCodeChar (c : Char) : Bool :=
  ('0' ≤ c && c ≤ '9') || ('a' ≤ c && c ≤ 'z') || ('A' ≤ c && c ≤ 'Z')

/-- How far the string that has just been opened reaches, its closing mark included. An escape is a
backslash with one character, or with a `u` and its code of four. -/
def stringReach? : List Char → Option Nat
  | [] => none
  | '"' :: _ => some 1
  | '\\' :: 'u' :: a :: b :: c :: d :: rest =>
    if isCodeChar a && isCodeChar b && isCodeChar c && isCodeChar d then
      (stringReach? rest).map (· + 6)
    else none
  | '\\' :: 'u' :: _ => none
  | '\\' :: _ :: rest => (stringReach? rest).map (· + 2)
  | ['\\'] => none
  | _ :: rest => (stringReach? rest).map (· + 1)

/-- How far a colon reaches that may follow a string after white space; zero when there is none. -/
def colonReach (s : List Char) : Nat :=
  match s.dropWhile Text.isBlank with
  | ':' :: _ => (s.takeWhile Text.isBlank).length + 1
  | _ => 0

/-- How far a row of digits reaches. -/
def digitReach (s : List Char) : Nat := (s.takeWhile Text.isDigit).length

/-- How far a point and the digits after it reach. -/
def fractionReach : List Char → Nat
  | '.' :: rest => digitReach rest + 1
  | _ => 0

/-- How far an `e`, its sign and its digits reach; without a digit they do not count. -/
def exponentReach : List Char → Nat
  | c :: rest =>
    if c = 'e' ∨ c = 'E' then
      let sign := match rest with
        | '+' :: _ => 1
        | '-' :: _ => 1
        | _ => 0
      let digits := digitReach (rest.drop sign)
      if digits = 0 then 0 else digits + sign + 1
    else 0
  | [] => 0

/-- How far the fraction and the exponent after the digits of a number reach. -/
def afterDigitsReach (s : List Char) : Nat :=
  let fraction := fractionReach s
  fraction + exponentReach (s.drop fraction)

/-- The rest of `true`, `false` or `null` after its first letter. -/
def wordTail? (c : Char) : Option (List Char) :=
  if c = 't' then some ['r', 'u', 'e']
  else if c = 'f' then some ['a', 'l', 's', 'e']
  else if c = 'n' then some ['u', 'l', 'l']
  else none

/-- Whether a text starts with a word character. -/
def startsWord : List Char → Bool
  | c :: _ => Text.isWord c
  | [] => false

/-- The number of characters with which a tagged token goes on after `c`, if one starts there.
`afterWord` tells whether a word character stands just before `c`; the three words count only when
they stand alone. -/
def tagReach? (afterWord : Bool) (c : Char) (rest : List Char) : Option Nat :=
  if c = '"' then
    (stringReach? rest).map fun n => n + colonReach (rest.drop n)
  else if c = '-' then
    let n := digitReach rest
    if n = 0 then none else some (n + afterDigitsReach (rest.drop n))
  else if Text.isDigit c then
    let n := digitReach rest
    some (n + afterDigitsReach (rest.drop n))
  else
    match wordTail? c with
    | some tail =>
      if !afterWord && tail.isPrefixOf rest && !startsWord (rest.drop tail.length) then
        some tail.length
      else none
    | none => none

/-- The kind of a tagged token, by its first and last characters. -/
def classify (text : List Char) : Kind :=
  if text.head? = some '"' then (if text.getLast? = some ':' then .key else .string)
  else if text = ['t', 'r', 'u', 'e'] ∨ text = ['f', 'a', 'l', 's', 'e'] then .boolean
  else if text = ['n', 'u', 'l', 'l'] then .null
  else .number

/-- Puts an untagged character in front, into the first token if that is untagged too. -/
def consPlain (c : Char) : List Token → List Token
  | ⟨text, none⟩ :: rest => ⟨c :: text, none⟩ :: rest
  | tokens => ⟨[c], none⟩ :: tokens

/-- Whether the last character of a token is a word character. -/
def endsWord (text : List Char) : Bool := text.getLast?.any Text.isWord

/-- The tokens of a text, given whether a word character stands before it. -/
def tokensFrom (afterWord : Bool) : List Char → List Token
  | [] => []
  | c :: rest =>
    match tagReach? afterWord c rest with
    | some n =>
      let text := c :: rest.take n
      ⟨text, some (classify text)⟩ :: tokensFrom (endsWord text) (rest.drop n)
    | none => consPlain c (tokensFrom (Text.isWord c) rest)
termination_by s => s.length
decreasing_by
  · simp only [List.length_drop, List.length_cons]; omega
  · simp

def tokens (text : List Char) : List Token := tokensFrom false text

/-- A token as a fragment: tagged tokens stand in a span of their class. -/
def Token.toHtml (token : Token) : Html :=
  match token.kind with
  | none => Html.escape token.text
  | some kind =>
    "<span class=\"" ++ kind.cssClass ++ "\">" ++ Html.escape token.text ++ "</span>"

/-- The highlighted text. -/
def highlight (text : List Char) : Html := (tokens text).flatMap Token.toHtml

end QueryPlayground.Highlight
