import QueryPlayground.Text.Blank
import QueryPlayground.Text.Lowercase
import QueryPlayground.Text.Picture.Flag
import QueryPlayground.Text.Picture.Person
import QueryPlayground.Text.Picture.Thing

/-!
Named pictures: a known name between two colons stands for a picture. The name may end in a form, which asks
for a picture in colour or for one in the manner of a letter.
-/
namespace QueryPlayground.Text.Picture

def named? (name : String) : Option (List Char) :=
  flag? name <|> person? name <|> (things.lookup name).map String.toList

/-- The ends that ask for a form, and the marks that choose it. -/
def forms : List (String × Char) := [("-emoji", '\ufe0f'), ("-text", '\ufe0e')]

/-- The picture for what stands between two colons, in letters of any case. -/
def shown? (code : List Char) : Option (List Char) :=
  match forms.find? fun form => form.1.toList.isSuffixOf code with
  | some (ending, mark) =>
    (named? (String.ofList (lowerChars (code.take (code.length - ending.length))))).map (· ++ [mark])
  | none => named? (String.ofList (lowerChars code))

end QueryPlayground.Text.Picture

namespace QueryPlayground.Text

/-- A text with pictures for their names. A colon belongs to one name only, whether it is known or not. -/
def pictured (s : List Char) : List Char :=
  match s with
  | [] => []
  | c :: rest =>
    if c = ':' then
      let code := rest.takeWhile fun d => d != ':' && !isBlank d
      match _h : rest.drop code.length with
      | ':' :: after => (Picture.shown? code).getD (':' :: code ++ [':']) ++ pictured after
      | _ => ':' :: pictured rest
    else c :: pictured rest
termination_by s.length
decreasing_by
  · have hLength := congrArg List.length _h
    simp only [List.length_drop, List.length_cons] at hLength ⊢
    omega
  · simp
  · simp

end QueryPlayground.Text
