import Livery.Text.Alphanumeric
import Livery.Text.Casing

/-!
# Kebab case

`kebab` writes a name as lower-case words joined by `-`, e.g. `hintType` as `hint-type`. Words end
at every character that is neither letter nor number, where lower case changes to upper case
(`hint|Type`), and in front of the last capital of a run that a lower-case letter follows
(`HTML|Parser`). Numbers take on the case of the letter before them.
-/

namespace Livery.Text

/-- The case of the last letter of the word that is being read. -/
inductive WordCase
  | none
  | lower
  | upper
deriving DecidableEq

/-- The case behind one more character. -/
def WordCase.after (w : WordCase) (c : Char) : WordCase :=
  if isLowercase c then .lower else if isUppercase c then .upper else w

/-- The maximal runs of letters and numbers; `current` is the run that is being read, in reverse. -/
def runs : List Char → List Char → List (List Char)
  | current, [] => if current.isEmpty then [] else [current.reverse]
  | current, c :: rest =>
    if isAlphanumeric c then runs (c :: current) rest
    else if current.isEmpty then runs [] rest
    else current.reverse :: runs [] rest

/-- The words of one run; `current` is the word that is being read, in reverse. -/
def segments : WordCase → List Char → List Char → List (List Char)
  | _, current, [] => if current.isEmpty then [] else [current.reverse]
  | _, current, [c] => [(c :: current).reverse]
  | w, current, c :: next :: rest =>
    if w.after c = .lower ∧ isUppercase next then
      (c :: current).reverse :: segments .none [] (next :: rest)
    else if w = .upper ∧ isUppercase c ∧ isLowercase next then
      current.reverse :: segments .none [c] (next :: rest)
    else segments (w.after c) (c :: current) (next :: rest)

/-- A word in lower case; a capital sigma at its end becomes the final form. -/
def lowerWord : List Char → List Char
  | [] => []
  | ['Σ'] => ['ς']
  | c :: rest => lowerChar c ++ lowerWord rest

/-- A name in kebab case. -/
def kebab (s : String) : String :=
  "-".intercalate (((runs [] s.toList).flatMap (segments .none [])).map
    fun word => String.ofList (lowerWord word))

end Livery.Text
