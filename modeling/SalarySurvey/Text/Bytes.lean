/-!
# Parts of texts by bytes

Parts of a text whose ends are counted in bytes of UTF-8. An end that would lie inside a character
gives no part.
-/
namespace SalarySurvey.Text

/-- The part of a text before a number of bytes. -/
def takeBytes? : Nat → List Char → Option (List Char)
  | 0, _ => some []
  | _ + 1, [] => none
  | count + 1, c :: rest =>
    if count + 1 < c.utf8Size then none
    else (takeBytes? (count + 1 - c.utf8Size) rest).map (c :: ·)

/-- The part of a text behind a number of bytes. -/
def dropBytes? : Nat → List Char → Option (List Char)
  | 0, text => some text
  | _ + 1, [] => none
  | count + 1, c :: rest =>
    if count + 1 < c.utf8Size then none else dropBytes? (count + 1 - c.utf8Size) rest

end SalarySurvey.Text
