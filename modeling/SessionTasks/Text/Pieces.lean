/-
# Pieces of a text

A text is cut at every occurrence of one character.
-/
namespace SessionTasks.Text

/-- Cuts a text at every `separator`. -/
def cutAt (separator : Char) : List Char → List (List Char)
  | [] => [[]]
  | c :: rest =>
    if c = separator then [] :: cutAt separator rest
    else match cutAt separator rest with
      | [] => [[c]]
      | piece :: pieces => (c :: piece) :: pieces

/-- The pieces of a text between commas. -/
def commaPieces (text : String) : List String := (cutAt ',' text.toList).map String.ofList

end SessionTasks.Text
