namespace TieredRates.Text

def splitFirst (c : Char) (s : List Char) : List Char × Option (List Char) :=
  match s.dropWhile (· ≠ c) with
  | [] => (s, none)
  | _ :: rest => (s.takeWhile (· ≠ c), some rest)

def splitAll (c : Char) : List Char → List (List Char)
  | [] => [[]]
  | d :: s =>
    if d = c then [] :: splitAll c s
    else match splitAll c s with
      | part :: parts => (d :: part) :: parts
      | [] => [[d]]

def behind? (front s : List Char) : Option (List Char) :=
  if s.take front.length = front then some (s.drop front.length) else none

def dropRepeated (front : List Char) : List Char → List Char
  | [] => []
  | c :: s =>
    if (c :: s).take front.length = front then dropRepeated front (s.drop (front.length - 1))
    else c :: s
termination_by s => s.length
decreasing_by
  rw [List.length_drop, List.length_cons]
  omega

end TieredRates.Text
