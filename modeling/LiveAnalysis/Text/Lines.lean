namespace LiveAnalysis.Text

/--
The lines of a text. A line ends at a line feed, and a carriage return right before that line feed
belongs to the line end. Text after the last line feed is one more line, unless it is empty.
-/
def lines : List Char → List (List Char)
  | [] => []
  | '\n' :: rest => [] :: lines rest
  | '\r' :: '\n' :: rest => [] :: lines rest
  | c :: rest =>
    match lines rest with
    | [] => [[c]]
    | line :: more => (c :: line) :: more

end LiveAnalysis.Text
