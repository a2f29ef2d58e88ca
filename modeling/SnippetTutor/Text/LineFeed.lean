/-!
# Line ends

A text read from outside may end its lines with a carriage return, a line feed, or the two
together; inside, lines end with a line feed.
-/

namespace SnippetTutor.Text

/-- A text whose lines end with a line feed. -/
def lineFeeds : List Char → List Char
  | [] => []
  | '\r' :: '\n' :: rest => '\n' :: lineFeeds rest
  | c :: rest => (if c == '\r' then '\n' else c) :: lineFeeds rest

end SnippetTutor.Text
