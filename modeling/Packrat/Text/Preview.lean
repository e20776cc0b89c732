/-!
# Previews of a text

A preview shows the beginning of a text and marks that there is more.
-/

namespace Packrat.Text

/-- The first `limit` characters followed by `suffix` when the text is longer
than that, and the text itself otherwise. With no room at all only the suffix
is left, even of an empty text. -/
def truncateChars (text : List Char) (limit : Nat) (suffix : List Char) : List Char :=
  if limit = 0 then suffix
  else if limit < text.length then text.take limit ++ suffix
  else text

/-- `truncateChars` on strings. -/
def truncate (s : String) (limit : Nat) (suffix : String) : String :=
  String.ofList (truncateChars s.toList limit suffix.toList)

end Packrat.Text
