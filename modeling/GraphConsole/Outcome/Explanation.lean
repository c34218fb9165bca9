import GraphConsole.Outcome.Markup
import GraphConsole.Outcome.Table
import GraphConsole.Text.Wrap

/-! Explanations on the page: paragraphs of lightly marked text, wrapped to the width of a page. -/

namespace GraphConsole.Explanation

open GraphConsole.Text

def normal (s : List Char) : List Char :=
  (unifyNewlines s).map fun c => if c.toNat = 0 then Char.ofNat 0xFFFD else c

/-- Groups lines into paragraphs; lines of blanks and tabs alone separate them. -/
def paragraphs : List (List Char) → List (List (List Char))
  | [] => []
  | line :: rest =>
      if line.all Markup.isIndent then [] :: paragraphs rest
      else match paragraphs rest with
        | [] => [[line]]
        | first :: more => (line :: first) :: more

def paragraphText (paragraph : List (List Char)) : List Char :=
  Markup.toText (trim (join ['\n'] paragraph))

def drawn (paragraph : List (List Char)) : List (List Char) :=
  (splitAt '\n' (Table.onPage (paragraphText paragraph))).flatMap fun line =>
    wrap Table.pageWidth .cut (expandTabs 0 line)

def render (markdown : String) : String :=
  let found := (paragraphs (splitAt '\n' (normal markdown.toList))).filter fun paragraph =>
    !paragraph.isEmpty
  String.ofList (Table.tidy (spaced (found.map drawn)))
where
  spaced : List (List (List Char)) → List (List Char)
    | [] => []
    | [one] => one
    | one :: rest => one ++ [] :: spaced rest

end GraphConsole.Explanation
