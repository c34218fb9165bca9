import GraphConsole.Text.Lines

/-! Paths in a normal form that does not look at any file: no empty parts, no `.`; a `..` stays. -/

namespace GraphConsole.Files

open GraphConsole.Text

inductive Anchor
  | relative
  | root
  | doubleRoot
deriving DecidableEq, Repr

namespace Anchor

def toText : Anchor → String
  | .relative => ""
  | .root => "/"
  | .doubleRoot => "//"

/-- Exactly two leading slashes are kept; any other number counts as one. -/
def ofText : List Char → Anchor
  | '/' :: '/' :: '/' :: _ => .root
  | '/' :: '/' :: _ => .doubleRoot
  | '/' :: _ => .root
  | _ => .relative

end Anchor

structure Path where
  anchor : Anchor
  parts : List String
deriving DecidableEq, Repr

namespace Path

def ofText (text : String) : Path where
  anchor := Anchor.ofText text.toList
  parts := ((splitAt '/' text.toList).map String.ofList).filter
    fun part => !(part == "" || part == ".")

/-- The empty relative path is written as a dot. -/
def toText (path : Path) : String :=
  match path.anchor, path.parts with
  | .relative, [] => "."
  | anchor, parts => anchor.toText ++ joined "/" parts

def child (path : Path) (name : String) : Path :=
  { path with parts := path.parts ++ [name] }

def holdsNul (path : Path) : Bool :=
  path.parts.any fun part => part.toList.contains '\x00'

/-- All parts but the last; a path without parts is its own parent. -/
def parent (path : Path) : Path :=
  { path with parts := path.parts.dropLast }

@[simp] theorem parts_child (path : Path) (name : String) :
    (path.child name).parts = path.parts ++ [name] := rfl

@[simp] theorem anchor_child (path : Path) (name : String) :
    (path.child name).anchor = path.anchor := rfl

@[simp] theorem parent_child (path : Path) (name : String) : (path.child name).parent = path := by
  simp [parent, child]

end Path

end GraphConsole.Files
