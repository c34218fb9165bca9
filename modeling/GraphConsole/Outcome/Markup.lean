import GraphConsole.Text.Blank
import GraphConsole.Text.Punctuation

/-! Lightly marked text: code between backticks, and strong or stressed text between asterisks or
underscores. Marks that have no counterpart stay in the text. -/

namespace GraphConsole.Markup

open GraphConsole.Text

/-- One mark of a run of equal ones: where the run starts, how long it is, and whether its marks
may open or close what they enclose. -/
structure Mark where
  place : Nat
  run : Nat
  sign : Char
  length : Nat
  opens : Bool
  closes : Bool
deriving DecidableEq, Repr

inductive Token
  | plain (c : Char)
  /-- A character that stands for itself, in code or behind a backslash. -/
  | fixed (c : Char)
  | mark (sign : Char) (run length : Nat) (opens closes : Bool)
  | lineEnd
  | hardEnd
deriving DecidableEq, Repr

/-- Blanks that separate words; next line and the separators of lines and paragraphs do not. -/
def isGap (c : Char) : Bool :=
  isSpace c && c.toNat != 0x85 && c.toNat != 0x2028 && c.toNat != 0x2029

/-- Whether a run of marks can open, and whether it can close, between the two characters beside
it. Inside a word, only asterisks can do either. -/
def flanks (sign before behind : Char) : Bool × Bool :=
  let left := !isGap behind
    && (!isPunctuation behind || isGap before || isPunctuation before)
  let right := !isGap before
    && (!isPunctuation before || isGap behind || isPunctuation behind)
  if sign = '*' then (left, right)
  else (left && (!right || isPunctuation before), right && (!left || isPunctuation behind))

/-- The text of code up to the first run of exactly `length` backticks, and what follows that;
`run` backticks in front have been seen. -/
def codeUpTo (length run : Nat) : List Char → Option (List Char × List Char)
  | [] => if run = length then some ([], []) else none
  | c :: rest =>
      if c = '\x60' then codeUpTo length (run + 1) rest
      else if run = length then some ([], c :: rest)
      else (codeUpTo length 0 rest).map fun (code, behind) =>
        (List.replicate run '\x60' ++ c :: code, behind)

/-- Code as it is told: on one line, and without one blank at both ends unless it is all blank. -/
def codeText (code : List Char) : List Char :=
  let code := code.map fun c => if c = '\n' then ' ' else c
  if code.head? == some ' ' && code.getLast? == some ' ' && !allBlank code then
    (code.drop 1).dropLast
  else code

def isIndent (c : Char) : Bool :=
  c == ' ' || c == '\t'

/-- Reads a text from the left; `before` is the character in front of it, and `place` counts the
tokens so far. The fuel is the length of the text. -/
def tokens : (fuel : Nat) → (before : Char) → (place : Nat) → List Char → List Token
  | 0, _, _, _ => []
  | _, _, _, [] => []
  | fuel + 1, before, place, c :: rest =>
      if c = '\x60' then
        let length := (rest.takeWhile (· == c)).length + 1
        let behind := rest.dropWhile (· == c)
        match codeUpTo length 0 behind with
        | some (code, behind) =>
            let code := (codeText code).map .fixed
            code ++ tokens fuel c (place + code.length) behind
        | none =>
            List.replicate length (.plain c) ++ tokens fuel c (place + length) behind
      else if c = '*' || c = '_' then
        let length := (rest.takeWhile (· == c)).length + 1
        let behind := rest.dropWhile (· == c)
        let (opens, closes) := flanks c before (behind.headD ' ')
        List.replicate length (.mark c place length opens closes)
          ++ tokens fuel c (place + length) behind
      else if c = '\n' then
        .lineEnd :: tokens fuel c (place + 1) (rest.dropWhile isIndent)
      else if c = '\\' then
        match rest with
        | [] => [.plain c]
        | next :: rest =>
            if next = '\n' then
              .hardEnd :: tokens fuel next (place + 1) (rest.dropWhile isIndent)
            else if isAsciiPunctuation next then
              .fixed next :: tokens fuel next (place + 1) rest
            else .fixed c :: .fixed next :: tokens fuel next (place + 2) rest
      else .plain c :: tokens fuel c (place + 1) rest

def marksFrom (place : Nat) : List Token → List Mark
  | [] => []
  | .mark sign run length opens closes :: rest =>
      ⟨place, run, sign, length, opens, closes⟩ :: marksFrom (place + 1) rest
  | _ :: rest => marksFrom (place + 1) rest

/-- Whether two marks can enclose something together. Where one of them could do both, their runs
must not add up to a multiple of three, unless both are one. -/
def agree (opener closer : Mark) : Bool :=
  opener.run != closer.run && opener.sign == closer.sign
    && !((opener.closes || closer.opens) && (opener.length + closer.length) % 3 == 0
      && (opener.length % 3 != 0 || closer.length % 3 != 0))

def openerOf (closer : Mark) : List Mark → Option (Mark × List Mark)
  | [] => none
  | mark :: before => if agree mark closer then some (mark, before) else openerOf closer before

/-- The places of all marks that enclose something; `pending` are the open ones, latest first. What
stands between an opening and a closing mark is settled with them. -/
def pairedFrom (pending : List Mark) : List Mark → List Nat
  | [] => []
  | mark :: rest =>
      match if mark.closes then openerOf mark pending else none with
      | some (opener, before) => opener.place :: mark.place :: pairedFrom before rest
      | none => pairedFrom (if mark.opens then mark :: pending else pending) rest

def paired (tokens : List Token) : List Nat :=
  pairedFrom [] (marksFrom 0 tokens)

/-- The text of tokens, without the marks at the given places. Two blanks or more in front of the
end of a line keep it, else it counts as one blank; `blanks` are those in front. -/
def settle (gone : List Nat) (place blanks : Nat) : List Token → List Char
  | [] => List.replicate blanks ' '
  | .plain ' ' :: rest => settle gone (place + 1) (blanks + 1) rest
  | .lineEnd :: rest => (if 2 ≤ blanks then '\n' else ' ') :: settle gone (place + 1) 0 rest
  | token :: rest =>
      let shown := match token with
        | .plain c => [c]
        | .fixed c => [c]
        | .mark sign _ _ _ _ => if gone.contains place then [] else [sign]
        | .lineEnd => []
        | .hardEnd => ['\n']
      List.replicate blanks ' ' ++ shown ++ settle gone (place + 1) 0 rest

def toText (s : List Char) : List Char :=
  let tokens := tokens s.length ' ' 0 s
  settle (paired tokens) 0 0 tokens

end GraphConsole.Markup
