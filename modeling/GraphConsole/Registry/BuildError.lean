import GraphConsole.Json.Decode
import GraphConsole.Text.Decimal
import GraphConsole.Text.Lines

/-! Errors that composing a supergraph reports. -/

namespace GraphConsole.Registry

open GraphConsole.Text

structure BuildError where
  message : Option String
  code : Option String := none
deriving DecidableEq, Repr

namespace BuildError

def placeholder : String :=
  "An unknown error occurred during composition"

/-- The message, or a placeholder for a missing or empty one, and the code in brackets unless it
is missing or empty. -/
def toText (error : BuildError) : String :=
  let message := match error.message with
    | some message => if message.isEmpty then placeholder else message
    | none => placeholder
  match error.code with
  | some code => if code.isEmpty then message else message ++ " [" ++ code ++ "]"
  | none => message

def toJson (error : BuildError) : Json :=
  .object [("message", Json.optionalString error.message),
    ("code", Json.optionalString error.code), ("type", .string "composition")]

def ofJson : Json → Json.Checked BuildError :=
  Json.record fun fields =>
    BuildError.mk <$> Json.optional "message" Json.text fields
      <*> Json.optional "code" Json.text fields

def listText (errors : List BuildError) : String :=
  joined "\n" (errors.map toText)

def listJson (errors : List BuildError) : Json :=
  .array (errors.map toJson)

def counted (count : Nat) : String :=
  if count = 1 then natText count ++ " build error" else natText count ++ " build errors"

end BuildError

end GraphConsole.Registry
