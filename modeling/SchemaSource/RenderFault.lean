/-!
Why a schema cannot be rendered. Unknown kinds, missing parts and values that are no schemas are no
errors: they become comments in the text.
-/
namespace SchemaSource

inductive RenderFault where
  /-- A function that had to be called for the structure of a schema threw. -/
  | callback (field message : String)
  /-- A bound is no date. -/
  | invalidDate (value : String)
  /-- The handler of a kind gave up. -/
  | handler (tag message : String)
  deriving DecidableEq, Repr

def RenderFault.message : RenderFault → String
  | .callback field message => "callback for '" ++ field ++ "' threw: " ++ message
  | .invalidDate value => "invalid date value: " ++ value
  | .handler tag message => "handler for '" ++ tag ++ "' failed: " ++ message

end SchemaSource
