import N2F.Errors
import N2F.Ecma.Scalars

set_option autoImplicit false

namespace N2F.Validation

open Ecma

def invalid (code : String) : Failure := failure .invalid "invalid input" ("validation." ++ code)

-- /[ \t\r\n]/
def isBlank (c : Char) : Bool := c = ' ' || c = '\t' || c = '\r' || c = '\n'

def text (value : Str) (min max : Number) (required : Bool) : Result Unit :=
  if !min.isSafeInteger || !max.isSafeInteger || min.below 0 || max.less min then .error (invalid "policy")
  else
    match characters value with
    | none => .error (invalid "text")
    | some cs =>
        if min.above cs.length || max.below cs.length || (required && cs.all isBlank) then .error (invalid "text") else .ok ()

end N2F.Validation
