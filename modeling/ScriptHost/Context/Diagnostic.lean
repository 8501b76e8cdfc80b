import ScriptHost.Text.Quoted
import ScriptHost.Decimal.Shortest
import ScriptHost.Context.Config

/-!
# Diagnostic text

The text that shows a value or the settings of a context to a developer: each value with the name of
its kind around its content.  It is not meant to be read back.
-/

namespace ScriptHost

/-- A double with at least one fraction digit; from `10 ^ 16` on and below `10 ^ -4` with an
exponent.  Of two equally near decimals the greater one is written. -/
def diagnosticNumber (x : Float) : String :=
  if x.isNaN then "NaN"
  else
    let sign := if Decimal.isNegative x then "-" else ""
    if x.isInf then sign ++ "inf"
    else if x == 0 then sign ++ "0.0"
    else
      let short := Decimal.shortest .up x
      let count : Int := short.digits.length
      let body :=
        if short.point > 16 ∨ short.point < -3 then
          let tail := short.digits.drop 1
          String.ofList (short.digits.take 1 ++ if tail.isEmpty then [] else '.' :: tail)
            ++ "e" ++ toString (short.point - 1)
        else if short.point ≤ 0 then
          "0." ++ String.ofList (List.replicate (-short.point).toNat '0' ++ short.digits)
        else if count ≤ short.point then
          String.ofList (short.digits ++ List.replicate (short.point - count).toNat '0') ++ ".0"
        else
          String.ofList (short.digits.take short.point.toNat) ++ "."
            ++ String.ofList (short.digits.drop short.point.toNat)
      sign ++ body

namespace HostValue

mutual

/-- The diagnostic text of a value. -/
def diagnostic : HostValue → String
  | null => "Null"
  | boolean b => if b then "Boolean(true)" else "Boolean(false)"
  | number x => "Number(" ++ diagnosticNumber x ++ ")"
  | string s => "String(" ++ Text.quoted s ++ ")"
  | array items => "Array([" ++ ", ".intercalate (itemTexts items) ++ "])"
  | map entries => "Map([" ++ ", ".intercalate (entryTexts entries) ++ "])"
  | complexObject s => s!"ComplexObject(ComplexObject(#{s.generation}))"
  | callable _ => "Callable(HostFunction(..))"
  | foreign name => "Foreign(Foreign \x7b type_name: " ++ Text.quoted name ++ " \x7d)"

def itemTexts : List HostValue → List String
  | [] => []
  | v :: rest => diagnostic v :: itemTexts rest

def entryTexts : List (HostValue × HostValue) → List String
  | [] => []
  | (k, v) :: rest => ("(" ++ diagnostic k ++ ", " ++ diagnostic v ++ ")") :: entryTexts rest

end

end HostValue

/-- The diagnostic text of the settings. -/
def Config.diagnostic (config : Config) : String :=
  let complex := match config.complexObject with
    | none => "None"
    | some v => "Some(" ++ v.diagnostic ++ ")"
  "ContextConfig \x7b complex_object: " ++ complex
    ++ ", default_filename: " ++ Text.quoted config.defaultFilename
    ++ ", max_depth: " ++ toString config.maxDepth
    ++ ", max_elements: " ++ toString config.maxElements ++ " \x7d"

/-- The diagnostic text of a context with these settings. -/
def contextDiagnostic (valid : Bool) (config : Config) : String :=
  "Context \x7b valid: " ++ toString valid ++ ", config: " ++ config.diagnostic ++ ", .. \x7d"

end ScriptHost
