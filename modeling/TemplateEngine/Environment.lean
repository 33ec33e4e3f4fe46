/-
  TemplateEngine.Environment — what templates are compiled and rendered in: a loader, the
  functions they may call, the settings, and the library of regular expressions.
-/

import TemplateEngine.Config
import TemplateEngine.Function.Builtin
import TemplateEngine.Json.Printer
import TemplateEngine.Loader
import TemplateEngine.Operator.Apply
import TemplateEngine.Pattern.Parser
import TemplateEngine.Text.Quoted

namespace TemplateEngine

structure Environment where
  load : Loader := Loader.empty
  functions : Registry := Registry.builtin Json.encode
  config : Config := {}
  patterns : Operator.Patterns := Pattern.compile

/-- The environment spelled out: the names of its functions in order, and its settings. -/
def Environment.outline (env : Environment) : String :=
  let names := (Table.keys env.functions).mergeSort fun a b => decide (a ≤ b)
  let c := env.config
  "Environment \x7b functions: FunctionRegistry \x7b functions: ["
    ++ ", ".intercalate (names.map Text.quoted)
    ++ "] \x7d, config: EngineConfig \x7b strict_variables: "
    ++ (if c.strictVariables then "true" else "false")
    ++ ", max_include_depth: " ++ toString c.maxIncludeDepth
    ++ ", max_inheritance_depth: " ++ toString c.maxInheritanceDepth
    ++ ", max_range_length: " ++ toString c.maxRangeLength ++ " \x7d, .. \x7d"

end TemplateEngine
