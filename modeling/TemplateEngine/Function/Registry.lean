/-
  TemplateEngine.Function.Registry — functions that templates can call by name.

  The same functions serve calls, bare calls, stages of a pipe and filters of a loop.
-/

import TemplateEngine.CalculateError
import TemplateEngine.Value.Basic

namespace TemplateEngine

abbrev Function := List Value → Except FunctionError Value

abbrev Registry := Table Function

end TemplateEngine
