/-
  TemplateEngine.Node.Equality — when two contents are the same, positions included.
-/

import TemplateEngine.Expr.Equality
import TemplateEngine.Node.Basic

namespace TemplateEngine

mutual

def Node.same : Node → Node → Bool
  | .text a, .text b => a == b
  | .output p e, .output q f => p == q && e.same f
  | .block p a c, .block q b d => p == q && a == b && Content.same c d
  | .inclusion p a, .inclusion q b => p == q && a == b
  | .conditional p bs none, .conditional q cs none => p == q && sameBranches bs cs
  | .conditional p bs (some c), .conditional q cs (some d) =>
    p == q && sameBranches bs cs && Content.same c d
  | .loop p t e fs c, .loop q u f gs d =>
    p == q && t == u && e.same f && Expr.sameAll fs gs && Content.same c d
  | .assignment p a e, .assignment q b f => p == q && a == b && e.same f
  | _, _ => false

def Content.same : List Node → List Node → Bool
  | [], [] => true
  | a :: as, b :: bs => a.same b && Content.same as bs
  | _, _ => false

def sameBranches : List (Expr × List Node) → List (Expr × List Node) → Bool
  | [], [] => true
  | (e, c) :: as, (f, d) :: bs => e.same f && Content.same c d && sameBranches as bs
  | _, _ => false

end

end TemplateEngine
