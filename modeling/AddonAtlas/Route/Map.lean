import AddonAtlas.Chart
import AddonAtlas.Route.Entry

/-!
# The route map

The routes of all modules, in order, with the public ones among them.
-/

namespace AddonAtlas.Route

open Text Document

/-- How many routes are reported. -/
structure Limits where
  publicRoutes : Nat := 400
  routes : Nat := 4000

/-- Routes by module, then file, then path. -/
def sortEntries (routes : List Entry) : List Entry :=
  sortOn (fun r => nameKey r.module ++ [r.file, r.route]) routes

/-- The route map of these routes. -/
def chart (limits : Limits) (routes : List Entry) : Chart :=
  let routes := sortEntries routes
  let exposed := routes.filter (·.isPublic)
  { name := "route-map"
    folders := ["controllers"]
    assumptions := [
      "Routes are read from @http.route(...) decorators in controllers/.",
      "Quoted arguments starting with '/' are paths; computed paths are reported as [dynamic].",
      "auth defaults to 'user' and type to 'http' when not declared."]
    body := [
      ("route_count", .count routes),
      ("public_route_count", .count exposed),
      ("public_routes", .list ((exposed.take limits.publicRoutes).map (·.value))),
      ("routes", .list ((routes.take limits.routes).map (·.value)))]
    metrics := [("routes", routes.length), ("public_routes", exposed.length)]
    risks := if exposed.isEmpty then [] else
      ["Validate security posture for " ++ toString exposed.length ++ " public routes."] }

end AddonAtlas.Route
