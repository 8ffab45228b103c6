/-!
# Limits

Every scan is bounded. Each limit has a name, by which the settings file sets it, and a usual value.
-/

namespace AddonAtlas.Settings

/-- What is limited. -/
inductive Limit
  | walkMaxFiles
  | manifestWalkMaxFiles
  | manifestChars
  | extensionSampleFiles
  | topExtensions
  | topDependencies
  | modelFiles
  | modelChars
  | classBodyChars
  | modelFileSample
  | topHotspots
  | securityXmlFiles
  | aclChars
  | securityXmlChars
  | riskSample
  | securityEntries
  | viewFiles
  | viewChars
  | inheritedViews
  | views
  | actions
  | menus
  | controllerFiles
  | controllerChars
  | routeBlockChars
  | publicRoutes
  | routes
  | highImpactModules
  deriving DecidableEq, Repr

namespace Limit

/-- All limits. -/
def all : List Limit := [
  walkMaxFiles, manifestWalkMaxFiles, manifestChars, extensionSampleFiles, topExtensions,
  topDependencies, modelFiles, modelChars, classBodyChars, modelFileSample, topHotspots,
  securityXmlFiles, aclChars, securityXmlChars, riskSample, securityEntries, viewFiles, viewChars,
  inheritedViews, views, actions, menus, controllerFiles, controllerChars, routeBlockChars,
  publicRoutes, routes, highImpactModules]

/-- The name of a limit. -/
def name : Limit → String
  | walkMaxFiles => "walk_max_files"
  | manifestWalkMaxFiles => "manifest_walk_max_files"
  | manifestChars => "manifest_chars"
  | extensionSampleFiles => "extension_sample_files"
  | topExtensions => "top_extensions"
  | topDependencies => "top_dependencies"
  | modelFiles => "model_files"
  | modelChars => "model_chars"
  | classBodyChars => "class_body_chars"
  | modelFileSample => "model_file_sample"
  | topHotspots => "top_hotspots"
  | securityXmlFiles => "security_xml_files"
  | aclChars => "acl_chars"
  | securityXmlChars => "security_xml_chars"
  | riskSample => "risk_sample"
  | securityEntries => "security_entries"
  | viewFiles => "view_files"
  | viewChars => "view_chars"
  | inheritedViews => "inherited_views"
  | views => "views"
  | actions => "actions"
  | menus => "menus"
  | controllerFiles => "controller_files"
  | controllerChars => "controller_chars"
  | routeBlockChars => "route_block_chars"
  | publicRoutes => "public_routes"
  | routes => "routes"
  | highImpactModules => "high_impact_modules"

/-- The usual value of a limit. -/
def usual : Limit → Nat
  | walkMaxFiles => 10000
  | manifestWalkMaxFiles => 20000
  | manifestChars => 50000
  | extensionSampleFiles => 450
  | topExtensions => 10
  | topDependencies => 40
  | modelFiles => 600
  | modelChars => 120000
  | classBodyChars => 12000
  | modelFileSample => 12
  | topHotspots => 40
  | securityXmlFiles => 200
  | aclChars => 120000
  | securityXmlChars => 180000
  | riskSample => 300
  | securityEntries => 3000
  | viewFiles => 500
  | viewChars => 220000
  | inheritedViews => 400
  | views => 3500
  | actions => 2000
  | menus => 2000
  | controllerFiles => 300
  | controllerChars => 160000
  | routeBlockChars => 4000
  | publicRoutes => 400
  | routes => 4000
  | highImpactModules => 20

end Limit

/-- A value for every limit. -/
abbrev Limits := Limit → Nat

end AddonAtlas.Settings
