import LinkShortener.Json.Basic

/-!
# Health reports

What the service says about itself, its database and its cache.
-/

namespace LinkShortener

structure CheckStatus where
  isOk : Bool
  message : Option String

/-- The body of a check; a check without a message has only its status. -/
def CheckStatus.body (check : CheckStatus) : Json :=
  .object (("status", .string (if check.isOk then "ok" else "error")) ::
    check.message.toList.map fun message => ("message", .string message))

structure HealthReport where
  status : String
  version : String
  database : CheckStatus
  cache : CheckStatus

def HealthReport.body (report : HealthReport) : Json :=
  .object [("status", .string report.status), ("version", .string report.version),
    ("checks", .object [("database", report.database.body), ("cache", report.cache.body)])]

end LinkShortener
