import LinkShortener.Operator.Report
import LinkShortener.Startup

/-!
# The service as a process

Reads the settings and starts the service. Where that fails, the process ends with a report.
-/

namespace LinkShortener.Operator

/-- What a process prints and ends with where the service does not start. -/
def notStarted : StartupError → Finished
  | .crash text => crashed text
  | error => failed "" error.chain

/-- What a process that should serve prints and ends with, if it does not serve. -/
def serve (environment : Environment) (database : Database) : Finished :=
  match Settings.load environment with
  | .error error => failed "" (error.message :: error.causes)
  | .ok settings =>
    match Startup.run settings database false [] with
    | (.error error, _) => notStarted error
    | (.ok _, _) => succeeded ""

end LinkShortener.Operator
