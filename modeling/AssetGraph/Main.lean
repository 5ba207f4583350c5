import AssetGraph.Launch
/-!
# The command line

Reads the environment and a file of variables beside it, and launches the indexer.  A launch that is
stopped is reported, with an exit status to match.
-/
namespace AssetGraph.Launch

/-- The variables that the launch asks for. -/
def variableNames : List String :=
  ["RUST_LOG", "LOG_LEVEL", "KAFKA_BOOTSTRAP_SERVERS", "KAFKA_GROUP_ID", "KAFKA_USERNAME",
    "KAFKA_PASSWORD", "KAFKA_SASL_MECHANISM", "KAFKA_SSL_CA_PEM", "KAFKA_AUTO_COMMIT_INTERVAL_MS",
    "INVENTORY_ENDPOINT", "INVENTORY_INSECURE_SKIP_VERIFY", "INVENTORY_TIMEOUT_SECS",
    "AWS_ACCOUNT_ANNOTATION_KEY", "RETRY_DURATION_SECS", "POLL_TIMEOUT_MS"]

/-- What the process was given of them. -/
def environment : IO Settings.Lookup := do
  let mut pairs : List (String × String) := []
  for name in variableNames do
    if let some value ← IO.getEnv name then pairs := (name, value) :: pairs
  let found := pairs
  pure fun name => found.lookup name

/-- The file of variables, empty where there is none. -/
def variableFile : IO String := do
  try IO.FS.readFile ".env" catch _ => pure ""

end AssetGraph.Launch

open AssetGraph in
/-- **Launches the indexer.**  No client of brokers is built in, so a good configuration is as far as it
goes. -/
def main : IO UInt32 := do
  match Launch.prepare (← Launch.environment) (← Launch.variableFile) with
  | .error fault =>
    IO.eprintln (Launch.report fault)
    pure 1
  | .ok ready =>
    IO.eprintln s!"Error: no broker client for {ready.settings.kafka.brokers}"
    pure 1
