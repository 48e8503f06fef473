/-!
# An example of a configuration

A configuration file that names every item, most of them with the value that they have
anyway.
-/

namespace TelemetryAlerts

/-- The text of the example. -/
def exampleConfig : String :=
  String.intercalate "\n" [
    "# Copy to config.yaml and adjust.",
    "engine:",
    "  interval_seconds: 30",
    "  error_backoff_seconds: 10",
    "  fetch_timeout_seconds: 10",
    "  repository_timeout_seconds: 15",
    "  tenant_concurrency: 1",
    "",
    "escalation:",
    "  repeat: true",
    "",
    "query_api:",
    "  url: \"http://query-api:5079\"",
    "  timeout: 10",
    "",
    "notifications:",
    "  send_timeout_seconds: 30",
    "  email:",
    "    enabled: true",
    "    smtp_server: \"smtp.example.com\"",
    "    smtp_port: 587",
    "    from_address: \"alerts@example.com\"",
    "    from_name: \"Plant Alerts\"",
    "    username: \"\"",
    "    password: \"\"",
    "  webhook:",
    "    timeout_seconds: 30",
    "    max_retries: 3",
    "  sms:",
    "    account_sid: \"\"",
    "    auth_token: \"\"",
    "    from_number: \"\"",
    "  inapp:",
    "    channel_prefix: \"alertengine:inapp\"",
    ""]

end TelemetryAlerts
