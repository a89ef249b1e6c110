import EventSieve.Value

/-!
# Sample events and configurations

Entries of an access log as events, and configurations of stages that filter them.
The time at which an event was made is given from outside.
-/

namespace EventSieve.Sample

/-- What an entry of an access log tells, each with a default. -/
structure AccessLog where
  host : Value := .str "web-1"
  status : Value := .int 200
  path : Value := .str "/"
  latency : Value := .float 0.01
  level : Value := .str "info"
  backend : Value := .null

namespace AccessLog

def ofFields (fields : Fields) : AccessLog :=
  let default : AccessLog := {}
  { host := (fields.get? "host").getD default.host,
    status := (fields.get? "status").getD default.status,
    path := (fields.get? "path").getD default.path,
    latency := (fields.get? "latency").getD default.latency,
    level := (fields.get? "level").getD default.level,
    backend := (fields.get? "upstream").getD default.backend }

def event (log : AccessLog) (time : Value) : Event :=
  let fields : Fields :=
    [("@timestamp", time), ("host", log.host), ("level", log.level),
      ("request", .map [("method", .str "GET"), ("path", log.path)]),
      ("response", .map [("status", log.status), ("latency", log.latency)])]
  match log.backend with
  | .null => fields
  | backend => fields ++ [("upstream", backend)]

end AccessLog

def events (time : Value) : List Event :=
  let made (log : AccessLog) : Event := log.event time
  [made { path := .str "/health", latency := .float 0.002 },
    made {
      status := .int 500, path := .str "/api/orders", latency := .float 1.5,
      level := .str "error" },
    made {
      host := .str "web-2", status := .int 404, path := .str "/favicon.ico" },
    made {
      host := .str "web-2", status := .int 503, path := .str "/api/orders", latency := .float 3,
      level := .str "error",
      backend := .map [("name", .str "orders"), ("addr", .str "10.0.0.7:8080")] },
    [("message", .str "unparsed line"), ("@metadata", .map [("beat", .str "filebeat")])]]

def configs : Fields :=
  [("passthrough", .map [("type", .str "Stdout")]),
    ("errors", .map [
      ("type", .str "Kafka"),
      ("if", .texts ["EQ(level, \"error\")", "Exist(request, path)"])]),
    ("upstream_failures", .map [
      ("type", .str "Kafka"),
      ("if", .texts [
        "Exist(upstream, name)",
        "\x7b\x7b \"y\" if response[\"status\"] >= 500 else \"n\" \x7d\x7d"])]),
    ("broken", .map [
      ("type", .str "Kafka"),
      ("if", .texts ["Exist(a)", "Missing(b)"])])]

end EventSieve.Sample
