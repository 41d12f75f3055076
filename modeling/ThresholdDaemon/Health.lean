import ThresholdDaemon.Launch.Error

/-!
# Health reports

The daemon tells its supervisor how far its life has got. Each report is an event of the log.
-/
namespace ThresholdDaemon

/-- How far the life of the daemon has got. -/
inductive HealthReport where
  /-- It starts. -/
  | starting
  /-- It serves. -/
  | ready (config : Config)
  /-- It has failed. -/
  | failed (error : LaunchError)
  /-- It stops. -/
  | stopping
  /-- It has stopped. -/
  | stopped (counters : Counters)

/-- The name of a form of the log in a report. -/
def LogFormat.title : LogFormat → String
  | json => "Json"
  | compact => "Compact"

/-- The event of a report. -/
def HealthReport.event : HealthReport → LogEvent
  | starting =>
    LogEvent.Source.health.event .info "starting daemon" [("event", .text "starting")]
  | ready config =>
    LogEvent.Source.health.event .info "daemon ready"
      [("event", .text "ready"), ("socket", .shown config.socket.render),
        ("workers", .count config.workers.toNat),
        ("max_frame_bytes", .count config.maxFrameBytes.toNat),
        ("log_filter", .shown config.logFilter), ("log_format", .shown config.logFormat.title)]
  | failed error =>
    LogEvent.Source.health.event .error "daemon failed"
      [("event", .text "failed"), ("error", .shown error.message)]
  | stopping =>
    LogEvent.Source.health.event .info "stopping daemon" [("event", .text "stopping")]
  | stopped counters =>
    LogEvent.Source.health.event .info "daemon stopped"
      [("event", .text "stopped"), ("errors", .count counters.errors.toNat),
        ("sessions", .count counters.sessions.toNat),
        ("responses", .count counters.responses.toNat)]

end ThresholdDaemon
