import LinkBus.Config.Settings
import LinkBus.Text.Utf8
import LinkBus.Toml.Writer

/-!
# Writing settings

Settings are written as a TOML document with every section and every setting in a fixed order, so
that a reader finds each value and needs no default.
-/

namespace LinkBus

open Toml

/-- The section of the bus settings. -/
def BusConfig.toSection (s : BusConfig) : Section :=
  ⟨"bus", [("session", .boolean s.session), ("service_name", .text s.serviceName)]⟩

/-- The section of the settings for talking to the kernel. -/
def NetlinkConfig.toSection (s : NetlinkConfig) : Section :=
  ⟨"netlink", [("request_timeout_ms", .number s.requestTimeout.toNat),
    ("startup_timeout_ms", .number s.startupTimeout.toNat),
    ("queue_capacity", .number s.queueCapacity.toNat),
    ("recv_buffer_size", .number s.receiveBuffer.toNat),
    ("backoff_initial_ms", .number s.backoffInitial.toNat),
    ("backoff_max_ms", .number s.backoffMax.toNat),
    ("max_resync_attempts", .number s.maxAttempts.toNat)]⟩

/-- The section of the pipeline settings. -/
def PipelineConfig.toSection (s : PipelineConfig) : Section :=
  ⟨"pipeline", [("coalesce_window_ms", .number s.coalesceWindow.toNat),
    ("readd_debounce_ms", .number s.readdDebounce.toNat),
    ("shutdown_timeout_ms", .number s.shutdownTimeout.toNat)]⟩

/-- The section of the filter settings. -/
def LinkFilter.toSection (s : LinkFilter) : Section :=
  ⟨"filter", [("ignored_prefixes", .texts s.ignoredPrefixes),
    ("tunnel_kinds", .texts s.tunnelKinds),
    ("tunnel_prefixes", .texts s.tunnelPrefixes)]⟩

/-- The section of the paths of files. -/
def PathConfig.toSection (s : PathConfig) : Section :=
  ⟨"paths", [("resolv_conf", .texts s.resolvConf), ("hostname", .text s.hostname)]⟩

namespace Config

/-- All sections. -/
def toSections (config : Config) : List Section :=
  [config.bus.toSection, config.netlink.toSection, config.pipeline.toSection,
    config.filter.toSection, config.paths.toSection]

/-- The settings as the text of a document. -/
def render (config : Config) : String := String.ofList (writeSections config.toSections)

/-- The settings as the bytes of a file. -/
def toBytes (config : Config) : List UInt8 := Text.utf8 config.render

end Config

end LinkBus
