import LinkBus.Filter

/-!
# Settings

The settings of the service in five sections, with the values that hold where none is given. Times
are milliseconds. `Config.validate` refuses values under which a queue, a time limit or the retries
could not work; of several faults it reports the first.
-/

namespace LinkBus

/-- Which bus to serve, and under which name. -/
structure BusConfig where
  /-- Whether to use the session bus instead of the system bus. -/
  session : Bool := false
  /-- The name to own on the bus. -/
  serviceName : String := "org.freedesktop.NetworkManager"
  deriving DecidableEq, Repr

/-- How to talk to the kernel: time limits, sizes, and the delays between attempts. -/
structure NetlinkConfig where
  /-- How long the answer to a change may take. -/
  requestTimeout : UInt64 := 2000
  /-- How long a dump may take. -/
  startupTimeout : UInt64 := 5000
  /-- How many messages may wait for the pipeline. -/
  queueCapacity : UInt64 := 1024
  /-- How many bytes of a datagram are received. -/
  receiveBuffer : UInt64 := 32768
  /-- The delay before the first attempt after a loss. -/
  backoffInitial : UInt64 := 100
  /-- The longest delay between attempts. -/
  backoffMax : UInt64 := 5000
  /-- How many attempts are made after a loss. -/
  maxAttempts : UInt32 := 10
  deriving DecidableEq, Repr

/-- How events are gathered, how long a path is kept, and how long the end may take. -/
structure PipelineConfig where
  /-- How long events are gathered into one batch. -/
  coalesceWindow : UInt64 := 50
  /-- How long the number of a vanished interface stays parked. -/
  readdDebounce : UInt64 := 500
  /-- How long the end may take. -/
  shutdownTimeout : UInt64 := 2000
  deriving DecidableEq, Repr

/-- Where the resolver files and the host name are. -/
structure PathConfig where
  /-- The resolver files, in the order in which they are tried. -/
  resolvConf : List String := ["/run/systemd/resolve/resolv.conf", "/etc/resolv.conf"]
  /-- The host name file. -/
  hostname : String := "/etc/hostname"
  deriving DecidableEq, Repr

/-- All settings. -/
structure Config where
  bus : BusConfig := {}
  netlink : NetlinkConfig := {}
  pipeline : PipelineConfig := {}
  filter : LinkFilter := {}
  paths : PathConfig := {}
  deriving DecidableEq, Repr

/-- Why settings are refused. -/
inductive SettingsFault
  | emptyQueue
  | smallBuffer
  | noTimeout
  | backoffOrder
  | noAttempts
  | longWindow
  | noName
  deriving DecidableEq, Repr

/-- The wording of a fault. -/
def SettingsFault.message : SettingsFault → String
  | emptyQueue => "netlink.queue_capacity must be at least 1"
  | smallBuffer => "netlink.recv_buffer_size must be at least 4096"
  | noTimeout => "netlink timeouts must be non-zero"
  | backoffOrder => "netlink.backoff_initial_ms exceeds netlink.backoff_max_ms"
  | noAttempts => "netlink.max_resync_attempts must be at least 1"
  | longWindow => "pipeline windows must stay short (coalesce < 1s, debounce < 10s)"
  | noName => "bus.service_name must not be empty"

namespace Config

/-- Refuses settings that cannot work. -/
def check (config : Config) : Except SettingsFault Unit :=
  if config.netlink.queueCapacity = 0 then .error .emptyQueue
  else if config.netlink.receiveBuffer < 4096 then .error .smallBuffer
  else if config.netlink.requestTimeout = 0 ∨ config.netlink.startupTimeout = 0 then
    .error .noTimeout
  else if config.netlink.backoffMax < config.netlink.backoffInitial then .error .backoffOrder
  else if config.netlink.maxAttempts = 0 then .error .noAttempts
  else if 1000 ≤ config.pipeline.coalesceWindow ∨ 10000 ≤ config.pipeline.readdDebounce then
    .error .longWindow
  else if config.bus.serviceName = "" then .error .noName
  else .ok ()

end Config

end LinkBus
