import LinkBus.Config.Settings
import LinkBus.Failure
import LinkBus.Text.Utf8
import LinkBus.Toml.Document

/-!
# Reading settings

Settings are read from a TOML document. A section may be a table, in which unknown keys do not
matter, or a list that gives the settings in their order; what is not given keeps its default. A
value of the wrong type or out of range refuses the whole document.
-/

namespace LinkBus

open Toml

/-- Where the settings of a section are found: under their names or at their positions. -/
inductive SectionSource
  | named (entries : Entries)
  | listed (items : List Node)

namespace SectionSource

/-- The section that a node holds, if it can hold one. A date holds one without settings. -/
def ofNode? : Node → Option SectionSource
  | .table _ entries => some (named entries)
  | .array items => some (listed items)
  | .tables items => some (listed (items.map (.table .header)))
  | .dateTime => some (named [])
  | _ => none

/-- The node of a setting. -/
def find? : SectionSource → (position : Nat) → (key : String) → Option Node
  | named entries, _, key => entries.lookup key
  | listed items, position, _ => items[position]?

/-- Reads a setting, or takes its default where it is not given. -/
def setting? {α : Type} (source : SectionSource) (position : Nat) (key : String)
    (read? : Node → Option α) (default : α) : Option α :=
  match source.find? position key with
  | none => some default
  | some node => read? node

end SectionSource

/-- Reads a truth value. -/
def readFlag? : Node → Option Bool
  | .boolean b => some b
  | _ => none

/-- Reads a text. -/
def readText? : Node → Option String
  | .text s => some s
  | _ => none

/-- Reads a list of texts. -/
def readTexts? : Node → Option (List String)
  | .array items => items.mapM readText?
  | _ => none

/-- Reads a number of 64 bits. -/
def readWord64? : Node → Option UInt64
  | .integer n => if 0 ≤ n ∧ n < UInt64.size then some (UInt64.ofNat n.toNat) else none
  | _ => none

/-- Reads a number of 32 bits. -/
def readWord32? : Node → Option UInt32
  | .integer n => if 0 ≤ n ∧ n < UInt32.size then some (UInt32.ofNat n.toNat) else none
  | _ => none

/-- Reads the settings of the bus. -/
def BusConfig.read? (source : SectionSource) : Option BusConfig := do
  let d : BusConfig := {}
  return {
    session := ← source.setting? 0 "session" readFlag? d.session
    serviceName := ← source.setting? 1 "service_name" readText? d.serviceName }

/-- Reads the settings for talking to the kernel. -/
def NetlinkConfig.read? (source : SectionSource) : Option NetlinkConfig := do
  let d : NetlinkConfig := {}
  return {
    requestTimeout := ← source.setting? 0 "request_timeout_ms" readWord64? d.requestTimeout
    startupTimeout := ← source.setting? 1 "startup_timeout_ms" readWord64? d.startupTimeout
    queueCapacity := ← source.setting? 2 "queue_capacity" readWord64? d.queueCapacity
    receiveBuffer := ← source.setting? 3 "recv_buffer_size" readWord64? d.receiveBuffer
    backoffInitial := ← source.setting? 4 "backoff_initial_ms" readWord64? d.backoffInitial
    backoffMax := ← source.setting? 5 "backoff_max_ms" readWord64? d.backoffMax
    maxAttempts := ← source.setting? 6 "max_resync_attempts" readWord32? d.maxAttempts }

/-- Reads the settings of the pipeline. -/
def PipelineConfig.read? (source : SectionSource) : Option PipelineConfig := do
  let d : PipelineConfig := {}
  return {
    coalesceWindow := ← source.setting? 0 "coalesce_window_ms" readWord64? d.coalesceWindow
    readdDebounce := ← source.setting? 1 "readd_debounce_ms" readWord64? d.readdDebounce
    shutdownTimeout := ← source.setting? 2 "shutdown_timeout_ms" readWord64? d.shutdownTimeout }

/-- Reads the settings of the filter. -/
def LinkFilter.read? (source : SectionSource) : Option LinkFilter := do
  let d : LinkFilter := {}
  return {
    ignoredPrefixes := ← source.setting? 0 "ignored_prefixes" readTexts? d.ignoredPrefixes
    tunnelKinds := ← source.setting? 1 "tunnel_kinds" readTexts? d.tunnelKinds
    tunnelPrefixes := ← source.setting? 2 "tunnel_prefixes" readTexts? d.tunnelPrefixes }

/-- Reads the paths of files. -/
def PathConfig.read? (source : SectionSource) : Option PathConfig := do
  let d : PathConfig := {}
  return {
    resolvConf := ← source.setting? 0 "resolv_conf" readTexts? d.resolvConf
    hostname := ← source.setting? 1 "hostname" readText? d.hostname }

/-- What is found at the path of a file. -/
inductive FileContent
  | absent
  | directory
  | bytes (content : List UInt8)
  deriving DecidableEq, Repr

/-- Why there are no settings to work with. -/
inductive ConfigFault
  | absent
  | directory
  | notText
  | notSettings
  | refused (fault : SettingsFault)
  deriving DecidableEq, Repr

namespace ConfigFault

/-- The wording of a fault. -/
def message : ConfigFault → String
  | absent => "Failed to read config: No such file or directory (os error 2)"
  | directory => "Failed to read config: Is a directory (os error 21)"
  | notText => "Failed to read config: stream did not contain valid UTF-8"
  | notSettings => "Failed to parse config"
  | refused fault => fault.message

/-- The fault as a failure of the service. -/
def toFailure (fault : ConfigFault) : Failure := .config fault.message

end ConfigFault

namespace Config

/-- Reads a section of a document. -/
def section? {α : Type} (root : Entries) (key : String) (read? : SectionSource → Option α)
    (default : α) : Option α :=
  match root.lookup key with
  | none => some default
  | some node => SectionSource.ofNode? node >>= read?

/-- Reads all settings. -/
def read? (root : Entries) : Option Config := do
  return {
    bus := ← section? root "bus" BusConfig.read? {}
    netlink := ← section? root "netlink" NetlinkConfig.read? {}
    pipeline := ← section? root "pipeline" PipelineConfig.read? {}
    filter := ← section? root "filter" LinkFilter.read? {}
    paths := ← section? root "paths" PathConfig.read? {} }

/-- Reads settings from the text of a document, without judging them. -/
def parse? (text : List Char) : Option Config := Toml.parse? text >>= read?

/-- Reads settings from the bytes of a file and validates them. -/
def ofBytes (bytes : List UInt8) : Except ConfigFault Config :=
  match Text.decodeUtf8? bytes with
  | none => .error .notText
  | some text =>
    match parse? text with
    | none => .error .notSettings
    | some config =>
      match config.check with
      | .error fault => .error (.refused fault)
      | .ok _ => .ok config

/-- Loads settings from what is found at a path. -/
def load : FileContent → Except ConfigFault Config
  | .absent => .error .absent
  | .directory => .error .directory
  | .bytes content => ofBytes content

/-- Loads settings from what is found at a path, or takes the defaults where nothing is. -/
def loadOrDefault : FileContent → Except ConfigFault Config
  | .absent => .ok {}
  | found => load found

end Config

end LinkBus
