import LinkBus.Config.Reader
import LinkBus.Config.Writer
import LinkBus.Proofs.Text.Utf8
import LinkBus.Proofs.Toml.Document

/-!
# Saved settings are loaded again

The document that settings are written as has each section once and each setting once, so it is
read as it was written, and every setting is found where the reader looks for it. Settings that are
refused when they are checked are written and read all the same, and refused by loading for the
same reason.
-/

namespace LinkBus

open Toml

/-! ## Single settings -/

/-- A word of 64 bits is read back. -/
theorem readWord64?_toNat (n : UInt64) : readWord64? (.integer n.toNat) = some n := by
  have hlt : n.toNat < UInt64.size := n.toNat_lt
  have hrange : (0 : Int) ≤ n.toNat ∧ (n.toNat : Int) < UInt64.size := by omega
  rw [readWord64?, if_pos hrange, Int.toNat_natCast, UInt64.ofNat_toNat]

/-- A word of 32 bits is read back. -/
theorem readWord32?_toNat (n : UInt32) : readWord32? (.integer n.toNat) = some n := by
  have hlt : n.toNat < UInt32.size := n.toNat_lt
  have hrange : (0 : Int) ≤ n.toNat ∧ (n.toNat : Int) < UInt32.size := by omega
  rw [readWord32?, if_pos hrange, Int.toNat_natCast, UInt32.ofNat_toNat]

/-- A list of texts is read back, also an empty one. -/
theorem readTexts?_map_text (items : List String) :
    readTexts? (.array (items.map .text)) = some items := by
  induction items with
  | nil => rfl
  | cons s items ih =>
    simp only [readTexts?, List.map_cons, List.mapM_cons] at ih ⊢
    rw [ih]
    rfl

/-- A setting is read from the value under its name. -/
theorem SectionSource.setting?_named {α : Type} {entries : Entries} {position : Nat} {key : String}
    {node : Node} {read? : Node → Option α} {default value : α} (hread : read? node = some value)
    (hlookup : entries.lookup key = some node) :
    (named entries).setting? position key read? default = some value := by
  rw [setting?, find?, hlookup]
  exact hread

/-! ## Sections -/

/-- What is read from a section. -/
def Toml.Section.source (s : Section) : SectionSource :=
  .named (s.entries.map fun entry => (entry.1, entry.2.toNode))

/-- The settings of the bus are read back. -/
theorem BusConfig.read?_toSection (s : BusConfig) : read? s.toSection.source = some s := rfl

/-- The settings for talking to the kernel are read back. -/
theorem NetlinkConfig.read?_toSection (s : NetlinkConfig) :
    read? s.toSection.source = some s := by
  rw [read?, Section.source]
  simp only
  rw [SectionSource.setting?_named (readWord64?_toNat s.requestTimeout) rfl,
    SectionSource.setting?_named (readWord64?_toNat s.startupTimeout) rfl,
    SectionSource.setting?_named (readWord64?_toNat s.queueCapacity) rfl,
    SectionSource.setting?_named (readWord64?_toNat s.receiveBuffer) rfl,
    SectionSource.setting?_named (readWord64?_toNat s.backoffInitial) rfl,
    SectionSource.setting?_named (readWord64?_toNat s.backoffMax) rfl,
    SectionSource.setting?_named (readWord32?_toNat s.maxAttempts) rfl]
  rfl

/-- The settings of the pipeline are read back. -/
theorem PipelineConfig.read?_toSection (s : PipelineConfig) :
    read? s.toSection.source = some s := by
  rw [read?, Section.source]
  simp only
  rw [SectionSource.setting?_named (readWord64?_toNat s.coalesceWindow) rfl,
    SectionSource.setting?_named (readWord64?_toNat s.readdDebounce) rfl,
    SectionSource.setting?_named (readWord64?_toNat s.shutdownTimeout) rfl]
  rfl

/-- The settings of the filter are read back. -/
theorem LinkFilter.read?_toSection (s : LinkFilter) : read? s.toSection.source = some s := by
  rw [read?, Section.source]
  simp only
  rw [SectionSource.setting?_named (readTexts?_map_text s.ignoredPrefixes) rfl,
    SectionSource.setting?_named (readTexts?_map_text s.tunnelKinds) rfl,
    SectionSource.setting?_named (readTexts?_map_text s.tunnelPrefixes) rfl]
  rfl

/-- The paths of files are read back. -/
theorem PathConfig.read?_toSection (s : PathConfig) : read? s.toSection.source = some s := by
  rw [read?, Section.source]
  simp only
  rw [SectionSource.setting?_named (readTexts?_map_text s.resolvConf) rfl]
  rfl

namespace Config

variable (config : Config)

/-- The names and keys do not depend on the values. -/
theorem keys_toSections : config.toSections.map (fun s => (s.name, s.keys)) =
    (toSections {}).map fun s => (s.name, s.keys) := rfl

/-- Every word of the settings fits into a document. -/
theorem fits_toSections : ∀ s ∈ config.toSections, ∀ entry ∈ s.entries, entry.2.Fits := by
  have hword : ∀ n : UInt64, (Plain.number n.toNat).Fits := fun n =>
    Nat.lt_trans n.toNat_lt (by decide)
  have hshort : ∀ n : UInt32, (Plain.number n.toNat).Fits := fun n =>
    Nat.lt_trans n.toNat_lt (by decide)
  have hflag : ∀ b, (Plain.boolean b).Fits := fun _ => trivial
  have htext : ∀ s, (Plain.text s).Fits := fun _ => trivial
  have htexts : ∀ items, (Plain.texts items).Fits := fun _ => trivial
  simp only [toSections, BusConfig.toSection, NetlinkConfig.toSection, PipelineConfig.toSection,
    LinkFilter.toSection, PathConfig.toSection, List.forall_mem_cons, List.not_mem_nil,
    hword, hshort, hflag, htext, htexts, false_imp_iff, implies_true, and_self]

/-- The sections can be written without quotes around their keys. -/
theorem wellFormed_toSections : ∀ s ∈ config.toSections, s.WellFormed := by
  have hdefault : ∀ table ∈ (toSections {}).map fun s => (s.name, s.keys),
      IsBare table.1 ∧ (∀ key ∈ table.2, IsBare key) ∧ table.2.Nodup := by
    decide
  intro s hs
  rw [← keys_toSections config] at hdefault
  obtain ⟨hname, hkeys, hnodup⟩ := hdefault _ (List.mem_map_of_mem hs)
  exact ⟨hname, hkeys, hnodup, config.fits_toSections s hs⟩

/-- The settings of a section are read from the entry under its name. -/
theorem found_section? {α : Type} {root : Entries} (s : Section)
    {read? : SectionSource → Option α} {default value : α} (hread : read? s.source = some value)
    (hlookup : root.lookup s.name = some s.toEntry.2) : section? root s.name read? default =
      some value := by
  rw [section?, hlookup]
  exact hread

/-- The settings are read from the entries of their sections. -/
theorem read?_toSections : read? (config.toSections.map Section.toEntry) = some config := by
  let root := config.toSections.map Section.toEntry
  have hbus : section? root "bus" BusConfig.read? {} = some config.bus :=
    found_section? config.bus.toSection config.bus.read?_toSection rfl
  have hnetlink : section? root "netlink" NetlinkConfig.read? {} = some config.netlink :=
    found_section? config.netlink.toSection config.netlink.read?_toSection rfl
  have hpipeline : section? root "pipeline" PipelineConfig.read? {} = some config.pipeline :=
    found_section? config.pipeline.toSection config.pipeline.read?_toSection rfl
  have hfilter : section? root "filter" LinkFilter.read? {} = some config.filter :=
    found_section? config.filter.toSection config.filter.read?_toSection rfl
  have hpaths : section? root "paths" PathConfig.read? {} = some config.paths :=
    found_section? config.paths.toSection config.paths.read?_toSection rfl
  rw [read?, hbus, hnetlink, hpipeline, hfilter, hpaths]
  rfl

/-- The document of settings is read as it was written. -/
theorem parse?_render : parse? config.render.toList = some config := by
  have hnames : (config.toSections.map Section.name).Nodup := by
    have hdefault : ((toSections {}).map Section.name).Nodup := by decide
    exact hdefault
  rw [parse?, render, String.toList_ofList,
    parse?_writeSections config.wellFormed_toSections hnames, Option.bind_eq_bind,
    Option.bind_some, read?_toSections]

/-- Settings that pass the check are loaded from the file that they were saved to as they were, and
those that do not are refused with the same fault. -/
theorem load_toBytes :
    (load (.bytes config.toBytes) = .ok config ↔ config.check = .ok ()) ∧
      ∀ fault, load (.bytes config.toBytes) = .error (.refused fault) ↔
        config.check = .error fault := by
  rw [load, ofBytes, toBytes, Text.decodeUtf8?_utf8]
  simp only [parse?_render]
  cases config.check with
  | ok _ => simp
  | error fault => simp

end Config

end LinkBus
