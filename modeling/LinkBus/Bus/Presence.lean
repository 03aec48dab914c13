import LinkBus.Bus.Tree

/-!
# Carrying out plans

A plan is carried out step by step on the object tree: objects come and go, and signals are sent.
-/

namespace LinkBus.Bus

/-- The interface that a signal belongs to, its name and its arguments. -/
def broadcast : Signal → Broadcast
  | .deviceAdded path =>
    ⟨managerPath, PropertyInterface.manager.name, "DeviceAdded", [.path path]⟩
  | .deviceRemoved path =>
    ⟨managerPath, PropertyInterface.manager.name, "DeviceRemoved", [.path path]⟩
  | .newConnection path =>
    ⟨settingsPath, PropertyInterface.settings.name, "NewConnection", [.path path]⟩
  | .connectionRemoved path =>
    ⟨settingsPath, PropertyInterface.settings.name, "ConnectionRemoved", [.path path]⟩
  | .deviceStateChanged path new old reason =>
    ⟨path, PropertyInterface.device.name, "StateChanged",
      [.number new.code, .number old.code, .number reason.code]⟩
  | .activeStateChanged path state reason =>
    ⟨path, PropertyInterface.activeConnection.name, "StateChanged",
      [.number state.code, .number reason.code]⟩
  | .managerStateChanged state =>
    ⟨managerPath, PropertyInterface.manager.name, "StateChanged", [.number state.code]⟩
  | .propertiesChanged path interface changed =>
    ⟨path, propertiesInterface, "PropertiesChanged",
      [.text interface.name, .properties (changed.map fun e => (e.1, .ofProperty e.2)),
        .texts []]⟩

namespace Tree

/-- Carries out a step. -/
def carryOut (t : Tree) (c : Context) : BusStep → Tree × List Broadcast
  | .register o => t.add c o
  | .unregister o => t.remove o
  | .emit signal => (t, [broadcast signal])

/-- Carries out a plan. -/
def carryOutAll (t : Tree) (c : Context) : List BusStep → Tree × List Broadcast
  | [] => (t, [])
  | step :: rest =>
    let (t, first) := t.carryOut c step
    let (t, more) := t.carryOutAll c rest
    (t, first ++ more)

end Tree

/-- The object tree with the memory of what was announced. -/
structure Presence where
  tree : Tree := {}
  memo : BusMemo := {}

namespace Presence

/-- Serves all objects of a network. -/
def introduce (c : Context) : Presence × List Broadcast :=
  let (memo, plan) := BusMemo.introduce c.network
  let (tree, sent) := Tree.carryOutAll {} c plan
  ({ tree, memo }, sent)

/-- Brings what is served and announced in line with a changed network. -/
def advance (e : Presence) (c : Context) (changes : Changes) : Presence × List Broadcast :=
  let (memo, plan) := e.memo.advance c.network changes
  let (tree, sent) := e.tree.carryOutAll c plan
  ({ tree, memo }, sent)

end Presence

end LinkBus.Bus
