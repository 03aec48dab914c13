import LinkBus.Bus.Method

/-!
# The object tree

The manager and the settings object are always served; the objects of devices come and go. Every
path on the way to an object is a node of the tree, also if nothing is served there. Nodes that lead
to objects of one kind stay when the last object is gone.

An object manager near the root announces each interface that comes, with its properties, and each
that goes, and lists everything below it.
-/

namespace LinkBus.Bus

/-- A message to all clients. -/
structure Broadcast where
  /-- The object that sends. -/
  path : String
  /-- The interface of the signal. -/
  interface : String
  /-- The name of the signal. -/
  member : String
  /-- The arguments. -/
  body : Body

/-- The path of the object manager. -/
def objectManagerNode : String := "/org/freedesktop"

/-- The interface of the object manager. -/
def objectManagerInterface : String := "org.freedesktop.DBus.ObjectManager"

/-- The interface of properties. -/
def propertiesInterface : String := "org.freedesktop.DBus.Properties"

/-- The interface for checking that someone answers, which every node has. -/
def peerInterface : String := "org.freedesktop.DBus.Peer"

/-- The interface that every node has for describing itself. -/
def introspectableInterface : String := "org.freedesktop.DBus.Introspectable"

/-- The interfaces of a kind of object, in the order of their registration. -/
def interfacesOf : ObjectRole → List Interface
  | .device medium => [.announced .device, .announced (.specific medium)]
  | .settingsConnection => [.settingsConnection]
  | .ip4Config => [.announced .ip4Config]
  | .ip6Config => [.announced .ip6Config]
  | .activeConnection => [.announced .activeConnection]

/-- The node that leads to the objects of a kind. -/
def folder : PathKind → String
  | .device => "/org/freedesktop/NetworkManager/Devices"
  | .ip4 => "/org/freedesktop/NetworkManager/IP4Config"
  | .ip6 => "/org/freedesktop/NetworkManager/IP6Config"
  | .active => "/org/freedesktop/NetworkManager/ActiveConnection"
  | .settings => settingsPath

/-- What is served besides the manager and the settings object. -/
structure Tree where
  /-- The objects of devices that are served, in the order of their registration. -/
  objects : List BusObject := []
  /-- The kinds of path that have ever had an object. -/
  folders : List PathKind := []
  deriving DecidableEq, Repr

/-- What is served at a path: interfaces of the object with a number. -/
structure ServedObject where
  number : Nat
  interfaces : List Interface

/-- The interfaces with their properties, as one value. -/
def ServedObject.describe (o : ServedObject) (c : Context) : Value :=
  .dict .text Value.propertiesType
    (o.interfaces.map fun i => (i.name, .properties (i.getAll c o.number)))

namespace Tree

/-- What is served at a path. -/
def served? (t : Tree) (path : String) : Option ServedObject :=
  if path = managerPath then some ⟨0, [.announced .manager]⟩
  else if path = settingsPath then some ⟨0, [.announced .settings]⟩
  else (t.objects.find? fun o => o.path == path).map fun o => ⟨o.number, interfacesOf o.role⟩

/-- The paths of the nodes below the object manager. -/
def nodes (t : Tree) : List String :=
  [managerPath, settingsPath] ++ (t.folders.filter (· ≠ .settings)).map folder ++
    t.objects.map BusObject.path

/-- Whether a path is a node. -/
def hasNode (t : Tree) (path : String) : Bool :=
  ["/", "/org", objectManagerNode].contains path || t.nodes.contains path

/-- Everything that is served below the object manager. -/
def managedObjects (t : Tree) (c : Context) : Value :=
  .dict .path (.dict .text Value.propertiesType) (t.nodes.map fun path =>
    (path, ((t.served? path).getD ⟨0, []⟩).describe c))

/-- The announcement of an interface that comes. -/
def added (c : Context) (path : String) (number : Nat) (i : Interface) : Broadcast where
  path := objectManagerNode
  interface := objectManagerInterface
  member := "InterfacesAdded"
  body := [.path path, ServedObject.describe ⟨number, [i]⟩ c]

/-- The announcement of an interface that goes. -/
def removed (path : String) (i : Interface) : Broadcast where
  path := objectManagerNode
  interface := objectManagerInterface
  member := "InterfacesRemoved"
  body := [.path path, .texts [i.name]]

/-- Serves an object, unless it is served already. -/
def add (t : Tree) (c : Context) (o : BusObject) : Tree × List Broadcast :=
  if t.objects.contains o then (t, [])
  else
    let kind := o.role.pathKind
    ({ objects := t.objects ++ [o]
       folders := if t.folders.contains kind then t.folders else t.folders ++ [kind] },
      (interfacesOf o.role).map (added c o.path o.number))

/-- Stops serving an object. -/
def remove (t : Tree) (o : BusObject) : Tree × List Broadcast :=
  if t.objects.contains o then
    ({ t with objects := t.objects.erase o }, (interfacesOf o.role).reverse.map (removed o.path))
  else (t, [])

/-- The announcements of the objects that are always served. -/
def standing (c : Context) : List Broadcast :=
  [added c managerPath 0 (.announced .manager), added c settingsPath 0 (.announced .settings)]

end Tree

/-- The reply to a call of a method that an interface does not have. -/
def unknownMethod (member : String) : Response :=
  .ofExcept (.error ⟨.unknownMethod, s!"Unknown method '{member}'"⟩)

/-- The reply about an interface that a node does not have. -/
def unknownInterface (name : String) : Response :=
  .ofExcept (.error ⟨.unknownInterface, s!"Unknown interface '{name}'"⟩)

/-- The reply about a property that an interface does not have. -/
def unknownProperty (name : String) : Response :=
  .ofExcept (.error ⟨.unknownProperty, s!"Unknown property '{name}'"⟩)

/-- The interfaces that a node has besides those served there. They have no properties. -/
def commonInterfaces (path : String) : List String :=
  [propertiesInterface, peerInterface, introspectableInterface] ++
    if path = objectManagerNode then [objectManagerInterface] else []

/-- The properties of an interface at a path: their getters and all their values. -/
structure PropertySource where
  get? : String → Option (Except BusError Value)
  all : List (String × Value)

/-- Where the properties of an interface at a path come from. -/
def Tree.propertySource? (t : Tree) (c : Context) (path interface : String) :
    Option PropertySource :=
  if (commonInterfaces path).contains interface then some ⟨fun _ => none, []⟩
  else (t.served? path).bind fun o =>
    (o.interfaces.find? fun i => i.name == interface).map fun i =>
      ⟨i.get? c o.number, i.getAll c o.number⟩

/-- Reads and refuses to write properties: none of them can be written. -/
def Tree.propertiesMethod? (t : Tree) (c : Context) (path member : String) (arguments : Body) :
    Option Response :=
  match member with
  | "Get" => some <| match arguments with
    | [.text interface, .text name] =>
      match t.propertySource? c path interface with
      | none => unknownInterface interface
      | some source => match source.get? name with
        | none => unknownProperty name
        | some value => .ofExcept (value.map fun v => [.variant v])
    | _ => wrongArguments [.text, .text] arguments
  | "GetAll" => some <| match arguments with
    | [.text interface] =>
      match t.propertySource? c path interface with
      | none => unknownInterface interface
      | some source => answer [.properties source.all]
    | _ => wrongArguments [.text] arguments
  | "Set" => some <| match arguments with
    | [.text interface, .text name, .variant _] =>
      match t.propertySource? c path interface with
      | none => unknownInterface interface
      | some _ => unknownProperty name
    | _ => wrongArguments [.text, .text, .variant] arguments
  | _ => none

/-- What a method of an interface at a node does, if the node has the interface. -/
def Tree.method? (t : Tree) (c : Context) (control : LinkSwitch) (path interface member : String)
    (arguments : Body) : Option (Option Response) :=
  if interface = propertiesInterface then some (t.propertiesMethod? c path member arguments)
  else if interface = introspectableInterface then some none
  else if interface = objectManagerInterface ∧ path = objectManagerNode then
    some (if member = "GetManagedObjects" then some (answer [t.managedObjects c]) else none)
  else (t.served? path).bind fun o =>
    (o.interfaces.find? fun i => i.name == interface).map
      (Interface.method? c control o.number member arguments)

/-- Answers a call. The connection itself can be checked at any path. Otherwise the object is looked
for first, then the interface, then the method. -/
def Tree.call (t : Tree) (c : Context) (control : LinkSwitch) (path interface member : String)
    (arguments : Body) : Response :=
  if interface = peerInterface then
    if member = "Ping" then answer [] else unknownMethod member
  else if t.hasNode path then
    match t.method? c control path interface member arguments with
    | none => unknownInterface interface
    | some none => unknownMethod member
    | some (some reply) => reply
  else .ofExcept (.error ⟨.unknownObject, s!"Unknown object '{path}'"⟩)

end LinkBus.Bus
