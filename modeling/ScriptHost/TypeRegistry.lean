import ScriptHost.Keyed
import ScriptHost.Spelling
import ScriptHost.Error

/-!
# The type registry

Which members scripts can reach on each host type. A type has members of its own, added once it is
registered, and extensions, which name the type they belong to. Members of one name are overloads
and stay in the order of their registration.

## Main definitions

* `TypeDescriptor`, `TypeRegistry`: the registry.
* `TypeRegistry.registerType`, `registerMember`, `registerExtension`: registration.
* `TypeRegistry.resolve`: the members a name stands for.
-/

namespace ScriptHost

/-- A registered type: its name for scripts and its members. -/
structure TypeDescriptor where
  name : String
  type : HostType
  members : Keyed String (List MethodId)

namespace TypeDescriptor

/-- The members with exactly a given name. -/
def overloads (d : TypeDescriptor) (name : String) : List MethodId :=
  (d.members.get? name).getD []

/-- The names of the members in order. -/
def memberNames (d : TypeDescriptor) : List String :=
  d.members.keys.mergeSort fun a b => !decide (b < a)

/-- The descriptor with one more member. -/
def addMember (d : TypeDescriptor) (name : String) (m : MethodId) : TypeDescriptor :=
  { d with members := d.members.insert name (d.overloads name ++ [m]) }

end TypeDescriptor

/-- **The registry** of types and members. -/
structure TypeRegistry where
  types : Keyed HostType TypeDescriptor
  /-- Extensions by name, each with the type it belongs to. -/
  extensions : Keyed String (List (HostType × MethodId))
  /-- The types whose objects scripts see through a view. -/
  proxied : List HostType

namespace TypeRegistry

/-- The registry without types. -/
def empty : TypeRegistry := ⟨.empty, .empty, []⟩

/-- Whether a type is registered. -/
def isRegistered (r : TypeRegistry) (t : HostType) : Bool := (r.types.get? t).isSome

/-- **Registration of a type**, which keeps what was there. -/
def registerType (r : TypeRegistry) (t : HostType) (name : String) : TypeRegistry :=
  match r.types.get? t with
  | some _ => r
  | none => { r with types := r.types.insert t ⟨name, t, .empty⟩ }

/-- The type registered under a name. -/
def findByName (r : TypeRegistry) (name : String) : Option TypeDescriptor :=
  (r.types.entries.map (·.2)).find? (·.name = name)

/-- **Registration of a member** of a registered type. -/
def registerMember (r : TypeRegistry) (t : HostType) (name : String) (m : MethodId) :
    Except ScriptError TypeRegistry :=
  match r.types.get? t with
  | none =>
    .error (.runtime ("cannot add member '" ++ name ++ "' to unregistered type " ++ t.name))
  | some d => .ok { r with types := r.types.insert t (d.addMember name m) }

/-- **Registration of an extension** of the type it names. -/
def registerExtension (r : TypeRegistry) (target : Option HostType) (name : String) (m : MethodId) :
    Except ScriptError TypeRegistry :=
  match target with
  | none => .error (.invalidDescriptor name "not an extension method")
  | some t =>
    let known := (r.extensions.get? name).getD []
    .ok { r with extensions := r.extensions.insert name (known ++ [(t, m)]) }

/-- Registration of a view for the objects of a type. -/
def registerProxy (r : TypeRegistry) (t view : HostType) (name : String) : TypeRegistry :=
  let registered := r.registerType view name
  { registered with proxied := t :: registered.proxied }

/-- The members under exactly a given name: the type's own, then its extensions. -/
def exactly (r : TypeRegistry) (t : HostType) (name : String) : List MethodId :=
  let own := match r.types.get? t with
    | some d => d.overloads name
    | none => []
  let extensions := ((r.extensions.get? name).getD []).filter (·.1 = t)
  own ++ extensions.map (·.2)

/-- **The members a name stands for**: those under the first spelling that has any. -/
def resolve (r : TypeRegistry) (t : HostType) (name : String) (s : Spelling) : List MethodId :=
  ((s.candidates name).map (r.exactly t)).find? (!·.isEmpty) |>.getD []

end TypeRegistry

end ScriptHost
