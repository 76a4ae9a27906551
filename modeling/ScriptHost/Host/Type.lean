import ScriptHost.Numeric.Kind

/-!
# Host types

The types a host tells apart at run time. Values of some of them have a form of their own in
scripts; the others reach scripts as objects.

## Main definitions

* `HostType`: the types.
* `HostType.name`: the name a type is reported under.
* `HostType.isSealed`: the types of objects that are never looked into.
-/

namespace ScriptHost

/-- **The types of the host.** -/
inductive HostType where
  | bool
  | double
  /-- The type of a numeric kind. -/
  | numeric (kind : NumericKind)
  | text
  /-- Any host value. -/
  | hostValue
  /-- Types themselves. -/
  | hostType
  | hostArray
  /-- A type as scripts hold it. -/
  | staticType
  /-- Any script value. -/
  | scriptValue
  | table
  | function
  | context
  | arguments
  /-- A boxed number of a host kind. -/
  | wrapper
  | script
  /-- A mutable counter. -/
  | counter
  /-- An account with a balance. -/
  | account
  /-- The view of an account that scripts are shown. -/
  | accountView
  /-- An object with nothing in it. -/
  | blank
  /-- Any other type of the host's own, told apart by its name. -/
  | own (name : String)
deriving DecidableEq, Repr

namespace HostType

/-- The name a type is reported under. -/
def name : HostType → String
  | bool => "bool"
  | double => "f64"
  | numeric (.integer .sbyte) => "i8"
  | numeric (.integer .byte) => "u8"
  | numeric (.integer .int16) => "i16"
  | numeric (.integer .uint16) => "u16"
  | numeric (.integer .int32) => "i32"
  | numeric (.integer .uint32) => "u32"
  | numeric (.integer .int64) => "i64"
  | numeric (.integer .uint64) => "u64"
  | numeric .single => "f32"
  | numeric .decimal => "rust_decimal::decimal::Decimal"
  | text => "alloc::string::String"
  | hostValue => "lunar_lang::interop::host::HostValue"
  | hostType => "lunar_lang::interop::host::HostType"
  | hostArray => "lunar_lang::interop::host::HostArray"
  | staticType => "lunar_lang::interop::host::StaticType"
  | scriptValue => "lunar_lang::runtime::value::DynValue"
  | table => "lunar_lang::runtime::table::Table"
  | function => "lunar_lang::runtime::callback::CallbackFunction"
  | context => "lunar_lang::runtime::callback::ExecutionContext"
  | arguments => "lunar_lang::runtime::callback::CallbackArguments"
  | wrapper => "lunar_lang::types::wrapper::PrimitiveWrapper"
  | script => "lunar_lang::Script"
  | counter => "oracle_driver::Counter"
  | account => "oracle_driver::Account"
  | accountView => "oracle_driver::AccountView"
  | blank => "oracle_driver::Opaque"
  | own name => name

/-- The numeric kind whose type this is. -/
def kind? : HostType → Option NumericKind
  | numeric k => some k
  | _ => none

/-- Whether objects of the type are never looked into. The other types are those whose objects
conversions, proxies or observers read. -/
def isSealed : HostType → Bool
  | counter | account | accountView | blank | text | hostArray | staticType | wrapper => false
  | numeric (.integer .int32) => false
  | _ => true

end HostType

end ScriptHost
