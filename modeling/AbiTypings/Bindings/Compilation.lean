import AbiTypings.Bindings.Basic
import AbiTypings.Bindings.Member

/-!
# Compilation

Bindings are compiled from the members of a document, in order. The methods and filters bound so far
are kept beside the registry of the records they share.
-/

namespace AbiTypings

/-- What was compiled so far. -/
structure Compilation where
  registry : Registry := {}
  events : List EventFilter := []
  methods : List Method := []
  deriving DecidableEq, Repr

namespace Compilation

/-- Run a computation on the registry. A result is taken into the compilation. -/
def register {α : Type} (c : Compilation) (action : Registering α)
    (take : Compilation → α → Compilation) : Except Fault Unit × Compilation :=
  match action.run c.registry with
  | (.ok a, registry) => (.ok (), take { c with registry := registry } a)
  | (.error e, registry) => (.error e, { c with registry := registry })

/-- Append a method. -/
def addMethod (c : Compilation) (method : Method) : Compilation :=
  { c with methods := c.methods ++ [method] }

/-- Append an event filter. -/
def addEvent (c : Compilation) (filter : EventFilter) : Compilation :=
  { c with events := c.events ++ [filter] }

/-- Bind one member. A member that fails leaves no method or filter, and what it had registered
stays. -/
def bindMember (profile : Profile) (c : Compilation) :
    Member → Except Fault Unit × Compilation
  | .constructor inputs traits => c.register (Method.ofConstructor profile inputs traits) addMethod
  | .function name inputs outputs traits =>
    c.register (Method.ofFunction profile name inputs outputs traits) addMethod
  | .event name inputs _ => c.register (EventFilter.ofEvent profile name inputs) addEvent
  | .nonCallable .. => (.ok (), c)

/-- Bind members in order, up to the first that fails. -/
def bindMembers (profile : Profile) (c : Compilation) :
    List Member → Except Fault Compilation
  | [] => .ok c
  | m :: ms =>
    match c.bindMember profile m with
    | (.ok _, c) => bindMembers profile c ms
    | (.error e, _) => .error e

/-- The bindings compiled so far. -/
def bindings (options : Options) (c : Compilation) : Bindings where
  dialect := options.dialect
  library := options.library
  names := moduleNames options.start
  methodNames := c.registry.methods
  eventNames := c.registry.events
  records := c.registry.records
  events := c.events
  methods := c.methods

end Compilation

/-- The bindings of a list of members. -/
def Bindings.ofMembers (options : Options) (ms : List Member) : Except Fault Bindings :=
  (Compilation.bindMembers options.dialect.profile {} ms).map (Compilation.bindings options)

end AbiTypings
