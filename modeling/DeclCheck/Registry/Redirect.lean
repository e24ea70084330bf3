/-
# DeclCheck.Registry.Redirect — leading placeholders to what they stand for.

A placeholder is redirected once.  Its listeners are told first, in the order in which they were
added, and see the registry as it is before the redirect, their own list already empty.  A redirect
that would lead back to its placeholder is refused, so redirects never form a cycle.
-/
import DeclCheck.Registry.Basic

namespace DeclCheck

/-- What a listener is told. -/
structure RedirectEvent where
  listener : String
  placeholder : ClassId
  target : ClassId
  /-- The registry at that moment. -/
  seen : Registry

/-- Remove `name` if it stands for `id`. -/
def NameMap.eraseIf (map : NameMap ClassId) (name : String) (id : ClassId) : NameMap ClassId :=
  if map.get? name = some id then map.erase name else map

namespace Registry

/-- The entry of a placeholder that is not redirected yet. -/
def openPlaceholder (registry : Registry) (id : ClassId) : Except RegistryError Entry :=
  match registry.entry? id with
  | none => .error (.unknownClass id)
  | some entry =>
    if !entry.isPlaceholder then .error (.notPlaceholder entry.name)
    else if entry.redirect.isSome then .error (.alreadyRedirected entry.name)
    else .ok entry

/-- Have `listener` told when the placeholder is redirected. -/
def listen (registry : Registry) (placeholder : ClassId) (listener : String) :
    Except RegistryError Registry := do
  let _ ← registry.openPlaceholder placeholder
  return registry.modifyEntry placeholder fun entry =>
    { entry with listeners := entry.listeners ++ [listener] }

/-- The registry with the placeholder's redirect set, and its name no longer waiting. -/
def link (registry : Registry) (name : String) (placeholder target : ClassId) : Registry :=
  { registry.modifyEntry placeholder fun entry => { entry with redirect := some target } with
    pending := registry.pending.eraseIf name placeholder
    toResolve := registry.toResolve.eraseIf name placeholder }

/-- Lead a placeholder to `target`. -/
def redirect (registry : Registry) (placeholder target : ClassId) :
    Except RegistryError (Registry × List RedirectEvent) :=
  match registry.entry? target with
  | none => .error (.unknownClass target)
  | some _ => do
    let entry ← registry.openPlaceholder placeholder
    if registry.resolve target = placeholder then .error (.selfRedirect entry.name)
    else
      let quiet := registry.modifyEntry placeholder fun entry => { entry with listeners := [] }
      let events := entry.listeners.map fun listener => ⟨listener, placeholder, target, quiet⟩
      return (quiet.link entry.name placeholder target, events)

end Registry

end DeclCheck
