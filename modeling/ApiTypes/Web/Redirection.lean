import ApiTypes.Web.Address

/-!
# Redirections

A reply may redirect to another address, which may be given relative to the one
that was asked for. An address with a scheme and no host is on the host asked.
A fragment goes along unless the redirection gives one.
-/

set_option autoImplicit false

namespace ApiTypes

inductive RedirectionFault where
  /-- What is given is no address. -/
  | noTarget
  /-- The address that it leads to is none. -/
  | target (fault : AddressFault)
  /-- A host is no spelling of a name. -/
  | misspelledHost (fault : HostName.LabelFault)
  deriving DecidableEq, Repr

namespace Address

def withHostOf (base a : Address) : Except RedirectionFault Address := do
  if a.scheme = "" then return a
  if (← a.shownHost.mapError .misspelledHost).isEmpty then
    let host ← base.shownHost.mapError .misspelledHost
    (ofParts { a.parts with host := host }).mapError .target
  else return a

def withFragmentOf (base a : Address) : Except RedirectionFault Address :=
  match base.fragment with
  | some f =>
    if f = "" || a.fragment.getD "" ≠ "" then .ok a
    else (ofParts { a.parts with fragment := some (unescape f) }).mapError .target
  | none => .ok a

def follow (base : Address) (location : String) : Except RedirectionFault Address := do
  let given ← (ofText location).mapError fun _ => .noTarget
  let hosted ← base.withHostOf given
  let full := String.ofList (Locator.resolve base.text.toList hosted.text.toList)
  let found ← if hosted.isComplete then pure hosted else (ofText full).mapError .target
  let target ← base.withFragmentOf found
  let _ ← target.shownHost.mapError .misspelledHost
  let _ ← base.shownHost.mapError .misspelledHost
  return target

end Address

end ApiTypes
