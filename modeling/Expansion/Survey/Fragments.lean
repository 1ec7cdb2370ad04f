import Expansion.Survey.Basic

/-!
# Expanding types

Every expander of a survey is paired with every type, expander by expander and then type by type.

* **A pair runs if the expander applies to the type** (`appliesTo`): the type asks for the template,
  and asks for it explicitly if the expander wants that.
* A pair that does not run gives an empty fragment, so the place of a fragment tells its pair.
* The first fault ends the expansion, and no later pair runs.
-/

namespace Expansion

/-- An expander that gave up on a type. -/
structure ExpansionFault where
  expander : String
  typeName : String
  message : String
  deriving DecidableEq, Repr

/-- Whether an expander runs for a type. -/
def Expander.appliesTo {σ : Type} (e : Expander σ) (t : ExpandableType) : Bool :=
  t.accepts e.template && (!e.explicitUse || t.requests e.template)

namespace Survey

variable {σ : Type}

/-- The fragment of a pair. -/
def fragment (e : Expander σ) (t : ExpandableType) : StateM σ (Except ExpansionFault String) :=
  if e.appliesTo t then do
    match ← e.call t.info with
    | .ok text => pure (.ok text)
    | .error fault => pure (.error ⟨e.name, t.name, fault.message⟩)
  else pure (.ok "")

/-- The fragments of pairs, in order, up to the first fault. -/
def fragmentsOf : List (Expander σ × ExpandableType) →
    StateM σ (Except ExpansionFault (List String))
  | [] => pure (.ok [])
  | (e, t) :: rest => do
    match ← fragment e t with
    -- The pairs behind a fault are never asked.
    | .error fault => pure (.error fault)
    | .ok text =>
      match ← fragmentsOf rest with
      | .error fault => pure (.error fault)
      | .ok texts => pure (.ok (text :: texts))

/-- The pairs of a survey: expander by expander, and for each type by type. -/
def pairs (types : List ExpandableType) (expanders : List (Expander σ)) :
    List (Expander σ × ExpandableType) :=
  expanders.flatMap fun e => types.map fun t => (e, t)

/-- The fragments of all pairs. -/
def expand (s : Survey σ) : StateM σ (Except ExpansionFault (List String)) :=
  fragmentsOf (pairs s.types s.expanders)

end Survey

end Expansion
